/-
# Prepared answers

An origin that answers from a script is good for rehearsing what a resolver does. The script
says what is answered to which query, how often others may run before an answer, and what
comes of one refresh after another. What was asked is noted in it.
-/

import Federation.Keyed
import Federation.Origin.Basic

namespace Federation.Origin

open Federation.Metadata Federation.Time

/-- Prepared answers, and what was asked so far. -/
structure Script where
  /-- Answers by ID, or by the whole query if it states none. -/
  answers : Keyed String (Except Failure (Option Document))
  /-- How often others may run before an answer. -/
  pauses : Nat
  refreshes : List (Except Failure RefreshOutcome)
  /-- The queries that were asked. -/
  asked : List String
  /-- The number of refreshes that were used up. -/
  refreshed : Nat

namespace Script

/-- A script without answers. -/
def empty : Script := ⟨.empty, 0, [], [], 0⟩

/-- The script with nothing noted. -/
def forget (s : Script) : Script := { s with asked := [], refreshed := 0 }

/-- Lets others run a number of times. -/
def linger {σ : Type} : Nat → Task σ Unit
  | 0 => pure ()
  | n + 1 => .pause (linger n)

/-- Changes the script. -/
def change (f : Script → Script) : Task (OriginScope Script) Unit :=
  Task.change fun s => { s with state := f s.state }

/-- Answers a query. -/
def fetch (query : Criteria) : Task (OriginScope Script) (Option Document) := do
  change fun s => { s with asked := s.asked ++ [query.shown] }
  linger (← Task.read (·.state.pauses))
  .ofExcept ((← Task.read (·.state.answers.get? (query.entityId.getD query.shown))).getD (.ok none))

/-- Uses up a refresh. -/
def refresh : Task (OriginScope Script) RefreshOutcome := do
  match ← Task.read (·.state.refreshes) with
  | [] => return .notApplicable
  | outcome :: rest =>
    change fun s => { s with refreshes := rest, refreshed := s.refreshed + 1 }
    .ofExcept outcome

/-- The origin that answers from a script. -/
def origin (isPrefiltered isSecondary : Bool) (retryDelay : Option Delay) : Origin Script where
  fetch := fetch
  refresh _ _ := refresh
  isPrefiltered := isPrefiltered
  isSecondary := isSecondary
  retryDelay := retryDelay

end Script

end Federation.Origin
