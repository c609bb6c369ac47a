/-
# Watching an origin

How many fetches of an entity are under way at an origin, and how many there have been, is not part
of the state of a resolver. To speak of it, one watches the origin: when a fetch by ID begins and
when it ends is noted beside the state of the origin, which does what it would do anyway.

## Main definitions

- `Tally`: what has been noted.
- `Origin.watched`, `Resolver.watched`: an origin, and a resolver of it, that is watched.

## Main results

- `Origin.run_watched_fetch`: to watch an origin changes nothing about what it answers.
- `Origin.begun_watched_fetch`: every fetch by ID is noted once.
-/

import Federation.Proofs.Task.Runs
import Federation.Resolver.Resolve

namespace Federation

variable {ε : Type}

/-- The IDs under which an entity is being fetched, and those under which one ever was. -/
structure Tally where
  underway : List String
  begun : List String

namespace Tally

/-- Nothing has been fetched. -/
def empty : Tally := ⟨[], []⟩

/-- A fetch begins. -/
def start (tally : Tally) (id : String) : Tally := ⟨id :: tally.underway, id :: tally.begun⟩

/-- A fetch ends. -/
def finish (tally : Tally) (id : String) : Tally :=
  { tally with underway := tally.underway.erase id }

/-- The state of an origin beside a tally. -/
def beside : Task.Place (Tally × ε) ε where
  get s := s.2
  put s state := (s.1, state)

end Tally

namespace OriginScope

/-- Notes something. -/
def note (f : Tally → Tally) : Task (OriginScope (Tally × ε)) Unit :=
  .change fun s => { s with state := (f s.state.1, s.state.2) }

theorem run_note (f : Tally → Tally) (s : OriginScope (Tally × ε)) :
    (note f).run s = (.ok (), { s with state := (f s.state.1, s.state.2) }) := rfl

end OriginScope

namespace Origin

/-- An origin that notes when a fetch by ID begins and when it ends. -/
def watched (origin : Origin ε) : Origin (Tally × ε) :=
  { origin.on Tally.beside with
    fetch := fun query =>
      match query.entityId with
      | none => (origin.on Tally.beside).fetch query
      | some id => do
        OriginScope.note (·.start id)
        let answer ← ((origin.on Tally.beside).fetch query).attempt
        OriginScope.note (·.finish id)
        .ofExcept answer }

variable {origin : Origin ε} {query : Criteria} {id : String}

theorem watched_fetch_of_none (unasked : query.entityId = none) :
    origin.watched.fetch query = (origin.on Tally.beside).fetch query := by
  rw [watched]
  dsimp only
  rw [unasked]

theorem watched_fetch_of_some (asked : query.entityId = some id) :
    origin.watched.fetch query = (do
      OriginScope.note (·.start id)
      let answer ← ((origin.on Tally.beside).fetch query).attempt
      OriginScope.note (·.finish id)
      .ofExcept answer) := by
  rw [watched]
  dsimp only
  rw [asked]

/-- To watch an origin changes nothing about what it answers and what state that leaves it in. -/
theorem run_watched_fetch {metrics metrics' : Metrics} {tally : Tally} {state state' : ε}
    {outcome : Outcome (Option Metadata.Document)}
    (ran : (origin.fetch query).run ⟨metrics, state⟩ = (outcome, ⟨metrics', state'⟩)) :
    ∃ tally', (origin.watched.fetch query).run ⟨metrics, (tally, state)⟩
      = (outcome, ⟨metrics', (tally', state')⟩) := by
  have beside (tally : Tally) :
      ((origin.on Tally.beside).fetch query).run ⟨metrics, (tally, state)⟩
        = (outcome, ⟨metrics', (tally, state')⟩) := by
    rw [Origin.on, Task.run_on]
    dsimp only [OriginScope.part, Tally.beside]
    rw [ran]
  cases asked : query.entityId with
  | none =>
    rw [watched_fetch_of_none asked]
    exact ⟨tally, beside tally⟩
  | some id =>
    rw [watched_fetch_of_some asked, Task.run_then, OriginScope.run_note,
      Task.proceed_ok, Task.run_then, Task.run_attempt, beside]
    cases outcome with
    | ok answer => exact ⟨(tally.start id).finish id, rfl⟩
    | failed failure => exact ⟨(tally.start id).finish id, rfl⟩
    | overflow => exact ⟨tally.start id, rfl⟩

/-- A fetch by ID is noted once, whatever comes of it. -/
theorem begun_watched_fetch (asked : query.entityId = some id) (s : OriginScope (Tally × ε)) :
    ((origin.watched.fetch query).run s).2.state.1.begun = id :: s.state.1.begun := by
  rw [watched_fetch_of_some asked, Task.run_then, OriginScope.run_note, Task.proceed_ok,
    Task.run_then, Task.run_attempt, Origin.on, Task.run_on]
  generalize (origin.fetch query).run _ = ran
  obtain ⟨outcome, part⟩ := ran
  cases outcome <;> rfl

end Origin

namespace Resolver

/-- A resolver whose origin is watched. -/
def watched (r : Resolver ε) : Resolver (Tally × ε) where
  id := r.id
  policy := r.policy
  origin := r.origin.watched
  filters := r.filters
  warmFilters := r.warmFilters
  persistence := r.persistence

end Resolver

end Federation
