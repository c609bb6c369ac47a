/-
# Calls that interleave

Several callers use one state. Each call is known by what was asked; what is left of it is a task.
Calls are listed in the order in which they were started, so that the place of a call in the list
never changes, and calls that have been started since some moment are those behind the ones of
that moment. How much of a call is carried out at once is a parameter: on several threads it is a
single update, on one thread all updates up to the next pause.

## Main definitions

- `Task.oneStep`: the next update of a task.
- `Task.Interleaves`: what may happen next among calls.
- `Task.giveTurns`: calls have turns in some order.
- `Task.GoesOn`: one of some calls goes on.

## Main results

- `Task.forall_go`, `Task.forall_start`: what is true of every call, by its place, after one has
  gone on or one has been started.
- `Interleaves.steps`: calls that take turns do so step by step.
- `Task.acc_goesOn`: calls cannot go on for ever.
-/

import Mathlib.Logic.Relation
import Federation.Proofs.Task.Runs
import Federation.Task.Round

namespace Federation.Task

variable {κ σ α : Type}

/-- The next update of a task, where a pause is over at once. -/
def oneStep : Task σ α → σ → Task σ α × σ
  | ended outcome, s => (ended outcome, s)
  | act update next, s => (next s, update s)
  | pause next, s => (next, s)
  | await ready next, s => (if ready s then next else await ready next, s)

/-- What may happen next among calls: the world moves, a call is started that may be, or a call
goes on. -/
inductive Interleaves (go : Task σ α → σ → Task σ α × σ) (world : Drift σ) (body : κ → Task σ α)
    (may : κ → Prop) : List (κ × Task σ α) × σ → List (κ × Task σ α) × σ → Prop where
  | world (calls : List (κ × Task σ α)) {s s' : σ} (moved : world.rel s s') :
      Interleaves go world body may (calls, s) (calls, s')
  | start (calls : List (κ × Task σ α)) (s : σ) {c : κ} (allowed : may c) :
      Interleaves go world body may (calls, s) (calls ++ [(c, body c)], s)
  | go {calls : List (κ × Task σ α)} {place : Nat} {c : κ} {t : Task σ α} (s : σ)
      (found : calls[place]? = some (c, t)) :
      Interleaves go world body may (calls, s) (calls.set place (c, (go t s).1), (go t s).2)

variable {go : Task σ α → σ → Task σ α × σ} {world : Drift σ} {body : κ → Task σ α}
  {may may' : κ → Prop} {calls : List (κ × Task σ α)} {before after : List (κ × Task σ α) × σ}
  {P : Nat → κ → Task σ α → Prop} {place : Nat} {c : κ} {t : Task σ α}

/-- What may happen where fewer calls may be started may happen where more may. -/
theorem Interleaves.mono (fewer : ∀ c, may c → may' c)
    (next : Interleaves go world body may before after) :
    Interleaves go world body may' before after := by
  cases next with
  | world calls moved => exact .world calls moved
  | start calls s allowed => exact .start calls s (fewer _ allowed)
  | go s found => exact .go s found

/-- What is true of every call stays true when one of them goes on, if it is true of that one. -/
theorem forall_go (all : ∀ i c t, calls[i]? = some (c, t) → P i c t) (own : P place c t) :
    ∀ i c' t', (calls.set place (c, t))[i]? = some (c', t') → P i c' t' := by
  intro i c' t' found
  rw [List.getElem?_set] at found
  split at found
  · rename_i same
    split at found
    · obtain ⟨rfl, rfl⟩ := Prod.mk.inj (Option.some_inj.1 found)
      exact same ▸ own
    · cases found
  · exact all i c' t' found

/-- What is true of every call stays true when one is started, if it is true of that one. -/
theorem forall_start (all : ∀ i c t, calls[i]? = some (c, t) → P i c t)
    (own : P calls.length c t) :
    ∀ i c' t', (calls ++ [(c, t)])[i]? = some (c', t') → P i c' t' := by
  intro i c' t' found
  rcases Nat.lt_trichotomy i calls.length with before | rfl | beyond
  · rw [List.getElem?_append_left before] at found
    exact all i c' t' found
  · rw [List.getElem?_concat_length] at found
    obtain ⟨rfl, rfl⟩ := Prod.mk.inj (Option.some_inj.1 found)
    exact own
  · have outside : (calls ++ [(c, t)]).length ≤ i := by
      rw [List.length_append, List.length_singleton]
      exact beyond
    rw [List.getElem?_eq_none outside] at found
    cases found

/-- No call is ever taken off the list. -/
theorem Interleaves.length_le (next : Interleaves go world body may before after) :
    before.1.length ≤ after.1.length := by
  cases next with
  | world calls moved => exact Nat.le_refl _
  | start calls s allowed => simp
  | go s found => simp

/-! ## Turns are steps -/

theorem getElem?_set_of_getElem? (found : calls[place]? = some (c, t)) (t' : Task σ α) :
    (calls.set place (c, t'))[place]? = some (c, t') :=
  List.getElem?_set_self (List.getElem?_eq_some_iff.1 found).1

theorem set_of_getElem? (found : calls[place]? = some (c, t)) : calls.set place (c, t) = calls := by
  refine List.ext_getElem? fun other => ?_
  by_cases same : place = other
  · rw [← same, getElem?_set_of_getElem? found, found]
  · rw [List.getElem?_set_ne same]

/-- A step of a call, and what it comes to after more steps. -/
theorem reflTransGen_of_oneStep {t' : Task σ α} {s s' : σ} {last : Task σ α × σ}
    (found : calls[place]? = some (c, t)) (step : t.oneStep s = (t', s'))
    (rest : Relation.ReflTransGen (Interleaves oneStep world body may)
      (calls.set place (c, t'), s') ((calls.set place (c, t')).set place (c, last.1), last.2)) :
    Relation.ReflTransGen (Interleaves oneStep world body may) (calls, s)
      (calls.set place (c, last.1), last.2) := by
  have first : Interleaves oneStep world body may (calls, s)
      (calls.set place (c, (t.oneStep s).1), (t.oneStep s).2) := .go s found
  rw [step] at first
  rw [List.set_set] at rest
  exact .head first rest

/-- A call that has a turn goes on step by step. -/
theorem reflTransGen_turn (found : calls[place]? = some (c, t)) (s : σ) :
    Relation.ReflTransGen (Interleaves oneStep world body may) (calls, s)
      (calls.set place (c, (t.turn s).1), (t.turn s).2) := by
  induction t generalizing calls s with
  | ended outcome => rw [turn, set_of_getElem? found]
  | act update next ih =>
    exact reflTransGen_of_oneStep found rfl (ih s (getElem?_set_of_getElem? found _) (update s))
  | pause next ih => rw [turn, set_of_getElem? found]
  | await ready next ih =>
    rw [turn]
    cases isReady : ready s with
    | true =>
      rw [if_pos rfl]
      refine reflTransGen_of_oneStep found ?_ (ih (getElem?_set_of_getElem? found _) s)
      rw [oneStep, isReady, if_pos rfl]
    | false =>
      rw [if_neg Bool.false_ne_true, set_of_getElem? found]

theorem reflTransGen_resume (found : calls[place]? = some (c, t)) (s : σ) :
    Relation.ReflTransGen (Interleaves oneStep world body may) (calls, s)
      (calls.set place (c, (t.resume s).1), (t.resume s).2) := by
  cases t with
  | ended outcome => exact reflTransGen_turn found s
  | act update next => exact reflTransGen_turn found s
  | pause next =>
    exact reflTransGen_of_oneStep found rfl (reflTransGen_turn (getElem?_set_of_getElem? found _) s)
  | await ready next => exact reflTransGen_turn found s

/-- What may happen among calls that take turns may happen step by step. -/
theorem Interleaves.steps (next : Interleaves resume world body may before after) :
    Relation.ReflTransGen (Interleaves oneStep world body may) before after := by
  cases next with
  | world calls moved => exact .single (.world calls moved)
  | start calls s allowed => exact .single (.start calls s allowed)
  | go s found => exact reflTransGen_resume found s

/-- Gives turns to calls, by their places. -/
def giveTurns : List Nat → List (κ × Task σ α) × σ → List (κ × Task σ α) × σ
  | [], now => now
  | place :: rest, (calls, s) =>
    match calls[place]? with
    | none => giveTurns rest (calls, s)
    | some (c, t) => giveTurns rest (calls.set place (c, (t.resume s).1), (t.resume s).2)

/-- Turns may be given in any order. -/
theorem reflTransGen_giveTurns (places : List Nat) (before : List (κ × Task σ α) × σ) :
    Relation.ReflTransGen (Interleaves resume world body may) before (giveTurns places before) := by
  induction places generalizing before with
  | nil => exact .refl
  | cons place rest ih =>
    obtain ⟨calls, s⟩ := before
    rw [giveTurns]
    split
    · exact ih _
    · rename_i c t found
      exact .head (.go s found) (ih _)

/-! ## Calls do not go on for ever -/

/-- A task goes on, in some state in which it can. -/
def Continues (after before : Task σ α) : Prop :=
  ∃ s, before.isEnded = false ∧ before.isReady s = true ∧ after = (before.oneStep s).1

/-- One of some calls goes on. -/
def GoesOn (after before : List (κ × Task σ α)) : Prop :=
  ∃ (place : Nat) (c : κ) (t t' : Task σ α), before[place]? = some (c, t) ∧ Continues t' t ∧
    after = before.set place (c, t')

theorem acc_continues (t : Task σ α) : Acc Continues t := by
  induction t with
  | ended outcome =>
    refine ⟨_, fun t' h => ?_⟩
    obtain ⟨s, unended, -⟩ := h
    cases unended
  | act update next ih =>
    refine ⟨_, fun t' h => ?_⟩
    obtain ⟨s, -, -, rfl⟩ := h
    exact ih s
  | pause next ih =>
    refine ⟨_, fun t' h => ?_⟩
    obtain ⟨s, -, -, rfl⟩ := h
    exact ih
  | await ready next ih =>
    refine ⟨_, fun t' h => ?_⟩
    obtain ⟨s, -, isReady, rfl⟩ := h
    rw [oneStep, if_pos (show ready s = true from isReady)]
    exact ih

/-- Calls that go on without new ones being started come to an end, however they take turns and
whatever happens to the state. -/
theorem acc_goesOn (calls : List (κ × Task σ α)) : Acc GoesOn calls := by
  induction calls with
  | nil =>
    refine ⟨_, fun calls' h => ?_⟩
    obtain ⟨place, c, t, t', found, -⟩ := h
    cases found
  | cons call rest others =>
    obtain ⟨c, t⟩ := call
    -- Either the first call goes on or one of the others, and neither can for ever.
    induction acc_continues t generalizing rest with
    | intro t _ ih =>
      induction others with
      | intro rest others ih' =>
        refine ⟨_, fun calls' h => ?_⟩
        obtain ⟨place, c', t', t'', found, continues, rfl⟩ := h
        cases place with
        | zero =>
          obtain ⟨rfl, rfl⟩ := Prod.mk.inj (Option.some_inj.1 found)
          exact ih t'' continues rest ⟨_, others⟩
        | succ place => exact ih' _ ⟨place, c', t', t'', found, continues, rfl⟩

end Federation.Task
