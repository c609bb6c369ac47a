/-
# Tasks that take turns

Tasks on one state take turns, each until it ends, pauses or has to wait; then any other may have
its turn, a new one may be started, or the world around the state may move. A condition that every
update of every task preserves holds after any number of turns. An update need preserve it only
where it holds: what others do in between preserves it as well.

## Main definitions

- `Task.Preserves`: no update of a task breaks a condition, as long as no other task does.
- `Task.Turns`: what may happen next among tasks that are under way.

## Main results

- `Turns.preserves`: conditions that all tasks preserve hold throughout.
-/

import Mathlib.Logic.Relation
import Federation.Proofs.Task.Runs
import Federation.Task.Round

namespace Federation.Task

variable {σ α β : Type} {P : σ → Prop}

/-- In states that satisfy a condition, every update of a task leaves it satisfied. -/
def Preserves (P : σ → Prop) : Task σ α → Prop
  | ended _ => True
  | act update next => ∀ s, P s → P (update s) ∧ (next s).Preserves P
  | pause next => next.Preserves P
  | await _ next => next.Preserves P

theorem preserves_pure (a : α) : (pure a : Task σ α).Preserves P := trivial

theorem preserves_change {f : σ → σ} (kept : ∀ s, P s → P (f s)) : (change f).Preserves P :=
  fun s holds => ⟨kept s holds, trivial⟩

theorem preserves_perform {f : σ → α × σ} (kept : ∀ s, P s → P (f s).2) :
    (perform f).Preserves P :=
  fun s holds => ⟨kept s holds, trivial⟩

theorem preserves_pauseIf (wanted : Bool) : (pauseIf wanted : Task σ Unit).Preserves P := by
  cases wanted <;> exact trivial

theorem Preserves.bind {t : Task σ α} {f : α → Task σ β} (first : t.Preserves P)
    (second : ∀ a, (f a).Preserves P) : (t >>= f).Preserves P := by
  show (t.bind f).Preserves P
  induction t with
  | ended outcome =>
    cases outcome with
    | ok a => exact second a
    | failed failure => exact trivial
    | overflow => exact trivial
  | act update next ih => exact fun s holds => ⟨(first s holds).1, ih s (first s holds).2⟩
  | pause next ih => exact ih first
  | await ready next ih => exact ih first

/-- What is done after reading may rely on the condition where it was read. -/
theorem preserves_read_bind {f : σ → α} {k : α → Task σ β}
    (next : ∀ s, P s → (k (f s)).Preserves P) : (read f >>= k).Preserves P :=
  fun s holds => ⟨holds, next s holds⟩

theorem Preserves.attempt {t : Task σ α} (h : t.Preserves P) : t.attempt.Preserves P := by
  induction t with
  | ended outcome => cases outcome <;> exact trivial
  | act update next ih => exact fun s holds => ⟨(h s holds).1, ih s (h s holds).2⟩
  | pause next ih => exact ih h
  | await ready next ih => exact ih h

/-! ## Turns -/

/-- A turn keeps the condition, and what is left of the task goes on preserving it. -/
theorem Preserves.turn {t : Task σ α} {s : σ} (h : t.Preserves P) (holds : P s) :
    P (t.turn s).2 ∧ (t.turn s).1.Preserves P := by
  induction t generalizing s with
  | ended outcome => exact ⟨holds, trivial⟩
  | act update next ih => exact ih s (h s holds).2 (h s holds).1
  | pause next ih => exact ⟨holds, h⟩
  | await ready next ih =>
    rw [Task.turn]
    split
    · exact ih h holds
    · exact ⟨holds, h⟩

theorem Preserves.resume {t : Task σ α} {s : σ} (h : t.Preserves P) (holds : P s) :
    P (t.resume s).2 ∧ (t.resume s).1.Preserves P := by
  cases t with
  | pause next => exact turn (t := next) h holds
  | ended outcome => exact h.turn holds
  | act update next => exact h.turn holds
  | await ready next => exact h.turn holds

/-- What may happen next to a state and the tasks that are under way on it: the world moves, a
task is started that may be, or one that is under way has a turn. -/
inductive Turns (world : Drift σ) (startable : Task σ α → Prop) :
    List (Task σ α) × σ → List (Task σ α) × σ → Prop where
  | world (tasks : List (Task σ α)) {s s' : σ} (moved : world.rel s s') :
      Turns world startable (tasks, s) (tasks, s')
  | start (tasks : List (Task σ α)) (s : σ) {t : Task σ α} (may : startable t) :
      Turns world startable (tasks, s) (tasks ++ [t], s)
  | turn (before after : List (Task σ α)) (t : Task σ α) (s : σ) :
      Turns world startable (before ++ t :: after, s)
        (before ++ (t.resume s).1 :: after, (t.resume s).2)

variable {world : Drift σ} {startable : Task σ α → Prop} {before after : List (Task σ α) × σ}

/-- A condition that the world and all tasks preserve is preserved throughout. -/
theorem Turns.preserves (moves : ∀ s s', world.rel s s' → P s → P s')
    (starts : ∀ t, startable t → t.Preserves P)
    (turns : Relation.ReflTransGen (Turns world startable) before after)
    (holds : P before.2) (all : ∀ t ∈ before.1, t.Preserves P) :
    P after.2 ∧ ∀ t ∈ after.1, t.Preserves P := by
  induction turns with
  | refl => exact ⟨holds, all⟩
  | tail _ next ih =>
    obtain ⟨holds, all⟩ := ih
    cases next with
    | world tasks moved => exact ⟨moves _ _ moved holds, all⟩
    | start tasks s may =>
      refine ⟨holds, fun t listed => ?_⟩
      rcases List.mem_append.1 listed with listed | new
      · exact all t listed
      · rw [List.mem_singleton.1 new]
        exact starts _ may
    | turn earlier later t s =>
      -- The one task that has its turn keeps the property, and so does what is left of it.
      have own := all t (List.mem_append_right _ List.mem_cons_self)
      obtain ⟨holds, left⟩ := own.resume holds
      refine ⟨holds, fun t' listed => ?_⟩
      rcases List.mem_append.1 listed with listed | listed
      · exact all t' (List.mem_append_left _ listed)
      · rcases List.mem_cons.1 listed with rfl | listed
        · exact left
        · exact all t' (List.mem_append_right _ (List.mem_cons_of_mem t listed))

end Federation.Task
