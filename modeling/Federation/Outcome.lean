/-
# Outcomes

An operation succeeds, fails, or meets a date or duration out of range, which ends it at
once.
-/

import Federation.Failure

namespace Federation

/-- What comes of an operation. -/
inductive Outcome (α : Type) where
  | ok (a : α)
  | failed (failure : Failure)
  /-- A date or duration on the way is out of range. -/
  | overflow
deriving DecidableEq, Repr

namespace Outcome

variable {α β : Type}

/-- Goes on after a success. -/
def bind (x : Outcome α) (f : α → Outcome β) : Outcome β :=
  match x with
  | ok a => f a
  | failed failure => failed failure
  | overflow => overflow

instance : Monad Outcome where
  pure := ok
  bind := bind

/-- Changes the value of a success. -/
def map (f : α → β) (x : Outcome α) : Outcome β := x.bind fun a => ok (f a)

/-- An outcome without a range to leave. -/
def ofExcept : Except Failure α → Outcome α
  | .ok a => ok a
  | .error failure => failed failure

/-- A value that is missing when it is out of range. -/
def ofOption : Option α → Outcome α
  | some a => ok a
  | none => overflow

theorem ofExcept_ne_overflow (x : Except Failure α) : ofExcept x ≠ overflow := by
  cases x <;> simp [ofExcept]

theorem eq_some_of_ofOption_eq_ok {x : Option α} {a : α} (h : ofOption x = ok a) : x = some a := by
  cases x with
  | none => cases h
  | some b => rw [ok.inj h]

variable {x : Outcome α} {failure : Failure}

theorem bind_eq_ok {f : α → Outcome β} {b : β} :
    x.bind f = ok b ↔ ∃ a, x = ok a ∧ f a = ok b := by
  cases x <;> simp [bind]

theorem bind_eq_failed {f : α → Outcome β} :
    x.bind f = failed failure ↔ x = failed failure ∨ ∃ a, x = ok a ∧ f a = failed failure := by
  cases x <;> simp [bind]

theorem bind_eq_overflow {f : α → Outcome β} :
    x.bind f = overflow ↔ x = overflow ∨ ∃ a, x = ok a ∧ f a = overflow := by
  cases x <;> simp [bind]

theorem map_eq_ok {f : α → β} {b : β} : x.map f = ok b ↔ ∃ a, x = ok a ∧ f a = b := by
  cases x <;> simp [map, bind]

theorem map_eq_failed {f : α → β} : x.map f = failed failure ↔ x = failed failure := by
  cases x <;> simp [map, bind]

theorem map_eq_overflow {f : α → β} : x.map f = overflow ↔ x = overflow := by
  cases x <;> simp [map, bind]

end Outcome

end Federation
