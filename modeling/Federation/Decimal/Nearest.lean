/-
# Nearest doubles

Rounding is done in exact integer arithmetic: a quotient goes to the nearest whole number,
and a positive ratio to the nearest double. Of two equally near ones the even one is taken.
-/

namespace Federation.Decimal

/-- The whole number nearest to `num / den`. -/
def roundQuotient (num den : Nat) : Nat :=
  let whole := num / den
  let twice := 2 * (num % den)
  if den < twice ∨ (twice = den ∧ whole % 2 = 1) then whole + 1 else whole

/-- Rounding moves a quotient by half a unit at most. -/
theorem roundQuotient_near (num den : Nat) (h : 0 < den) :
    2 * num ≤ den * (2 * roundQuotient num den) + den
      ∧ den * (2 * roundQuotient num den) ≤ 2 * num + den := by
  have split := Nat.div_add_mod num den
  have := Nat.mod_lt num h
  simp only [roundQuotient]
  generalize num / den = whole at *
  generalize num % den = part at *
  rw [Nat.mul_left_comm]
  split
  · rw [Nat.mul_add]
    omega
  · omega

/-- A whole number stays as it is. -/
theorem roundQuotient_mul (n den : Nat) (h : 0 < den) : roundQuotient (n * den) den = n := by
  simp only [roundQuotient, Nat.mul_mod_left, Nat.mul_div_cancel _ h]
  split
  · omega
  · rfl

/-- The bits of positive infinity. -/
def infinityBits : Nat := 0x7FF0000000000000

/-- The bits of the double nearest to `num / den`, a positive ratio. Its unit is the power of
two that leaves 53 binary digits before the point, or 2^-1074, the smallest one. -/
def nearestBits (num den : Nat) : UInt64 :=
  let size : Int := (num.log2 : Int) - den.log2
  let inUnits (q : Int) : Nat × Nat :=
    if 0 ≤ q then (num, den * Nat.pow 2 q.toNat) else (num * Nat.pow 2 q.natAbs, den)
  let least := max (size - 53) (-1074)
  let q := if (inUnits least).1 / (inUnits least).2 < Nat.pow 2 53 then least else least + 1
  -- The leading digit adds one to the exponent that is written in front of the others. So does
  -- a carry, and thus the largest double is followed by infinity.
  let bits := (q + 1074).toNat * Nat.pow 2 52 + roundQuotient (inUnits q).1 (inUnits q).2
  UInt64.ofNat (min bits infinityBits)

end Federation.Decimal
