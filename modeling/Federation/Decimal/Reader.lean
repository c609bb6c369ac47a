/-
# Reading decimal numbers

Settings state numbers as text: an optional sign, digits with or without a point, and an
optional exponent, or one of the names of infinity and of the missing number in any case.
The nearest double is taken.
-/

import Federation.Decimal.Nearest
import Federation.Text.Blank

namespace Federation.Decimal

open Federation.Text

/-- The number written by a list of decimal digits. -/
def ofDigits (cs : List Char) : Nat :=
  cs.foldl (fun n c => n * 10 + (c.toNat - 48)) 0

/-- Reads a whole number, with an optional plus sign. -/
def natural? (s : String) : Option Nat :=
  let digits := match s.toList with
    | '+' :: rest => rest
    | cs => cs
  if digits.isEmpty || !digits.all Char.isDigit then none else some (ofDigits digits)

/-- Reads a whole number below a bound. -/
def naturalBelow? (bound : Nat) (s : String) : Option Nat :=
  (natural? s).bind fun n => if n < bound then some n else none

/-- An exponent: `e` or `E`, an optional sign and at least one digit. No characters mean
no exponent. -/
def exponent? : List Char → Option Int
  | [] => some 0
  | e :: rest =>
    if e ≠ 'e' ∧ e ≠ 'E' then none
    else
      let (sign, digits) : Int × List Char := match rest with
        | '+' :: ds => (1, ds)
        | '-' :: ds => (-1, ds)
        | ds => (1, ds)
      if digits.isEmpty || !digits.all Char.isDigit then none else some (sign * ofDigits digits)

/-- The double nearest to `digits · 10^exponent`. Exponents beyond the range of doubles
by more than the number of digits give zero or infinity at once. -/
def nearest (digits : Nat) (count : Nat) (exponent : Int) : Float :=
  if digits = 0 then 0
  else if (exponent + count : Int) < -400 then 0
  else if 400 < exponent then 1.0 / 0.0
  else if exponent < 0 then Float.ofBits (nearestBits digits (Nat.pow 10 exponent.natAbs))
  else Float.ofBits (nearestBits (digits * Nat.pow 10 exponent.natAbs) 1)

/-- Reads an unsigned double. -/
def unsigned? (cs : List Char) : Option Float :=
  let name := String.ofList (cs.map Char.toLower)
  if name = "inf" ∨ name = "infinity" then some (1.0 / 0.0)
  else if name = "nan" then some (0.0 / 0.0)
  else
    let whole := cs.takeWhile Char.isDigit
    let rest := cs.dropWhile Char.isDigit
    let (part, rest) := match rest with
      | '.' :: after => (after.takeWhile Char.isDigit, after.dropWhile Char.isDigit)
      | after => ([], after)
    if whole.isEmpty && part.isEmpty then none
    else
      (exponent? rest).map fun e =>
        let digits := whole ++ part
        nearest (ofDigits digits) digits.length (e - part.length)

/-- Reads a double. -/
def double? (s : String) : Option Float :=
  match s.toList with
  | '-' :: rest => (unsigned? rest).map fun x => -x
  | '+' :: rest => unsigned? rest
  | cs => unsigned? cs

end Federation.Decimal
