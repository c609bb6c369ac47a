/-
# Numerals

A numeral has a whole part without needless zeros, an optional fraction and an optional
exponent. A whole numeral that fits is a whole number. Every other one is a double, found
by collecting the leading digits that fit into 64 bits and scaling by powers of ten; this
is a quick approximation and may miss the nearest double by a little.
-/

import Federation.Decimal.Nearest
import Federation.Json.Basic

namespace Federation.Json

/-- The parts of a numeral. The exponent has a sign and digits. -/
structure Numeral where
  negative : Bool
  whole : List Char
  fraction : List Char
  exponent : Option (Bool × List Char)
deriving Repr

/-- Splits off leading decimal digits. -/
def spanDigits (cs : List Char) : List Char × List Char :=
  (cs.takeWhile Char.isDigit, cs.dropWhile Char.isDigit)

/-- Reads an exponent, if one starts here. -/
def Numeral.readExponent (n : Numeral) : List Char → Option (Numeral × List Char)
  | c :: rest =>
    if c = 'e' ∨ c = 'E' then
      let (positive, rest) := match rest with
        | '+' :: after => (true, after)
        | '-' :: after => (false, after)
        | after => (true, after)
      let (digits, rest) := spanDigits rest
      if digits.isEmpty then none else some ({ n with exponent := some (positive, digits) }, rest)
    else some (n, c :: rest)
  | [] => some (n, [])

/-- Reads a fraction, if one starts here, and what follows it. -/
def Numeral.readFraction (n : Numeral) : List Char → Option (Numeral × List Char)
  | '.' :: rest =>
    let (digits, rest) := spanDigits rest
    if digits.isEmpty then none else { n with fraction := digits }.readExponent rest
  | rest => n.readExponent rest

/-- Reads a numeral. -/
def Numeral.read? (cs : List Char) : Option (Numeral × List Char) :=
  let (negative, cs) := match cs with
    | '-' :: rest => (true, rest)
    | rest => (false, rest)
  let (whole, rest) := spanDigits cs
  match whole with
  | [] => none
  | '0' :: _ :: _ => none
  | _ => Numeral.readFraction ⟨negative, whole, [], none⟩ rest

/-- The largest number of 64 bits. -/
def maxSignificand : Nat := 18446744073709551615

/-- Collects digits as long as the number fits into 64 bits; gives the number and the
digits left over. -/
def collectDigits : Nat → List Char → Nat × List Char
  | n, [] => (n, [])
  | n, c :: rest =>
    let next := n * 10 + (c.toNat - 48)
    if next ≤ maxSignificand then collectDigits next rest else (n, c :: rest)

/-- A power of ten up to 10^308 as a double. -/
def powerOfTen (n : Nat) : Float := Float.ofBits (Decimal.nearestBits (Nat.pow 10 n) 1)

/-- Scales a double by a power of ten, in steps of 10^308 when dividing. There is no result
beyond the range of doubles. -/
def scale : (fuel : Nat) → Float → Int → Option Float
  | 0, f, _ => some f
  | fuel + 1, f, e =>
    if e.natAbs ≤ 308 then
      if 0 ≤ e then
        let scaled := f * powerOfTen e.natAbs
        if Decimal.isInfinite scaled.toBits then none else some scaled
      else some (f / powerOfTen e.natAbs)
    else if f == 0.0 then some f
    else if 0 ≤ e then none
    else scale fuel (f / powerOfTen 308) (e + 308)

/-- The number an exponent states; there is none if it does not fit into 31 bits. -/
def exponentValue? (digits : List Char) : Option Nat :=
  let n := digits.foldl (fun n c => n * 10 + (c.toNat - 48)) 0
  if n ≤ 2147483647 then some n else none

/-- The double of a significand and a power of ten, with its sign. -/
def signedDouble (negative : Bool) (f : Float) : Number :=
  .double (if negative then (-f).toBits else f.toBits)

/-- Moves an exponent into the range of 32-bit numbers. -/
def saturate (e : Int) : Int := max (-2147483648) (min 2147483647 e)

/-- The double of a numeral with a fraction, an exponent or too many digits. -/
def Numeral.double? (n : Numeral) : Option Number :=
  let (whole, dropped) := collectDigits 0 n.whole
  let (significand, unread) := collectDigits whole n.fraction
  let taken := n.fraction.length - unread.length
  let start : Int := (dropped.length : Int) - taken
  let scaled (e : Int) : Option Number :=
    (scale 8 (UInt64.ofNat significand).toFloat e).map (signedDouble n.negative)
  match n.exponent with
  | none => scaled start
  | some (positive, digits) =>
    match exponentValue? digits with
    | some e => scaled (saturate (if positive then start + e else start - e))
    -- An exponent this large leaves zero, or nothing that could be written as a double.
    | none =>
      if significand ≠ 0 ∧ positive then none else some (signedDouble n.negative 0.0)

/-- The number of a numeral; `none` if it is beyond the range of doubles. -/
def Numeral.number? (n : Numeral) : Option Number :=
  let (value, rest) := collectDigits 0 n.whole
  if n.fraction.isEmpty && n.exponent.isNone && rest.isEmpty then
    if !n.negative then some (.natural value)
    -- Minus zero is a double, and so is what is below the smallest number of 64 bits.
    else if value = 0 ∨ 9223372036854775808 < value then
      some (signedDouble true (UInt64.ofNat value).toFloat)
    else some (.negative value)
  else n.double?

end Federation.Json
