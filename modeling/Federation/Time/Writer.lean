/-
# Written instants

Instants are written in the extended calendar form with an upper-case `T`. The fraction
has none, three, six or nine digits, the fewest that lose nothing. Years of four digits
stand alone, all others carry a sign. A leap second is written as second 60.
-/

import Federation.Time.Instant

namespace Federation.Time

/-- The decimal digits of a number, filled up with zeros on the left. -/
def padded (width n : Nat) : List Char :=
  let digits := Nat.toDigits 10 n
  List.replicate (width - digits.length) '0' ++ digits

/-- A year: four digits, or a sign and at least four digits. -/
def yearChars (year : Int) : List Char :=
  if 0 ≤ year ∧ year ≤ 9999 then padded 4 year.toNat
  else (if year < 0 then '-' else '+') :: padded 4 year.natAbs

/-- The fraction of a second with the fewest groups of three digits. -/
def fractionChars (nano : Nat) : List Char :=
  if nano = 0 then []
  else if nano % 1000000 = 0 then '.' :: padded 3 (nano / 1000000)
  else if nano % 1000 = 0 then '.' :: padded 6 (nano / 1000)
  else '.' :: padded 9 nano

/-- Date and time of an instant, without the offset. -/
def Instant.chars (t : Instant) : List Char :=
  let date := CivilDate.ofDays (t.second / 86400)
  let time := (t.second % 86400).toNat
  let second := time % 60 + (if t.isLeap then 1 else 0)
  let nano := if t.isLeap then t.nano - 1000000000 else t.nano
  yearChars date.year ++ '-' :: padded 2 date.month ++ '-' :: padded 2 date.day
    ++ 'T' :: padded 2 (time / 3600) ++ ':' :: padded 2 (time / 60 % 60) ++ ':' :: padded 2 second
    ++ fractionChars nano

/-- The written form with `Z` as offset, used in documents and answers. -/
def Instant.text (t : Instant) : String :=
  String.ofList (t.chars ++ ['Z'])

/-- The written form with a numeric offset, used in messages. -/
def Instant.textWithOffset (t : Instant) : String :=
  String.ofList (t.chars ++ "+00:00".toList)

end Federation.Time
