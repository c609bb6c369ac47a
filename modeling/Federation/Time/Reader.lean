/-
# Reading instants

Documents state instants in a relaxed calendar form. White space may stand before every
number and before `-` and `:`; month, day, hour, minute and second may have one digit;
date and time are separated by `T`, `t` or white space. The fraction may have any number
of digits, of which nine count. An offset is required: `Z`, `UTC` or hours and minutes
below a day, with or without a colon between them. Second 60 is a leap second.
-/

import Federation.Text.Blank
import Federation.Time.Instant

namespace Federation.Time

open Federation.Text

/-- The value of a decimal digit. -/
def digitValue? (c : Char) : Option Nat :=
  if c.isDigit then some (c.toNat - 48) else none

/-- Takes at most `width` decimal digits, continuing a number read so far. -/
def takeDigits : (width : Nat) → (sofar : Nat) → List Char → Nat × List Char
  | 0, n, cs => (n, cs)
  | _ + 1, n, [] => (n, [])
  | width + 1, n, c :: cs =>
    match digitValue? c with
    | some d => takeDigits width (n * 10 + d) cs
    | none => (n, c :: cs)

/-- Reads a number of one to `width` digits, after any white space. -/
def number? (width : Nat) (cs : List Char) : Option (Nat × List Char) :=
  match trimStartChars cs with
  | [] => none
  | c :: rest => if c.isDigit then some (takeDigits width 0 (c :: rest)) else none

/-- Reads a year: four digits, or any number of digits behind a sign. -/
def year? (cs : List Char) : Option (Int × List Char) :=
  match trimStartChars cs with
  | '-' :: rest => signed rest fun n => -(n : Int)
  | '+' :: rest => signed rest fun n => (n : Int)
  | rest => (number? 4 rest).map fun (n, tail) => ((n : Int), tail)
where
  /-- The digits behind a sign follow at once. -/
  signed (rest : List Char) (sign : Nat → Int) : Option (Int × List Char) :=
    match rest with
    | [] => none
    | c :: tail =>
      if c.isDigit then
        let (n, after) := takeDigits (tail.length + 1) 0 (c :: tail)
        some (sign n, after)
      else none

/-- Reads a mark, after any white space. -/
def mark? (mark : Char) (cs : List Char) : Option (List Char) :=
  match trimStartChars cs with
  | c :: rest => if c = mark then some rest else none
  | [] => none

/-- Reads an optional fraction of a second in nanoseconds. Digits past the ninth are
dropped. -/
def fraction? : List Char → Option (Nat × List Char)
  | '.' :: cs =>
    let digits := cs.takeWhile Char.isDigit
    let rest := cs.dropWhile Char.isDigit
    if digits.isEmpty then none
    else
      let kept := digits.take 9
      some ((takeDigits 9 0 kept).1 * Nat.pow 10 (9 - kept.length), rest)
  | cs => some (0, cs)

/-- Reads two digits that follow at once. -/
def twoDigits? : List Char → Option (Nat × List Char)
  | a :: b :: rest => do
    let high ← digitValue? a
    let low ← digitValue? b
    some (high * 10 + low, rest)
  | _ => none

/-- Reads hours and minutes of an offset, in seconds. -/
def hoursMinutes? (cs : List Char) : Option (Int × List Char) := do
  let (hours, rest) ← twoDigits? cs
  let (minutes, rest) ← twoDigits? (rest.dropWhile fun c => c == ':' || isBlank c)
  if minutes < 60 then some ((hours * 3600 + minutes * 60 : Nat), rest) else none

/-- Reads an offset from Coordinated Universal Time in seconds, after any white space. -/
def offset? (cs : List Char) : Option (Int × List Char) :=
  match trimStartChars cs with
  | 'Z' :: rest | 'z' :: rest => some (0, rest)
  | '+' :: rest => hoursMinutes? rest
  | '-' :: rest | '\u2212' :: rest => (hoursMinutes? rest).map fun (n, tail) => (-n, tail)
  | a :: b :: c :: rest =>
    if (a == 'U' || a == 'u') && (b == 'T' || b == 't') && (c == 'C' || c == 'c') then
      some (0, rest)
    else none
  | _ => none

/-- Reads the separator of date and time. -/
def separator? : List Char → Option (List Char)
  | c :: rest => if c == 'T' || c == 't' || isBlank c then some rest else none
  | [] => none

/-- Reads an instant; only white space may follow it. -/
def Instant.ofChars? (cs : List Char) : Option Instant := do
  let (year, cs) ← year? cs
  let cs ← mark? '-' cs
  let (month, cs) ← number? 2 cs
  let cs ← mark? '-' cs
  let (day, cs) ← number? 2 cs
  let cs ← separator? cs
  let (hour, cs) ← number? 2 cs
  let cs ← mark? ':' cs
  let (minute, cs) ← number? 2 cs
  let cs ← mark? ':' cs
  let (second, cs) ← number? 2 cs
  let (nano, cs) ← fraction? cs
  let (offset, cs) ← offset? cs
  let date := CivilDate.mk year month day
  if !(trimStartChars cs).isEmpty || !date.exists? || 23 < hour || 59 < minute || 60 < second
      || offset ≤ -86400 || 86400 ≤ offset then none
  else
    -- A leap second goes on from the second before it.
    let (second, nano) := if second = 60 then (59, nano + 1000000000) else (second, nano)
    let wall : Instant := ⟨date.toDays * 86400 + (hour * 3600 + minute * 60 + second : Nat), nano⟩
    -- Both the time on the clock and the instant have to be within the calendar.
    let _ ← wall.inRange?
    Instant.inRange? ⟨wall.second - offset, nano⟩

/-- Reads an instant from a text. -/
def Instant.ofText? (s : String) : Option Instant :=
  Instant.ofChars? s.toList

end Federation.Time
