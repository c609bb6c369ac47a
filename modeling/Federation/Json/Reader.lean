/-
# Reading outlines

The reader follows the grammar of JSON: four blanks, strings without raw control
characters, and nothing behind the value but blanks. It never fails: where the text leaves
the grammar the outline ends, and what encloses that place stays open.
-/

import Federation.Json.Numeral
import Federation.Text.Blank

namespace Federation.Json

open Federation.Text

/-- The blanks of the grammar. -/
def isBlankChar (c : Char) : Bool :=
  c == ' ' || c == '\t' || c == '\n' || c == '\x0d'

/-- Skips blanks. -/
def skipBlanks (cs : List Char) : List Char :=
  cs.dropWhile isBlankChar

/-- The value of a hexadecimal digit. -/
def hexValue? (c : Char) : Option Nat :=
  let n := c.toNat
  if 48 ≤ n && n ≤ 57 then some (n - 48)
  else if 97 ≤ n && n ≤ 102 then some (n - 87)
  else if 65 ≤ n && n ≤ 70 then some (n - 55)
  else none

/-- Reads the four digits of an escape. -/
def fourDigits? : List Char → Option (Nat × List Char)
  | a :: b :: c :: d :: rest => do
    let w ← hexValue? a
    let x ← hexValue? b
    let y ← hexValue? c
    let z ← hexValue? d
    some (((w * 16 + x) * 16 + y) * 16 + z, rest)
  | _ => none

/-- A unit of a string: a character, or the code of an escape in the range that stands for
characters only in pairs. -/
inductive StringUnit where
  | char (c : Char)
  | half (code : Nat)
deriving DecidableEq, Repr

/-- The unit an escape of four digits denotes. -/
def StringUnit.ofCode (code : Nat) : StringUnit :=
  if 0xD800 ≤ code && code ≤ 0xDFFF then .half code else .char (Char.ofNat code)

/-- The character of a one-letter escape. -/
def simpleEscape? (c : Char) : Option Char :=
  if c = '"' then some '"'
  else if c = '\\' then some '\\'
  else if c = '/' then some '/'
  else if c = 'b' then some '\x08'
  else if c = 'f' then some '\x0c'
  else if c = 'n' then some '\n'
  else if c = 'r' then some '\x0d'
  else if c = 't' then some '\t'
  else none

/-- Reads the units of a string up to and including the closing quote. -/
def stringUnits? : (fuel : Nat) → List Char → Option (List StringUnit × List Char)
  | 0, _ => none
  | _ + 1, [] => none
  | fuel + 1, c :: rest =>
    if c = '"' then some ([], rest)
    else if c = '\\' then
      match rest with
      | [] => none
      | e :: after =>
        if e = 'u' then
          match fourDigits? after with
          | none => none
          | some (code, after) =>
            (stringUnits? fuel after).map fun (units, tail) => (.ofCode code :: units, tail)
        else
          match simpleEscape? e with
          | none => none
          | some c =>
            (stringUnits? fuel after).map fun (units, tail) => (.char c :: units, tail)
    else if c.val < 0x20 then none
    else (stringUnits? fuel rest).map fun (units, tail) => (.char c :: units, tail)

/-- The characters of units in which every high half is followed by a low one and every
low half follows a high one. -/
def unitChars? : List StringUnit → Option (List Char)
  | [] => some []
  | .char c :: rest => (unitChars? rest).map (c :: ·)
  | .half high :: .half low :: rest =>
    if high < 0xDC00 ∧ 0xDC00 ≤ low then
      (unitChars? rest).map (Char.ofNat ((high - 0xD800) * 1024 + (low - 0xDC00) + 0x10000) :: ·)
    else none
  | .half _ :: _ => none

/-- Reads a string behind its opening quote. -/
def string? (cs : List Char) : Option (Option String × List Char) :=
  (stringUnits? (cs.length + 1) cs).map fun (units, rest) =>
    ((unitChars? units).map String.ofList, rest)

/-- Reads one of the three names behind its first letter. -/
def name (tail : List Char) (o : Outline) (cs : List Char) : Outline × Option (List Char) :=
  match dropPrefix? tail cs with
  | some rest => (o, some rest)
  | none => (.broken, none)

mutual

/-- Reads a value. The second component is the text behind it, if it was read to its end. -/
def readValue : (fuel : Nat) → List Char → Outline × Option (List Char)
  | 0, _ => (.broken, none)
  | fuel + 1, cs =>
    match skipBlanks cs with
    | [] => (.broken, none)
    | c :: rest =>
      if c = 'n' then name ['u', 'l', 'l'] .null rest
      else if c = 't' then name ['r', 'u', 'e'] (.bool true) rest
      else if c = 'f' then name ['a', 'l', 's', 'e'] (.bool false) rest
      else if c = '"' then
        match string? rest with
        | some (s, rest) => (.string s, some rest)
        | none => (.broken, none)
      else if c = '[' then
        match skipBlanks rest with
        | ']' :: rest => (.array [] true, some rest)
        | rest =>
          let (items, rest) := readItems fuel rest
          (.array items rest.isSome, rest)
      else if c = '\x7b' then
        match skipBlanks rest with
        | '\x7d' :: rest => (.object [] true, some rest)
        | rest =>
          let (members, rest) := readMembers fuel rest
          (.object members rest.isSome, rest)
      else if c = '-' || c.isDigit then
        match Numeral.read? (c :: rest) with
        | some (n, rest) => (.number n.number?, some rest)
        | none => (.broken, none)
      else (.broken, none)

/-- Reads the items of an array from the first one on. -/
def readItems : (fuel : Nat) → List Char → List Outline × Option (List Char)
  | 0, _ => ([], none)
  | fuel + 1, cs =>
    let (item, rest) := readValue fuel cs
    match rest.map skipBlanks with
    | some (',' :: rest) =>
      let (items, rest) := readItems fuel rest
      (item :: items, rest)
    | some (']' :: rest) => ([item], some rest)
    | _ => ([item], none)

/-- Reads the members of an object from the first one on. -/
def readMembers : (fuel : Nat) → List Char → List (Option String × Outline) × Option (List Char)
  | 0, _ => ([], none)
  | fuel + 1, cs =>
    match skipBlanks cs with
    | '"' :: rest =>
      match string? rest with
      | none => ([], none)
      | some (key, rest) =>
        match skipBlanks rest with
        | ':' :: rest =>
          let (member, rest) := readValue fuel rest
          match rest.map skipBlanks with
          | some (',' :: rest) =>
            let (members, rest) := readMembers fuel rest
            ((key, member) :: members, rest)
          | some ('\x7d' :: rest) => ([(key, member)], some rest)
          | _ => ([(key, member)], none)
        | _ => ([(key, .broken)], none)
    | _ => ([], none)

end

/-- Reads the outline of a text and tells whether nothing but blanks follows it. -/
def Outline.ofChars (cs : List Char) : Outline × Bool :=
  -- Of any two calls in a row, one reads a character, so the fuel outlasts the text.
  let (o, rest) := readValue (2 * cs.length + 2) cs
  (o, (rest.map fun tail => (skipBlanks tail).isEmpty).getD false)

/-- The outline of a text. -/
def Outline.ofText (s : String) : Outline × Bool :=
  Outline.ofChars s.toList

/-- The value of a text whose containers do not nest too deep. -/
def Value.ofText? (s : String) : Option Value :=
  match Outline.ofText s with
  | (o, true) => o.value? depthLimit
  | (_, false) => none

end Federation.Json
