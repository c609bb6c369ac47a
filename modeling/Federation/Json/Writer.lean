/-
# Writing values

Values are written without blanks. In strings only the quote, the backslash and the control
characters are escaped.
-/

import Federation.Json.Basic

namespace Federation.Json

/-- The lower-case hexadecimal digit of a value below sixteen. -/
def hexChar (n : Nat) : Char :=
  if n < 10 then Char.ofNat (n + 48) else Char.ofNat (n + 87)

/-- One character of a string. -/
def escapeChar (c : Char) : List Char :=
  if c = '"' then ['\\', '"']
  else if c = '\\' then ['\\', '\\']
  else if c = '\x08' then ['\\', 'b']
  else if c = '\x0c' then ['\\', 'f']
  else if c = '\n' then ['\\', 'n']
  else if c = '\x0d' then ['\\', 'r']
  else if c = '\t' then ['\\', 't']
  else if c.toNat < 0x20 then
    ['\\', 'u', '0', '0', hexChar (c.toNat / 16), hexChar (c.toNat % 16)]
  else [c]

/-- A string between its quotes. -/
def stringChars (s : String) : List Char :=
  '"' :: s.toList.flatMap escapeChar ++ ['"']

/-- A number. -/
def Number.chars : Number → List Char
  | .natural n => Nat.toDigits 10 n
  | .negative n => '-' :: Nat.toDigits 10 n
  | .double bits => (Decimal.documentText bits).toList

mutual

/-- The written form of a value. -/
def Value.chars : Value → List Char
  | .null => ['n', 'u', 'l', 'l']
  | .bool true => ['t', 'r', 'u', 'e']
  | .bool false => ['f', 'a', 'l', 's', 'e']
  | .number n => n.chars
  | .string s => stringChars s
  | .array items => '[' :: Value.itemChars items
  | .object members => '\x7b' :: Value.memberChars members

/-- The items of an array and its closing bracket. -/
def Value.itemChars : List Value → List Char
  | [] => [']']
  | [v] => v.chars ++ [']']
  | v :: rest => v.chars ++ ',' :: Value.itemChars rest

/-- The members of an object and its closing brace. -/
def Value.memberChars : List (String × Value) → List Char
  | [] => ['\x7d']
  | [(name, v)] => stringChars name ++ ':' :: v.chars ++ ['\x7d']
  | (name, v) :: rest => stringChars name ++ ':' :: v.chars ++ ',' :: Value.memberChars rest

end

/-- The written form of a value as a text. -/
def Value.text (v : Value) : String :=
  String.ofList v.chars

/-! ## Plain characters only -/

/-- A code unit of sixteen bits as an escape. -/
def unitEscape (n : Nat) : List Char :=
  ['\\', 'u', hexChar (n / 4096), hexChar (n / 256 % 16), hexChar (n / 16 % 16), hexChar (n % 16)]

/-- A character as it is if it is plain, and else as one or two escapes. -/
def plainChars (c : Char) : List Char :=
  let n := c.toNat
  if n < 128 then [c]
  else if n < 0x10000 then unitEscape n
  else unitEscape (0xD800 + (n - 0x10000) / 1024) ++ unitEscape (0xDC00 + (n - 0x10000) % 1024)

/-- The written form of a value in plain characters. What is not plain occurs in strings only,
where an escape can take its place. -/
def Value.plainText (v : Value) : String :=
  String.ofList (v.chars.flatMap plainChars)

end Federation.Json
