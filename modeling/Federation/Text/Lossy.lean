/-
# Lenient UTF-8

Bytes that are no UTF-8 need not spoil the rest of a text. Each longest run of bytes that could
begin a character, but does not go on as one, is read as something that is no character; so is
a byte that cannot begin a character. In a text that comes from a form a replacement character
takes its place.
-/

import Federation.Text.Blank

namespace Federation.Text

/-- The character that takes the place of bytes that are no UTF-8. -/
def replacement : Char := Char.ofNat 0xFFFD

/-- How many bytes follow a first byte, and the bounds of the one that follows next; none if
no character begins with the byte. -/
def continuation? (first : UInt8) : Option (Nat × UInt8 × UInt8) :=
  if first < 0x80 then some (0, 0x80, 0xBF)
  else if first < 0xC2 then none
  else if first < 0xE0 then some (1, 0x80, 0xBF)
  else if first = 0xE0 then some (2, 0xA0, 0xBF)
  else if first = 0xED then some (2, 0x80, 0x9F)
  else if first < 0xF0 then some (2, 0x80, 0xBF)
  else if first = 0xF0 then some (3, 0x90, 0xBF)
  else if first < 0xF4 then some (3, 0x80, 0xBF)
  else if first = 0xF4 then some (3, 0x80, 0x8F)
  else none

/-- The bits of a first byte that belong to the character. -/
def leadBits (first : UInt8) : Nat :=
  if first < 0x80 then first.toNat
  else if first < 0xE0 then first.toNat % 32
  else if first < 0xF0 then first.toNat % 16
  else first.toNat % 8

/-- Reads bytes with what is pending of a character: its bits so far, the number of bytes that
are still to follow, and the bounds of the next one. What is no character is read as `none`. -/
def readLenient : (pending : Option (Nat × Nat × UInt8 × UInt8)) → List UInt8 → List (Option Char)
  | none, [] => []
  | some _, [] => [none]
  | none, b :: rest =>
    match continuation? b with
    | none => none :: readLenient none rest
    | some (0, _, _) => some (Char.ofNat b.toNat) :: readLenient none rest
    | some (count, low, high) => readLenient (some (leadBits b, count, low, high)) rest
  | some (bits, count, low, high), b :: rest =>
    if low ≤ b && b ≤ high then
      let bits := bits * 64 + b.toNat % 64
      if count = 1 then some (Char.ofNat bits) :: readLenient none rest
      else readLenient (some (bits, count - 1, 0x80, 0xBF)) rest
    else
      none ::
        match continuation? b with
        | none => none :: readLenient none rest
        | some (0, _, _) => some (Char.ofNat b.toNat) :: readLenient none rest
        | some (count, low, high) => readLenient (some (leadBits b, count, low, high)) rest

/-- The text of a byte string, with replacement characters where it is no UTF-8. -/
def ofUtf8Lossy (bytes : List UInt8) : String :=
  String.ofList ((readLenient none bytes).map (·.getD replacement))

end Federation.Text
