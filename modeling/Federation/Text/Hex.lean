/-
# Hexadecimal byte strings

Keys, signatures and digests are written with two digits a byte. Writing uses
lower-case letters; reading takes either case and says what is wrong with a text
it refuses. The length is checked first, and both the length and the position of a
bad digit count bytes of the UTF-8 form.
-/

import Federation.Text.Blank
import Federation.Text.Quoted

namespace Federation.Text.Hex

/-- The lower-case digit of a value below sixteen. -/
def digit (n : UInt8) : Char :=
  Char.ofNat (if n < 10 then n.toNat + 48 else n.toNat + 87)

/-- The value of a digit of either case, given as a byte. -/
def value? (b : UInt8) : Option UInt8 :=
  if 48 ≤ b && b ≤ 57 then some (b - 48)
  else if 97 ≤ b && b ≤ 102 then some (b - 87)
  else if 65 ≤ b && b ≤ 70 then some (b - 55)
  else none

/-- Two digits a byte, high half first. -/
def encodeChars (bytes : List UInt8) : List Char :=
  bytes.flatMap fun b => [digit (b / 16), digit (b % 16)]

/-- The text of a byte string. -/
def encode (bytes : List UInt8) : String :=
  String.ofList (encodeChars bytes)

/-- The sixteen digits of a word, high digits first. -/
def ofWord (n : UInt64) : String :=
  encode ((List.range 8).map fun i => (n >>> UInt64.ofNat (56 - 8 * i)).toUInt8)

/-- Why a text is no hexadecimal byte string. -/
inductive Fault where
  | oddLength
  | badDigit (byte : UInt8) (position : Nat)
deriving DecidableEq, Repr

/-- A byte that is no digit is shown as the character with that code. -/
def Fault.message : Fault → String
  | .oddLength => "Odd number of digits"
  | .badDigit byte position =>
    "Invalid character " ++ quotedChar (Char.ofNat byte.toNat) ++ " at position "
      ++ toString position

/-- Reads pairs of digits, counting positions from `start`. -/
def decodeFrom (start : Nat) : List UInt8 → Except Fault (List UInt8)
  | [] => .ok []
  | [_] => .error .oddLength
  | high :: low :: rest =>
    match value? high, value? low with
    | none, _ => .error (.badDigit high start)
    | some _, none => .error (.badDigit low (start + 1))
    | some h, some l => (decodeFrom (start + 2) rest).map ((h * 16 + l) :: ·)

/-- The code of a digit, which is its one byte in UTF-8. -/
def digitCode (n : UInt8) : UInt8 := if n < 10 then n + 48 else n + 87

theorem digit_code : ∀ n : Fin 256,
    (String.utf8EncodeChar (digit (UInt8.ofNat n / 16)) = [digitCode (UInt8.ofNat n / 16)]
      ∧ String.utf8EncodeChar (digit (UInt8.ofNat n % 16)) = [digitCode (UInt8.ofNat n % 16)])
    ∧ (value? (digitCode (UInt8.ofNat n / 16))).bind (fun h =>
      (value? (digitCode (UInt8.ofNat n % 16))).map fun l =>
        h * 16 + l) = some (UInt8.ofNat n) := by
  decide +kernel

theorem utf8_encode (bytes : List UInt8) :
    utf8 (encode bytes) = bytes.flatMap fun b => [digitCode (b / 16), digitCode (b % 16)] := by
  simp only [utf8, encode, encodeChars, String.toList_ofList]
  induction bytes with
  | nil => rfl
  | cons b rest ih =>
    have := (digit_code ⟨b.toNat, b.toNat_lt⟩).1
    simp only [UInt8.ofNat_toNat] at this
    simp [this, ih]

theorem decodeFrom_encode (start : Nat) (bytes : List UInt8) :
    decodeFrom start (bytes.flatMap fun b => [digitCode (b / 16), digitCode (b % 16)])
      = .ok bytes := by
  induction bytes generalizing start with
  | nil => rfl
  | cons b rest ih =>
    have := (digit_code ⟨b.toNat, b.toNat_lt⟩).2
    simp only [UInt8.ofNat_toNat, Option.bind_eq_some_iff, Option.map_eq_some_iff] at this
    obtain ⟨h, high, l, low, same⟩ := this
    simp only [List.flatMap_cons, List.cons_append, List.nil_append, decodeFrom, high, low]
    rw [ih]
    simp [Except.map, same]

/-- The bytes of a text of hexadecimal digits. -/
def decode (s : String) : Except Fault (List UInt8) :=
  let bytes := utf8 s
  if bytes.length % 2 = 1 then .error .oddLength else decodeFrom 0 bytes

/-- Reading undoes writing. -/
theorem decode_encode (bytes : List UInt8) : decode (encode bytes) = .ok bytes := by
  have even : (bytes.flatMap fun b => [digitCode (b / 16), digitCode (b % 16)]).length % 2 = 0 := by
    induction bytes with
    | nil => rfl
    | cons b rest ih =>
      simp only [List.flatMap_cons, List.length_append, List.length_cons, List.length_nil]
      omega
  simp only [decode, utf8_encode, even]
  exact decodeFrom_encode 0 bytes

end Federation.Text.Hex
