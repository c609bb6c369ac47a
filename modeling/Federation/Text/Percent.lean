/-
# Percent encoding

Identifiers are put into addresses byte by byte: letters, digits and the four marks
`- _ . ~` stand for themselves, every other byte of the UTF-8 form becomes a percent
sign and two upper-case digits.
-/

import Federation.Text.Blank

namespace Federation.Text.Percent

/-- Bytes that stand for themselves. -/
def isPlain (b : UInt8) : Bool :=
  (48 ≤ b && b ≤ 57) || (65 ≤ b && b ≤ 90) || (97 ≤ b && b ≤ 122)
    || b == 45 || b == 46 || b == 95 || b == 126

/-- The upper-case digit of a value below sixteen. -/
def digit (n : UInt8) : Char :=
  Char.ofNat (if n < 10 then n.toNat + 48 else n.toNat + 55)

/-- The written form of one byte. -/
def encodeByte (b : UInt8) : List Char :=
  if isPlain b then [Char.ofNat b.toNat] else ['%', digit (b / 16), digit (b % 16)]

/-- The written form of a byte string. -/
def encodeBytes (bytes : List UInt8) : List Char :=
  bytes.flatMap encodeByte

/-- The written form of a text. -/
def encode (s : String) : String :=
  String.ofList (encodeBytes (utf8 s))

/-- The value of a digit of either case. -/
def value? (c : Char) : Option Nat :=
  let n := c.toNat
  if 48 ≤ n && n ≤ 57 then some (n - 48)
  else if 97 ≤ n && n ≤ 102 then some (n - 87)
  else if 65 ≤ n && n ≤ 70 then some (n - 55)
  else none

/-- The bytes of a written form. A percent sign that is not followed by two digits
stands for itself. -/
def decodeBytes : List Char → List UInt8
  | '%' :: a :: b :: rest =>
    match value? a, value? b with
    | some h, some l => UInt8.ofNat (h * 16 + l) :: decodeBytes rest
    | _, _ => 37 :: decodeBytes (a :: b :: rest)
  | c :: rest => String.utf8EncodeChar c ++ decodeBytes rest
  | [] => []

theorem decodeBytes_plain : ∀ n : Fin 256, isPlain (UInt8.ofNat n) = true →
    Char.ofNat n ≠ '%' ∧ String.utf8EncodeChar (Char.ofNat n) = [UInt8.ofNat n] := by
  decide +kernel

theorem decodeBytes_digits : ∀ n : Fin 256,
    ((value? (digit (UInt8.ofNat n / 16))).bind fun h =>
      (value? (digit (UInt8.ofNat n % 16))).map fun l => UInt8.ofNat (h * 16 + l))
        = some (UInt8.ofNat n) := by
  decide +kernel

theorem decodeBytes_encodeByte (b : UInt8) (rest : List Char) :
    decodeBytes (encodeByte b ++ rest) = b :: decodeBytes rest := by
  have back : UInt8.ofNat b.toNat = b := UInt8.ofNat_toNat
  simp only [encodeByte]
  split
  · rename_i plain
    have := decodeBytes_plain ⟨b.toNat, b.toNat_lt⟩ (by simpa [back] using plain)
    simp only [back] at this
    rw [List.singleton_append, decodeBytes]
    · rw [this.2]
      rfl
    · intro a c tail same
      exact absurd same this.1
  · have := decodeBytes_digits ⟨b.toNat, b.toNat_lt⟩
    simp only [back, Option.bind_eq_some_iff, Option.map_eq_some_iff] at this
    obtain ⟨h, high, l, low, same⟩ := this
    simp [decodeBytes, high, low, same]

/-- Reading undoes writing. -/
theorem decodeBytes_encodeBytes (bytes : List UInt8) : decodeBytes (encodeBytes bytes) = bytes := by
  induction bytes with
  | nil => rfl
  | cons b rest ih => rw [encodeBytes, List.flatMap_cons, decodeBytes_encodeByte, ← encodeBytes, ih]

/-- The text of a written form, if its bytes are well-formed UTF-8. -/
def decode? (s : String) : Option String :=
  ofUtf8? (decodeBytes s.toList)

end Federation.Text.Percent
