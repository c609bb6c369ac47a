/-
# Reading back strings and numbers

A string is read back as it was written, whatever characters it is made of. So is a whole
number that fits into 64 bits, as long as what follows does not go on with it.

## Main definitions

- `Number.IsWhole`: a number that is written with digits only.
- `EndsNumber`: what follows a number does not go on with it.

## Main results

- `string?_stringChars`: strings are read back.
- `read?_chars`: whole numbers are read back.
-/

import Federation.Json.Reader
import Federation.Json.Writer

namespace Federation.Json

/-! ## Strings -/

theorem hexValue?_hexChar {n : Nat} (small : n < 16) : hexValue? (hexChar n) = some n := by
  have all : ∀ n : Fin 16, hexValue? (hexChar n) = some n.val := by decide
  exact all ⟨n, small⟩

/-- The escape of a control character. -/
theorem fourDigits?_control {n : Nat} (control : n < 32) (rest : List Char) :
    fourDigits? ('0' :: '0' :: hexChar (n / 16) :: hexChar (n % 16) :: rest) = some (n, rest) := by
  have high := hexValue?_hexChar (show n / 16 < 16 by omega)
  have low := hexValue?_hexChar (show n % 16 < 16 by omega)
  have zero : hexValue? '0' = some 0 := by decide
  have split : n / 16 * 16 + n % 16 = n := by omega
  simp [fourDigits?, high, low, zero, split]

theorem ofCode_control {c : Char} (control : c.toNat < 32) :
    StringUnit.ofCode c.toNat = .char c := by
  have below : ¬ (0xD800 ≤ c.toNat) := by omega
  simp [StringUnit.ofCode, below]

/-- The escape of one character is read as one unit. -/
theorem stringUnits?_escapeChar (fuel : Nat) (c : Char) (rest : List Char) :
    stringUnits? (fuel + 1) (escapeChar c ++ rest)
      = (stringUnits? fuel rest).map fun (units, tail) => (.char c :: units, tail) := by
  rw [escapeChar]
  split
  · rename_i same
    subst same
    rfl
  split
  · rename_i same
    subst same
    rfl
  split
  · rename_i same
    subst same
    rfl
  split
  · rename_i same
    subst same
    rfl
  split
  · rename_i same
    subst same
    rfl
  split
  · rename_i same
    subst same
    rfl
  split
  · rename_i same
    subst same
    rfl
  split
  · rename_i control
    simp only [List.cons_append, List.nil_append, stringUnits?]
    simp [fourDigits?_control control, ofCode_control control]
  -- Every other character stands for itself.
  · rename_i not_quote not_backslash _ _ _ _ _ plain
    have raw : ¬ c.val < 0x20 := by
      intro control
      exact plain (UInt32.lt_iff_toNat_lt.1 control)
    simp only [List.cons_append, List.nil_append, stringUnits?]
    simp [not_quote, not_backslash, raw]

theorem escapeChar_ne_nil (c : Char) : 0 < (escapeChar c).length := by
  rw [escapeChar]
  repeat' split
  all_goals simp

theorem stringUnits?_flatMap (cs rest : List Char) {fuel : Nat}
    (enough : (cs.flatMap escapeChar).length < fuel) :
    stringUnits? fuel (cs.flatMap escapeChar ++ '"' :: rest) = some (cs.map .char, rest) := by
  induction cs generalizing fuel with
  | nil =>
    obtain ⟨fuel, rfl⟩ := Nat.exists_eq_add_one.2 (show 0 < fuel by omega)
    rfl
  | cons c cs ih =>
    have some_char := escapeChar_ne_nil c
    rw [List.flatMap_cons, List.length_append] at enough
    obtain ⟨fuel, rfl⟩ := Nat.exists_eq_add_one.2 (show 0 < fuel by omega)
    rw [List.flatMap_cons, List.append_assoc, stringUnits?_escapeChar, ih (by omega)]
    rfl

theorem unitChars?_map (cs : List Char) : unitChars? (cs.map .char) = some cs := by
  induction cs with
  | nil => rfl
  | cons c cs ih => simp [unitChars?, ih]

/-- Strings are read back behind the opening quote. -/
theorem string?_stringChars (s : String) (rest : List Char) :
    string? (s.toList.flatMap escapeChar ++ '"' :: rest) = some (some s, rest) := by
  have enough : (s.toList.flatMap escapeChar).length
      < (s.toList.flatMap escapeChar ++ '"' :: rest).length + 1 := by
    rw [List.length_append]
    omega
  rw [string?, stringUnits?_flatMap s.toList rest enough]
  simp [unitChars?_map]

/-! ## Numbers -/

/-- A number that is written with digits only, and a sign. -/
def Number.IsWhole : Number → Prop
  | .natural n => n ≤ maxSignificand
  | .negative n => 0 < n ∧ n ≤ 9223372036854775808
  | .double _ => False

/-- What follows does not go on with a number. -/
def EndsNumber (rest : List Char) : Prop :=
  ∀ c ∈ rest.head?, c.isDigit = false ∧ c ≠ '.' ∧ c ≠ 'e' ∧ c ≠ 'E'

theorem endsNumber_nil : EndsNumber [] := by simp [EndsNumber]

theorem endsNumber_cons {c : Char} (rest : List Char) (mark : c = ',' ∨ c = ']' ∨ c = '\x7d') :
    EndsNumber (c :: rest) := by
  intro c' same
  obtain rfl := Option.some_inj.1 same
  rcases mark with rfl | rfl | rfl <;> decide

variable {rest : List Char}

theorem spanDigits_append {digits : List Char} (all : ∀ c ∈ digits, c.isDigit = true)
    (ends : EndsNumber rest) : spanDigits (digits ++ rest) = (digits, rest) := by
  have stops : rest.takeWhile Char.isDigit = [] ∧ rest.dropWhile Char.isDigit = rest := by
    cases rest with
    | nil => exact ⟨rfl, rfl⟩
    | cons c rest =>
      have none_more := (ends c rfl).1
      simp [none_more]
  rw [spanDigits, List.takeWhile_append_of_pos all, List.dropWhile_append_of_pos all, stops.1,
    stops.2, List.append_nil]

theorem readFraction_of_ends (n : Numeral) (ends : EndsNumber rest) :
    n.readFraction rest = some (n, rest) := by
  cases rest with
  | nil => rfl
  | cons c rest =>
    obtain ⟨-, not_point, not_e, not_E⟩ := ends c rfl
    have no_exponent : n.readExponent (c :: rest) = some (n, c :: rest) := by
      simp [Numeral.readExponent, not_e, not_E]
    rw [Numeral.readFraction]
    · exact no_exponent
    · rintro after same
      exact not_point (List.cons.inj same).1

/-- Only zero is written with a zero in front. -/
theorem eq_zero_of_head?_toDigits {n : Nat} (zero : (Nat.toDigits 10 n).head? = some '0') :
    n = 0 := by
  induction n using Nat.strongRecOn with
  | _ n ih =>
    by_cases small : n < 10
    · rw [Nat.toDigits_of_lt_base small] at zero
      exact Nat.digitChar_eq_zero.1 (Option.some_inj.1 zero)
    · rw [Nat.toDigits_of_base_le (by decide) (Nat.not_lt.1 small),
        List.head?_append, Option.or_of_isSome (by simp [Nat.toDigits_ne_nil])] at zero
      have none_left := ih (n / 10) (by omega) zero
      omega

/-- Reads a numeral behind its sign. -/
def Numeral.readUnsigned (negative : Bool) (cs : List Char) : Option (Numeral × List Char) :=
  let (whole, rest) := spanDigits cs
  match whole with
  | [] => none
  | '0' :: _ :: _ => none
  | _ => Numeral.readFraction ⟨negative, whole, [], none⟩ rest

theorem read?_minus (cs : List Char) :
    Numeral.read? ('-' :: cs) = Numeral.readUnsigned true cs :=
  rfl

theorem read?_of_ne_minus {c : Char} (cs : List Char) (unsigned : c ≠ '-') :
    Numeral.read? (c :: cs) = Numeral.readUnsigned false (c :: cs) := by
  rw [Numeral.read?]
  · rfl
  · rintro rest same
    exact unsigned (List.cons.inj same).1

theorem isDigit_of_mem_toDigits {n : Nat} {c : Char} (among : c ∈ Nat.toDigits 10 n) :
    c.isDigit = true :=
  Nat.isDigit_of_mem_toDigits (by decide) (by decide) among

/-- Digits are read back as they were written, since they do not begin with a needless zero. -/
theorem readUnsigned_toDigits (negative : Bool) (n : Nat) (ends : EndsNumber rest) :
    Numeral.readUnsigned negative (Nat.toDigits 10 n ++ rest)
      = some (⟨negative, Nat.toDigits 10 n, [], none⟩, rest) := by
  have spanned : spanDigits (Nat.toDigits 10 n ++ rest) = (Nat.toDigits 10 n, rest) :=
    spanDigits_append (fun _ => isDigit_of_mem_toDigits) ends
  rw [Numeral.readUnsigned, spanned]
  dsimp only
  split
  · rename_i empty
    exact absurd empty Nat.toDigits_ne_nil
  · rename_i c more several
    have zero : n = 0 := eq_zero_of_head?_toDigits (by rw [several]; rfl)
    rw [zero, Nat.toDigits_zero] at several
    cases several
  · exact readFraction_of_ends _ ends

theorem le_ofDigitChars (digits : List Char) (start : Nat) :
    start ≤ Nat.ofDigitChars 10 digits start := by
  rw [Nat.ofDigitChars_eq_ofDigitChars_zero]
  have shifted : start ≤ 10 ^ digits.length * start :=
    Nat.le_mul_of_pos_left start (Nat.pow_pos (by decide))
  omega

/-- Digits of a number that fits into 64 bits are all collected. -/
theorem collectDigits_of_le {digits : List Char} {start : Nat}
    (fits : Nat.ofDigitChars 10 digits start ≤ maxSignificand) :
    collectDigits start digits = (Nat.ofDigitChars 10 digits start, []) := by
  induction digits generalizing start with
  | nil => rfl
  | cons c rest ih =>
    rw [Nat.ofDigitChars_cons, Nat.mul_comm] at fits ⊢
    have next : start * 10 + (c.toNat - 48) ≤ maxSignificand :=
      Nat.le_trans (le_ofDigitChars rest _) fits
    rw [collectDigits, if_pos next]
    exact ih fits

theorem collectDigits_toDigits {n : Nat} (fits : n ≤ maxSignificand) :
    collectDigits 0 (Nat.toDigits 10 n) = (n, []) := by
  rw [collectDigits_of_le (by rwa [Nat.ofDigitChars_ten_toDigits]), Nat.ofDigitChars_ten_toDigits]

theorem number?_toDigits {n : Nat} (fits : n ≤ maxSignificand) :
    Numeral.number? ⟨false, Nat.toDigits 10 n, [], none⟩ = some (.natural n) := by
  simp [Numeral.number?, collectDigits_toDigits fits]

theorem number?_negative_toDigits {n : Nat} (nonzero : 0 < n) (fits : n ≤ 9223372036854775808) :
    Numeral.number? ⟨true, Nat.toDigits 10 n, [], none⟩ = some (.negative n) := by
  have below : n ≤ maxSignificand := Nat.le_trans fits (by decide)
  have inside : ¬ (n = 0 ∨ 9223372036854775808 < n) := by omega
  simp [Numeral.number?, collectDigits_toDigits below, inside]

/-- Whole numbers are read back. -/
theorem read?_chars {n : Number} (whole : n.IsWhole) (ends : EndsNumber rest) :
    ∃ numeral, Numeral.read? (n.chars ++ rest) = some (numeral, rest) ∧
      numeral.number? = some n := by
  cases n with
  | natural n =>
    refine ⟨_, ?_, number?_toDigits whole⟩
    have read := readUnsigned_toDigits false n ends
    obtain ⟨c, more, digits⟩ := List.exists_cons_of_ne_nil (@Nat.toDigits_ne_nil n 10)
    have unsigned : c ≠ '-' := by
      rintro rfl
      have digit := isDigit_of_mem_toDigits (n := n) (digits ▸ List.mem_cons_self)
      exact absurd digit (by decide)
    rw [Number.chars, ← read, digits, List.cons_append, read?_of_ne_minus _ unsigned]
  | negative n =>
    refine ⟨_, ?_, number?_negative_toDigits whole.1 whole.2⟩
    rw [Number.chars, List.cons_append, read?_minus, readUnsigned_toDigits true n ends]
  | double bits => exact absurd whole id

/-- A whole number begins with a digit or a sign. -/
theorem exists_chars_eq_cons {n : Number} (whole : n.IsWhole) :
    ∃ c more, n.chars = c :: more ∧ (c = '-' ∨ c.isDigit = true) := by
  cases n with
  | natural n =>
    obtain ⟨c, more, digits⟩ := List.exists_cons_of_ne_nil (@Nat.toDigits_ne_nil n 10)
    exact ⟨c, more, digits, .inr (isDigit_of_mem_toDigits (n := n) (digits ▸ List.mem_cons_self))⟩
  | negative n => exact ⟨'-', _, rfl, .inl rfl⟩
  | double bits => exact absurd whole id

end Federation.Json
