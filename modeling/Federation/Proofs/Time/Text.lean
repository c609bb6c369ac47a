/-
# Instants and their texts

Instants are read back from their texts. The one thing that a text cannot state is a leap second
within a minute, so the instants that are read back are just those that any text states.

## Main definitions

- `Instant.IsCivil`: an instant of the calendar whose leap second, if any, ends a minute.

## Main results

- `ofText?_text`: such an instant is read back from its text.
- `isCivil_iff`: such instants are those that texts state.
-/

import Federation.Proofs.Time.Calendar
import Federation.Time.Reader
import Federation.Time.Writer
import Mathlib.Algebra.Group.Nat.Defs

namespace Federation.Time

open Federation.Text

/-! ## Digits -/

variable {rest digits : List Char} {width n : Nat}

/-- Digits are taken up to the width, or up to what is no digit. -/
theorem takeDigits_append (width : Nat) (rest : List Char)
    (all : ∀ c ∈ digits, c.isDigit = true) (fits : digits.length ≤ width)
    (ends : digits.length = width ∨ ∀ c ∈ rest.head?, c.isDigit = false) (start : Nat) :
    takeDigits width start (digits ++ rest) = (Nat.ofDigitChars 10 digits start, rest) := by
  induction digits generalizing width start with
  | nil =>
    -- There are no digits left: either the field is full, or what follows is not a digit.
    cases width with
    | zero => rfl
    | succ width =>
      cases rest with
      | nil => rfl
      | cons c rest =>
        have stops : c.isDigit = false := by
          rcases ends with full | stops
          · cases full
          · exact stops c rfl
        simp [takeDigits, digitValue?, stops]
  | cons c digits ih =>
    cases width with
    | zero => cases fits
    | succ width =>
      have digit := all c List.mem_cons_self
      have later := ih width (fun c among => all c (List.mem_cons_of_mem _ among))
        (Nat.le_of_succ_le_succ fits) (ends.imp_left Nat.succ.inj)
      rw [List.cons_append, takeDigits, digitValue?, if_pos digit, Nat.ofDigitChars_cons,
        Nat.mul_comm 10]
      exact later _

theorem isDigit_of_mem_padded {c : Char} (among : c ∈ padded width n) : c.isDigit = true := by
  rcases List.mem_append.1 among with zero | digit
  · rw [(List.mem_replicate.1 zero).2]
    decide
  · exact Nat.isDigit_of_mem_toDigits (by decide) (by decide) digit

/-- Zeros in front do not change a number. -/
theorem ofDigitChars_padded : Nat.ofDigitChars 10 (padded width n) 0 = n := by
  rw [padded, Nat.ofDigitChars_append, Nat.ofDigitChars_replicate_zero, Nat.mul_zero,
    Nat.ofDigitChars_ten_toDigits]

theorem length_padded (some_digit : 0 < width) (fits : n < 10 ^ width) :
    (padded width n).length = width := by
  have short := (Nat.length_toDigits_le_iff (b := 10) (by decide) some_digit).2 fits
  rw [padded, List.length_append, List.length_replicate]
  omega

theorem padded_ne_nil : padded width n ≠ [] := by
  intro empty
  exact Nat.toDigits_ne_nil (List.append_eq_nil_iff.1 empty).2

/-- A padded number begins with a digit. -/
theorem exists_padded_eq_cons (width n : Nat) :
    ∃ c more, padded width n = c :: more ∧ c.isDigit = true := by
  obtain ⟨c, more, written⟩ := List.exists_cons_of_ne_nil (@padded_ne_nil width n)
  have first : c ∈ padded width n := written ▸ List.mem_cons_self
  exact ⟨c, more, written, isDigit_of_mem_padded first⟩

theorem isBlank_of_isDigit {c : Char} (digit : c.isDigit = true) : isBlank c = false := by
  have bounds : 48 ≤ c.toNat ∧ c.toNat ≤ 57 := by
    simpa [Char.isDigit, UInt32.le_iff_toNat_le] using digit
  simp only [isBlank, UInt32.le_iff_toNat_le, Bool.or_eq_false_iff, Bool.and_eq_false_iff,
    decide_eq_false_iff_not, beq_eq_false_iff_ne, ne_eq, ← UInt32.toNat_inj]
  simp
  omega

theorem trimStartChars_cons {c : Char} (visible : isBlank c = false) (cs : List Char) :
    trimStartChars (c :: cs) = c :: cs := by
  simp [trimStartChars, visible]

/-- Numbers of a fixed width are read back. -/
theorem number?_padded (some_digit : 0 < width) (fits : n < 10 ^ width) (rest : List Char) :
    number? width (padded width n ++ rest) = some (n, rest) := by
  have taken := takeDigits_append width rest (fun _ => isDigit_of_mem_padded)
    (Nat.le_of_eq (length_padded some_digit fits)) (.inl (length_padded some_digit fits)) 0
  obtain ⟨c, more, written, digit⟩ := exists_padded_eq_cons width n
  rw [ofDigitChars_padded] at taken
  rw [written, List.cons_append] at taken ⊢
  rw [number?, trimStartChars_cons (isBlank_of_isDigit digit)]
  simp only [digit, if_true, taken]

theorem mark?_cons {mark : Char} (visible : isBlank mark = false) (rest : List Char) :
    mark? mark (mark :: rest) = some rest := by
  simp [mark?, trimStartChars_cons visible]

/-! ## Years and fractions -/

/-- A year behind its sign is read back. -/
theorem signed_padded (n : Nat) (sign : Nat → Int) (ends : ∀ c ∈ rest.head?, c.isDigit = false) :
    year?.signed (padded 4 n ++ rest) sign = some (sign n, rest) := by
  obtain ⟨c, more, written, digit⟩ := exists_padded_eq_cons 4 n
  have fits : (padded 4 n).length ≤ (more ++ rest).length + 1 := by
    rw [written]
    simp
  have taken := takeDigits_append ((more ++ rest).length + 1) rest
    (fun _ => isDigit_of_mem_padded) fits (.inr ends) 0
  rw [ofDigitChars_padded] at taken
  rw [written, List.cons_append] at taken ⊢
  simp only [year?.signed, digit, if_true, taken]

/-- Years are read back, whether they have a sign or not. -/
theorem year?_yearChars (year : Int) (ends : ∀ c ∈ rest.head?, c.isDigit = false) :
    year? (yearChars year ++ rest) = some (year, rest) := by
  rw [yearChars]
  split
  · rename_i plain
    have fits : year.toNat < 10 ^ 4 := by omega
    have read := number?_padded (by decide) fits rest
    obtain ⟨c, more, written, digit⟩ := exists_padded_eq_cons 4 year.toNat
    rw [written, List.cons_append] at read ⊢
    rw [year?, trimStartChars_cons (isBlank_of_isDigit digit)]
    split
    · rename_i minus
      exact absurd digit (by rw [(List.cons.inj minus).1]; decide)
    · rename_i plus
      exact absurd digit (by rw [(List.cons.inj plus).1]; decide)
    · have value : (year.toNat : Int) = year := Int.toNat_of_nonneg plain.1
      simp only [read, Option.map_some, value]
  · by_cases negative : year < 0
    · have value : -(year.natAbs : Int) = year := by omega
      rw [if_pos negative, List.cons_append, year?, trimStartChars_cons (by decide)]
      simp only [signed_padded year.natAbs _ ends, value]
    · have value : (year.natAbs : Int) = year := by omega
      rw [if_neg negative, List.cons_append, year?, trimStartChars_cons (by decide)]
      simp only [signed_padded year.natAbs _ ends, value]

/-- Digits behind a point are read as a part of a thousand million. -/
theorem fraction?_padded (some_digit : 0 < width) (short : width ≤ 9) (fits : n < 10 ^ width)
    (ends : ∀ c ∈ rest.head?, c.isDigit = false) :
    fraction? ('.' :: (padded width n ++ rest)) = some (n * 10 ^ (9 - width), rest) := by
  have all : ∀ c ∈ padded width n, c.isDigit = true := fun _ => isDigit_of_mem_padded
  have length := length_padded some_digit fits
  have stops : rest.takeWhile Char.isDigit = [] ∧ rest.dropWhile Char.isDigit = rest := by
    cases rest with
    | nil => exact ⟨rfl, rfl⟩
    | cons c rest =>
      have no_digit := ends c rfl
      simp [no_digit]
  have taken := takeDigits_append 9 [] all (by omega) (.inr (by simp)) 0
  have kept : (padded width n).take 9 = padded width n := List.take_of_length_le (by omega)
  rw [ofDigitChars_padded, List.append_nil] at taken
  rw [fraction?, List.takeWhile_append_of_pos all, List.dropWhile_append_of_pos all, stops.1,
    stops.2, List.append_nil]
  simp [padded_ne_nil, kept, taken, length]

/-- Fractions are read back. -/
theorem fraction?_fractionChars (rest : List Char) {nano : Nat} (fits : nano < 1000000000)
    (ends : ∀ c ∈ rest.head?, c.isDigit = false ∧ c ≠ '.') :
    fraction? (fractionChars nano ++ rest) = some (nano, rest) := by
  have no_digit : ∀ c ∈ rest.head?, c.isDigit = false := fun c first => (ends c first).1
  rw [fractionChars]
  split
  · rename_i whole
    subst whole
    cases rest with
    | nil => rfl
    | cons c rest =>
      rw [List.nil_append, fraction?]
      rintro rest same
      exact (ends c rfl).2 (List.cons.inj same).1
  split
  · have value : nano / 1000000 * 10 ^ 6 = nano := by omega
    rw [List.cons_append, fraction?_padded (by decide) (by decide) (by omega) no_digit, value]
  split
  · have value : nano / 1000 * 10 ^ 3 = nano := by omega
    rw [List.cons_append, fraction?_padded (by decide) (by decide) (by omega) no_digit, value]
  · rw [List.cons_append, fraction?_padded (by decide) (by decide) (by omega) no_digit]
    simp

/-! ## Instants -/

namespace Instant

/-- An instant of the calendar whose leap second, if it is one, ends a minute. Another leap
second has the text of the second after it. -/
structure IsCivil (t : Instant) : Prop where
  first : firstSecond ≤ t.second
  last : t.second ≤ lastSecond
  nano : t.nano < 2000000000
  leap : t.isLeap = true → t.second % 60 = 59

variable {t : Instant}

theorem bind_eq_of_eq_some {α β : Type} {o : Option α} {a : α} {f : α → Option β}
    (found : o = some a) : (o >>= f) = f a := by
  rw [found]
  rfl

/-- Date and time of an instant, read one after another. -/
theorem ofChars?_parts {date : CivilDate} {hour minute second nano : Nat}
    (month : date.month < 100) (day : date.day < 100) (hours : hour < 100) (minutes : minute < 100)
    (seconds : second < 100) (nanos : nano < 1000000000) :
    ofChars? (yearChars date.year ++ '-' :: padded 2 date.month ++ '-' :: padded 2 date.day
      ++ 'T' :: padded 2 hour ++ ':' :: padded 2 minute ++ ':' :: padded 2 second
      ++ fractionChars nano ++ ['Z'])
      = if !date.exists? || 23 < hour || 59 < minute || 60 < second then none
        else
          let (second, nano) := if second = 60 then (59, nano + 1000000000) else (second, nano)
          inRange? ⟨date.toDays * 86400 + (hour * 3600 + minute * 60 + second : Nat), nano⟩ := by
  have two : 0 < 2 := by decide
  simp only [List.append_assoc, List.cons_append]
  rw [ofChars?]
  refine (bind_eq_of_eq_some (year?_yearChars date.year (by simp))).trans ?_
  refine (bind_eq_of_eq_some (mark?_cons (by decide) _)).trans ?_
  refine (bind_eq_of_eq_some (number?_padded two month _)).trans ?_
  refine (bind_eq_of_eq_some (mark?_cons (by decide) _)).trans ?_
  refine (bind_eq_of_eq_some (number?_padded two day _)).trans ?_
  -- The letter between date and time.
  refine (bind_eq_of_eq_some (a := _) rfl).trans ?_
  refine (bind_eq_of_eq_some (number?_padded two hours _)).trans ?_
  refine (bind_eq_of_eq_some (mark?_cons (by decide) _)).trans ?_
  refine (bind_eq_of_eq_some (number?_padded two minutes _)).trans ?_
  refine (bind_eq_of_eq_some (mark?_cons (by decide) _)).trans ?_
  refine (bind_eq_of_eq_some (number?_padded two seconds _)).trans ?_
  refine (bind_eq_of_eq_some (fraction?_fractionChars ['Z'] nanos (by simp))).trans ?_
  refine (bind_eq_of_eq_some (show offset? ['Z'] = some (0, []) by decide)).trans ?_
  -- Without an offset an instant is in range if it is in range on the wall.
  have twice (t : Instant) : (t.inRange? >>= fun _ => t.inRange?) = t.inRange? := by
    rw [inRange?]
    split <;> rfl
  have closed : (!(trimStartChars []).isEmpty) = false := rfl
  have west : decide ((0 : Int) ≤ -86400) = false := by decide
  have east : decide ((86400 : Int) ≤ 0) = false := by decide
  simp only [closed, west, east, Bool.false_or, Bool.or_false, Int.sub_zero, twice]

/-- **An instant is read back from its text**, if its leap second, if it is one, ends a minute. -/
theorem ofText?_text (civil : t.IsCivil) : ofText? t.text = some t := by
  obtain ⟨real, toDays⟩ := CivilDate.ofDays_spec (t.second / 86400)
  have bounds := CivilDate.bounds_of_exists? real
  have positive := Int.emod_nonneg t.second (show (86400 : Int) ≠ 0 by decide)
  have inDay := Int.emod_lt_of_pos t.second (show (0 : Int) < 86400 by decide)
  have days := Int.mul_ediv_add_emod t.second 86400
  have nano := civil.nano
  have within : t.inRange? = some t := if_pos ⟨civil.first, civil.last⟩
  obtain ⟨time, timeOfDay⟩ := Int.eq_ofNat_of_zero_le positive
  rw [ofText?, text, String.toList_ofList, chars, timeOfDay]
  dsimp only [Int.toNat_natCast]
  by_cases leap : t.isLeap = true
  -- A leap second is written as second 60, and read as a part of second 59.
  · have ends := civil.leap leap
    have large : 1000000000 ≤ t.nano := by simpa [isLeap] using leap
    have last : time % 60 = 59 := by omega
    have second : t.second / 86400 * 86400
        + ((time / 3600 * 3600 + time / 60 % 60 * 60 + 59 : Nat) : Int) = t.second := by omega
    have nanos : t.nano - 1000000000 + 1000000000 = t.nano := by omega
    simp only [leap, if_true, last]
    rw [ofChars?_parts (by omega) (by omega) (by omega) (by omega) (by omega) (by omega),
      if_neg (by simp [real]; omega), if_pos rfl, toDays]
    dsimp only
    rw [second, nanos]
    exact within
  · have small : t.nano < 1000000000 := by simpa [isLeap] using leap
    have second : t.second / 86400 * 86400
        + ((time / 3600 * 3600 + time / 60 % 60 * 60 + time % 60 : Nat) : Int) = t.second := by omega
    simp only [leap, Bool.false_eq_true, if_false, Nat.add_zero]
    rw [ofChars?_parts (by omega) (by omega) (by omega) (by omega) (by omega) (by omega),
      if_neg (by simp [real]; omega), if_neg (by omega), toDays]
    dsimp only
    rw [second]
    exact within

/-! ### What a text states -/

theorem ofDigitChars_lt (all : ∀ c ∈ digits, c.isDigit = true) (start : Nat) :
    Nat.ofDigitChars 10 digits start < (start + 1) * 10 ^ digits.length := by
  induction digits generalizing start with
  | nil => simp
  | cons c digits ih =>
    have later := ih (fun c among => all c (List.mem_cons_of_mem _ among))
      (10 * start + (c.toNat - 48))
    have digit : c.toNat - 48 ≤ 9 := by
      have bounds : 48 ≤ c.toNat ∧ c.toNat ≤ 57 := by
        simpa [Char.isDigit, UInt32.le_iff_toNat_le] using all c List.mem_cons_self
      omega
    have grows : (10 * start + (c.toNat - 48) + 1) * 10 ^ digits.length
        ≤ (10 * (start + 1)) * 10 ^ digits.length := Nat.mul_le_mul_right _ (by omega)
    rw [Nat.ofDigitChars_cons, List.length_cons, Nat.pow_succ]
    calc Nat.ofDigitChars 10 digits (10 * start + (c.toNat - 48))
        < (10 * start + (c.toNat - 48) + 1) * 10 ^ digits.length := later
      _ ≤ (10 * (start + 1)) * 10 ^ digits.length := grows
      _ = (start + 1) * (10 ^ digits.length * 10) := by
        rw [Nat.mul_comm 10, Nat.mul_assoc, Nat.mul_comm 10]

/-- A fraction is less than a second. -/
theorem lt_of_fraction? {cs rest : List Char} {nano : Nat}
    (read : fraction? cs = some (nano, rest)) :
    nano < 1000000000 := by
  rw [fraction?.eq_def] at read
  split at read
  · rename_i cs
    dsimp only at read
    split at read
    · cases read
    · obtain ⟨rfl, -⟩ := Prod.mk.inj (Option.some_inj.1 read)
      have all : ∀ c ∈ (cs.takeWhile Char.isDigit).take 9, c.isDigit = true := by
        intro c among
        exact List.all_eq_true.1 List.all_takeWhile c (List.mem_of_mem_take among)
      have short : ((cs.takeWhile Char.isDigit).take 9).length ≤ 9 := List.length_take_le _ _
      generalize (cs.takeWhile Char.isDigit).take 9 = kept at all short
      have taken := takeDigits_append 9 [] all short (.inr (by simp)) 0
      rw [List.append_nil] at taken
      have bound := ofDigitChars_lt all 0
      rw [taken]
      calc Nat.ofDigitChars 10 kept 0 * 10 ^ (9 - kept.length)
          < 10 ^ kept.length * 10 ^ (9 - kept.length) :=
            Nat.mul_lt_mul_of_pos_right (by simpa using bound) (Nat.pow_pos (by decide))
        _ = 10 ^ 9 := by rw [← Nat.pow_add, Nat.add_sub_cancel' short]
  · obtain ⟨rfl, -⟩ := Prod.mk.inj (Option.some_inj.1 read)
    decide

/-- An offset is a number of whole minutes. -/
theorem whole_minutes_of_offset? {cs rest : List Char} {offset : Int}
    (read : offset? cs = some (offset, rest)) : offset % 60 = 0 := by
  have stated {cs rest : List Char} {offset : Int}
      (read : hoursMinutes? cs = some (offset, rest)) : offset % 60 = 0 := by
    simp only [hoursMinutes?, Option.bind_eq_bind, Option.bind_eq_some_iff] at read
    obtain ⟨⟨hours, after⟩, -, ⟨minutes, tail⟩, -, found⟩ := read
    split at found
    · obtain ⟨rfl, -⟩ := Prod.mk.inj (Option.some_inj.1 found)
      omega
    · cases found
  rw [offset?] at read
  -- One goal for each way to write an offset: `Z`, a sign with hours and minutes, or `UTC`.
  split at read
  · obtain ⟨rfl, -⟩ := Prod.mk.inj (Option.some_inj.1 read)
    rfl
  · obtain ⟨rfl, -⟩ := Prod.mk.inj (Option.some_inj.1 read)
    rfl
  · exact stated read
  · obtain ⟨⟨n, tail⟩, found, same⟩ := Option.map_eq_some_iff.1 read
    have whole := stated found
    obtain ⟨rfl, -⟩ := Prod.mk.inj same
    omega
  · obtain ⟨⟨n, tail⟩, found, same⟩ := Option.map_eq_some_iff.1 read
    have whole := stated found
    obtain ⟨rfl, -⟩ := Prod.mk.inj same
    omega
  · split at read
    · obtain ⟨rfl, -⟩ := Prod.mk.inj (Option.some_inj.1 read)
      rfl
    · cases read
  · cases read

theorem isCivil_of_inRange? {wall : Instant} (found : wall.inRange? = some t)
    (nano : wall.nano < 2000000000) (leap : wall.isLeap = true → wall.second % 60 = 59) :
    t.IsCivil := by
  rw [inRange?] at found
  split at found
  · rename_i range
    obtain rfl := Option.some_inj.1 found
    exact ⟨range.1, range.2, nano, leap⟩
  · cases found

/-- Adding parts of a second to an instant outside any leap second leads outside of any. -/
theorem nano_addParts_lt (second : Int) {nano : Int} (secs : Int) {part : Int}
    (positive : 0 ≤ nano) (small : nano < 1000000000) (lower : -1000000000 < part)
    (upper : part < 1000000000) :
    (addParts second nano secs part).nano < 1000000000 := by
  rw [addParts]
  split
  · dsimp only
    omega
  · split
    · dsimp only
      omega
    · dsimp only
      omega

/-- Adding a span leads from a calendar instant to a calendar instant: what stays within a leap
second stays within the same minute, and what leaves it leaves all leap seconds. -/
theorem IsCivil.add? {later : Instant} {d : Span} (civil : t.IsCivil)
    (sum : t.add? d = some later) : later.IsCivil := by
  have lower : -1000000000 < d.subsecondNanos := Int.lt_tmod_of_pos d.nanos (by decide)
  have upper : d.subsecondNanos < 1000000000 := Int.tmod_lt_of_pos d.nanos (by decide)
  have nano := civil.nano
  -- Outside of leap seconds the sum is outside of them as well.
  have outside {second nano : Int} {secs : Int} (positive : 0 ≤ nano) (small : nano < 1000000000) :
      (addParts second nano secs d.subsecondNanos).nano < 2000000000 ∧
        ((addParts second nano secs d.subsecondNanos).isLeap = true →
          (addParts second nano secs d.subsecondNanos).second % 60 = 59) := by
    have none_left := nano_addParts_lt second secs positive small lower upper
    refine ⟨by omega, fun leap => ?_⟩
    simp only [isLeap, decide_eq_true_eq] at leap
    omega
  have shifted : (t.shift d).nano < 2000000000 ∧
      ((t.shift d).isLeap = true → (t.shift d).second % 60 = 59) := by
    rw [shift]
    by_cases leap : t.isLeap = true
    · have ends := civil.leap leap
      simp only [isLeap, decide_eq_true_eq] at leap
      simp only [isLeap, leap, decide_true, if_true]
      split
      · exact outside (by omega) (by omega)
      · split
        · exact outside (by omega) (by omega)
        · -- It stays within the leap second, which ends a minute.
          exact ⟨by dsimp only; omega, fun _ => ends⟩
    · rw [if_neg leap]
      simp only [isLeap, decide_eq_true_eq] at leap
      exact outside (by omega) (by omega)
  exact isCivil_of_inRange? sum shifted.1 shifted.2

/-- What a text states is an instant of the calendar, and a leap second only if it ends a
minute. -/
theorem isCivil_of_ofChars? {cs : List Char} (read : ofChars? cs = some t) : t.IsCivil := by
  rw [ofChars?] at read
  -- Only the fraction and the offset matter, since the rest is checked in the end.
  obtain ⟨⟨year, cs⟩, -, read⟩ := Option.bind_eq_some_iff.1 read
  obtain ⟨cs, -, read⟩ := Option.bind_eq_some_iff.1 read
  obtain ⟨⟨month, cs⟩, -, read⟩ := Option.bind_eq_some_iff.1 read
  obtain ⟨cs, -, read⟩ := Option.bind_eq_some_iff.1 read
  obtain ⟨⟨day, cs⟩, -, read⟩ := Option.bind_eq_some_iff.1 read
  obtain ⟨cs, -, read⟩ := Option.bind_eq_some_iff.1 read
  obtain ⟨⟨hour, cs⟩, -, read⟩ := Option.bind_eq_some_iff.1 read
  obtain ⟨cs, -, read⟩ := Option.bind_eq_some_iff.1 read
  obtain ⟨⟨minute, cs⟩, -, read⟩ := Option.bind_eq_some_iff.1 read
  obtain ⟨cs, -, read⟩ := Option.bind_eq_some_iff.1 read
  obtain ⟨⟨second, cs⟩, -, read⟩ := Option.bind_eq_some_iff.1 read
  obtain ⟨⟨nano, cs⟩, fraction, read⟩ := Option.bind_eq_some_iff.1 read
  obtain ⟨⟨offset, cs⟩, away, found⟩ := Option.bind_eq_some_iff.1 read
  have small := lt_of_fraction? fraction
  have whole := whole_minutes_of_offset? away
  dsimp only at found
  split at found
  · cases found
  · rename_i sensible
    obtain ⟨wall, -, found⟩ := Option.bind_eq_some_iff.1 found
    by_cases last : second = 60
    · simp only [if_pos last] at found
      refine isCivil_of_inRange? found ?_ fun _ => ?_
      · dsimp only
        omega
      · dsimp only
        omega
    · simp only [if_neg last] at found
      refine isCivil_of_inRange? found ?_ fun leap => ?_
      · dsimp only
        omega
      · simp only [isLeap, decide_eq_true_eq] at leap
        omega

/-- **The instants that are read back are those that texts state.** -/
theorem isCivil_iff : t.IsCivil ↔ ∃ s, ofText? s = some t :=
  ⟨fun civil => ⟨t.text, ofText?_text civil⟩, fun ⟨_, read⟩ => isCivil_of_ofChars? read⟩

end Instant

end Federation.Time
