/-
# Entities have addresses of their own

An origin that is asked entity by entity puts the ID into an address. In the address nothing but the
text that was written for the ID depends on it, and it stands there at least once. The ways to write
an ID can all be undone: a percent-encoded text is read back byte by byte, and it stays readable when
one byte is not written as an escape but as a character that no other byte is written with. So no two
entities are asked for at one address, whatever their IDs are.

## Main definitions

- `Text.Percent.encodeSave`: the percent-encoding with another character for one byte.
- `Origin.AddressRule.Writes`: a rule that puts IDs into addresses, and how it writes them.

## Main results

- `Text.Percent.becomes_encodeByte`: replacing an escape replaces the byte that it is for.
- `Text.Percent.decodeBytes_encodeSave`: the bytes can be read back.
- `Origin.distinct_entities_distinct_addresses`: what stands in the addresses of IDs, and that they
  tell the IDs apart.
-/

import Federation.Origin.Address
import Federation.Proofs.Text.Replacing

namespace Federation

namespace Text.Percent

/-! ## Escapes -/

variable {b m : UInt8} {c mark : Char}

theorem encodeByte_inj : encodeByte b = encodeByte m ↔ b = m := by
  refine ⟨fun same => ?_, congrArg encodeByte⟩
  have read := congrArg (fun written => decodeBytes (written ++ [])) same
  rw [decodeBytes_encodeByte, decodeBytes_encodeByte] at read
  exact (List.cons.inj read).1

/-- Which characters bytes are written with: an escape has no percent sign but its first, and those
that separate the parts of an address do not occur. -/
theorem chars_of_encodeByte : ∀ n : Fin 256,
    ((encodeByte (UInt8.ofNat n)).all fun c => c ∉ ['/', '?', '#', '&', ' ', '+']) = true ∧
      (isPlain (UInt8.ofNat n) = false →
        digit (UInt8.ofNat n / 16) ≠ '%' ∧ digit (UInt8.ofNat n % 16) ≠ '%') := by
  decide +kernel

theorem not_separator_of_mem_encodeByte (written : c ∈ encodeByte b) :
    c ∉ ['/', '?', '#', '&', ' ', '+'] := by
  have of_byte := (chars_of_encodeByte ⟨b.toNat, b.toNat_lt⟩).1
  rw [UInt8.ofNat_toNat] at of_byte
  exact of_decide_eq_true (List.all_eq_true.1 of_byte c written)

/-- A byte stands for itself, or is written as an escape. -/
theorem encodeByte_cases (b : UInt8) :
    (isPlain b = true ∧ ∃ c, encodeByte b = [c] ∧ c ≠ '%') ∨
      isPlain b = false ∧ ∃ high low, encodeByte b = ['%', high, low] ∧ high ≠ '%' ∧ low ≠ '%' := by
  have back : UInt8.ofNat b.toNat = b := UInt8.ofNat_toNat
  rw [encodeByte]
  cases plain : isPlain b with
  | true =>
    have other := decodeBytes_plain ⟨b.toNat, b.toNat_lt⟩ (by rw [back]; exact plain)
    exact .inl ⟨rfl, _, rfl, other.1⟩
  | false =>
    have digits := (chars_of_encodeByte ⟨b.toNat, b.toNat_lt⟩).2 (by rw [back]; exact plain)
    rw [back] at digits
    exact .inr ⟨rfl, _, _, rfl, digits⟩

/-! ## Writing one byte by another character -/

/-- The written form of a byte, save that one is written by another text. -/
def encodeSave (m : UInt8) (by' : List Char) (b : UInt8) : List Char :=
  if b = m then by' else encodeByte b

/-- An escape does not stand where there is no percent sign. -/
theorem dropPrefix?_encodeByte_of_ne {cs : List Char} (escaped : isPlain m = false) (other : c ≠ '%') :
    dropPrefix? (encodeByte m) (c :: cs) = none := by
  rcases encodeByte_cases m with ⟨plain, -⟩ | ⟨-, high, low, written, -, -⟩
  · rw [escaped] at plain
    cases plain
  · rw [written, dropPrefix?, if_neg other.symm]

/-- **Replacing an escape replaces the byte that it is for.** It is not found in what is written for
another byte, and least of all across the border to the next. -/
theorem becomes_encodeByte (escaped : isPlain m = false) {by' tail out : List Char}
    (scanned : Becomes (encodeByte m) by' tail out) (b : UInt8) :
    Becomes (encodeByte m) by' (encodeByte b ++ tail) (encodeSave m by' b ++ out) := by
  by_cases same : b = m
  · rw [same, encodeSave, if_pos rfl]
    refine scanned.hit fun nothing => ?_
    rcases encodeByte_cases m with ⟨-, c, written, -⟩ | ⟨-, high, low, written, -, -⟩ <;>
      · rw [written] at nothing
        cases nothing
  · rw [encodeSave, if_neg same]
    rcases encodeByte_cases b with ⟨-, c, written, other⟩ | ⟨plain, high, low, written, first, second⟩
    · rw [written]
      exact scanned.pass (dropPrefix?_encodeByte_of_ne escaped other)
    · rw [written]
      refine Becomes.pass (Becomes.pass (scanned.pass ?_) ?_) ?_
      · exact dropPrefix?_encodeByte_of_ne escaped second
      · exact dropPrefix?_encodeByte_of_ne escaped first
      · -- At the percent sign stands the escape of `b`, of the same length.
        refine Option.eq_none_iff_forall_ne_some.2 fun left found => same ?_
        have split := dropPrefix?_eq_some_iff.1 found
        have whole : encodeByte b ++ tail = encodeByte m ++ left := by rw [written, ← split]; rfl
        have sizes : (encodeByte b).length = (encodeByte m).length := by
          rw [encodeByte, encodeByte, plain, escaped]
          rfl
        exact encodeByte_inj.1 (List.append_inj_left whole sizes)

theorem becomes_encodeBytes (escaped : isPlain m = false) (by' : List Char) (bytes : List UInt8) :
    Becomes (encodeByte m) by' (encodeBytes bytes) (bytes.flatMap (encodeSave m by')) := by
  induction bytes with
  | nil => exact becomes_nil _ _
  | cons b rest ih => exact becomes_encodeByte escaped ih b

/-- So a text can be encoded with another text for one byte. -/
theorem toList_replace_encode {escape : String} (escaped : isPlain m = false)
    (same : escape.toList = encodeByte m) (by' s : String) :
    (replace (encode s) escape by').toList = (utf8 s).flatMap (encodeSave m by'.toList) := by
  have written : (encode s).toList = encodeBytes (utf8 s) := String.toList_ofList
  refine toList_replace ?_
  rw [same, written]
  exact becomes_encodeBytes escaped _ _

/-- **The bytes can be read back** if one of them is written by another character, as long as that
character is not a percent sign when it is read, and is read as that byte. -/
theorem decodeBytes_encodeSave {read : Char → Char}
    (fixed : ∀ b, ∀ c ∈ encodeByte b, read c = c) (noEscape : read mark ≠ '%')
    (asByte : String.utf8EncodeChar (read mark) = [m]) (bytes : List UInt8) :
    decodeBytes ((bytes.flatMap (encodeSave m [mark])).map read) = bytes := by
  induction bytes with
  | nil => rfl
  | cons b rest ih =>
    rw [List.flatMap_cons, List.map_append, encodeSave]
    split
    · rename_i same
      rw [List.map_singleton, List.singleton_append, decodeBytes, asByte, ih, same,
        List.singleton_append]
      exact fun _ _ _ escape => absurd escape noEscape
    · rw [List.map_congr_left (fixed b), List.map_id', decodeBytes_encodeByte, ih]

end Text.Percent

namespace Origin

open Text.Percent

/-! ## How IDs are written -/

namespace TemplateEncoding

theorem toList_encode_form (s : String) :
    (form.encode s).toList = (Text.utf8 s).flatMap (encodeSave 32 ['+']) :=
  toList_replace_encode (by decide) (by decide : "%20".toList = encodeByte 32) "+" s

theorem toList_encode_path (s : String) :
    (path.encode s).toList = (Text.utf8 s).flatMap (encodeSave 47 ['/']) :=
  toList_replace_encode (by decide) (by decide : "%2F".toList = encodeByte 47) "/" s

end TemplateEncoding

/-- Bytes tell texts apart. -/
theorem utf8_injective {s s' : String} (same : Text.utf8 s = Text.utf8 s') : s = s' := by
  have read := congrArg Text.ofUtf8? same
  rw [Text.ofUtf8?_utf8, Text.ofUtf8?_utf8] at read
  exact Option.some_inj.1 read

theorem percentEncode_injective {s s' : String}
    (same : Text.Percent.encode s = Text.Percent.encode s') : s = s' := by
  have read := congrArg (fun written => decodeBytes written.toList) same
  simp only [Text.Percent.encode, String.toList_ofList, decodeBytes_encodeBytes] at read
  exact utf8_injective read

/-- No two IDs are written alike. -/
theorem TemplateEncoding.encode_injective (encoding : TemplateEncoding) {s s' : String}
    (same : encoding.encode s = encoding.encode s') : s = s' := by
  cases encoding with
  | verbatim => exact same
  | form =>
    -- A plus sign is read as a space, which is not written otherwise.
    let read (c : Char) : Char := if c = '+' then ' ' else c
    have fixed (b : UInt8) (c : Char) (written : c ∈ encodeByte b) : read c = c := by
      refine if_neg ?_
      rintro rfl
      exact not_separator_of_mem_encodeByte written (by decide)
    have chars := congrArg (fun written => decodeBytes (written.toList.map read)) same
    simp only [toList_encode_form] at chars
    rw [decodeBytes_encodeSave fixed (by decide) (by decide),
      decodeBytes_encodeSave fixed (by decide) (by decide)] at chars
    exact utf8_injective chars
  | path =>
    -- A slash is only written for its own byte, so nothing has to be read otherwise.
    have fixed (b : UInt8) (c : Char) (_ : c ∈ encodeByte b) : id c = c := rfl
    have chars := congrArg (fun written => decodeBytes (written.toList.map id)) same
    simp only [toList_encode_path] at chars
    rw [decodeBytes_encodeSave fixed (by decide) (by decide),
      decodeBytes_encodeSave fixed (by decide) (by decide)] at chars
    exact utf8_injective chars

/-- What separates the parts of an address is not written for an ID of which all bytes are escaped
that do not stand for themselves. -/
theorem not_separator_of_mem_percentEncode {id : String} {c : Char}
    (written : c ∈ (Text.Percent.encode id).toList) : c ∉ ['/', '?', '#', '&', ' '] := by
  rw [Text.Percent.encode, String.toList_ofList, encodeBytes] at written
  obtain ⟨b, -, written⟩ := List.mem_flatMap.1 written
  exact fun separates =>
    not_separator_of_mem_encodeByte written (List.mem_append_left ['+'] separates)

theorem TemplateEncoding.not_separator_of_mem_form {id : String} {c : Char}
    (written : c ∈ (form.encode id).toList) : c ∉ ['/', '?', '#', '&', ' '] := by
  rw [toList_encode_form] at written
  obtain ⟨b, -, written⟩ := List.mem_flatMap.1 written
  rw [encodeSave] at written
  split at written
  · obtain rfl := List.mem_singleton.1 written
    decide
  · exact fun separates =>
      not_separator_of_mem_encodeByte written (List.mem_append_left ['+'] separates)

/-! ## Addresses -/

/-- A rule that has an address for every ID, and how it writes the ID there. -/
inductive AddressRule.Writes : AddressRule → (String → String) → Prop where
  | template {t : String} (encoding : TemplateEncoding)
      (marked : ∃ before after, t = before ++ placeholder ++ after) :
      Writes (.template t encoding) encoding.encode
  | service (base : String) : Writes (.service base) Text.Percent.encode

namespace AddressRule.Writes

variable {rule : AddressRule} {write : String → String}

theorem injective (writes : rule.Writes write) {id id' : String} (same : write id = write id') :
    id = id' := by
  cases writes with
  | template encoding _ => exact encoding.encode_injective same
  | service base => exact percentEncode_injective same

/-- The addresses of IDs have the same pieces, with what is written for the ID between them. -/
theorem exists_pieces (writes : rule.Writes write) :
    ∃ pieces, 2 ≤ pieces.length ∧
      (∀ t encoding, rule = .template t encoding → Text.join placeholder pieces = t) ∧
      ∀ query id, query.entityId = some id →
        rule.address? query = some (Text.join (write id) pieces) := by
  cases writes with
  | @template t encoding marked =>
    obtain ⟨pieces, whole, filled, several⟩ := Text.exists_pieces (by decide : placeholder ≠ "") t
    refine ⟨pieces, several marked, ?_, fun query id about => ?_⟩
    · rintro _ _ ⟨rfl, rfl⟩
      exact whole
    · rw [address?, about, Option.map_some, filled]
  | service base =>
    refine ⟨[String.ofList (Text.dropEndWhile (· == '/') base.toList) ++ "/entities/", ""],
      Nat.le_refl 2, fun t encoding same => ?_, fun query id about => ?_⟩
    · cases same
    · rw [AddressRule.service, address?, about, Text.join, Text.join, String.append_empty]
      · rfl
      · intro alone
        cases alone

end AddressRule.Writes

/-- **Different entities have different addresses.** For every ID the rule has an address, which
consists of pieces that do not depend on the ID, two at least, with what is written for the ID
between neighbours; the pieces of a template are those between its marks. Two queries for entities
have the same address exactly if they are for the same one, whatever characters its ID has. Unless a
template takes the ID as it is or leaves its slashes, what is written for the ID has no character
that separates the parts of an address. -/
theorem distinct_entities_distinct_addresses {rule : AddressRule} {write : String → String}
    (writes : rule.Writes write) :
    (∃ pieces, 2 ≤ pieces.length ∧
      (∀ t encoding, rule = .template t encoding → Text.join placeholder pieces = t) ∧
      ∀ query id, query.entityId = some id →
        rule.address? query = some (Text.join (write id) pieces)) ∧
    (∀ query query' id id', query.entityId = some id → query'.entityId = some id' →
      (rule.address? query = rule.address? query' ↔ id = id')) ∧
    ((∀ t encoding, rule = .template t encoding → encoding = .form) →
      ∀ id, ∀ c ∈ (write id).toList, c ∉ ['/', '?', '#', '&', ' ']) := by
  refine ⟨writes.exists_pieces, fun query query' id id' about about' => ?_, fun encoded id c => ?_⟩
  · obtain ⟨pieces, several, -, address⟩ := writes.exists_pieces
    rw [address query id about, address query' id' about', Option.some_inj, Text.join_inj several]
    exact ⟨writes.injective, congrArg write⟩
  · cases writes with
    | @template t encoding _ =>
      obtain rfl := encoded t encoding rfl
      exact TemplateEncoding.not_separator_of_mem_form
    | service base => exact not_separator_of_mem_percentEncode

/-- A template with two marks. -/
def markedTwice : String :=
  "https://md.example.org/\x7bentityID\x7d?id=\x7bentityID\x7d"

theorem distinct_addresses_markedTwice :
    (AddressRule.template markedTwice .form).Writes TemplateEncoding.form.encode ∧
      (AddressRule.template markedTwice .form).address? { entityId := some "a b" }
        ≠ (AddressRule.template markedTwice .form).address? { entityId := some "a+b" } := by
  have writes : (AddressRule.template markedTwice .form).Writes TemplateEncoding.form.encode :=
    .template .form ⟨"https://md.example.org/", "?id=" ++ placeholder, by decide⟩
  have apart := (distinct_entities_distinct_addresses writes).2.1 { entityId := some "a b" }
    { entityId := some "a+b" } "a b" "a+b" rfl rfl
  exact ⟨writes, fun same => absurd (apart.1 same) (by decide)⟩

end Origin

end Federation
