/-
# Reading back values

A value whose numbers are whole is read back from its written form as it was, wherever it
stands in a longer text. So no two values have one written form, and only the nesting of
containers keeps a value from being read as a whole.

## Main definitions

- `Value.IsWhole`: a value whose numbers are written with digits only.
- `Value.depth`: how deep containers nest.
- `Value.IsPlain`: a value with such numbers that nests at most so deep.

## Main results

- `readValue_chars`, `ofText_text`: the outline of a written value.
- `outline_eq_of_text_eq`: values with one written form have one outline.
- `Value.IsPlain.ofText?_text`: a plain value is read back.
-/

import Federation.Proofs.Json.Tokens

namespace Federation.Json

mutual

/-- A value whose numbers are written with digits only. -/
def Value.IsWhole : Value → Prop
  | .number n => n.IsWhole
  | .array items => Value.AreWhole items
  | .object members => Value.MembersAreWhole members
  | _ => True

/-- All items are such values. -/
def Value.AreWhole : List Value → Prop
  | [] => True
  | v :: rest => v.IsWhole ∧ Value.AreWhole rest

/-- All members are such values. -/
def Value.MembersAreWhole : List (String × Value) → Prop
  | [] => True
  | (_, v) :: rest => v.IsWhole ∧ Value.MembersAreWhole rest

end

mutual

/-- How deep the containers of a value nest. -/
def Value.depth : Value → Nat
  | .array items => Value.depthOfItems items + 1
  | .object members => Value.depthOfMembers members + 1
  | _ => 0

/-- The depth of the deepest item. -/
def Value.depthOfItems : List Value → Nat
  | [] => 0
  | v :: rest => max v.depth (Value.depthOfItems rest)

/-- The depth of the deepest member. -/
def Value.depthOfMembers : List (String × Value) → Nat
  | [] => 0
  | (_, v) :: rest => max v.depth (Value.depthOfMembers rest)

end

variable {v : Value} {items : List Value} {members : List (String × Value)} {rest : List Char}
  {fuel : Nat}

/-! ## Written values -/

theorem skipBlanks_cons {c : Char} (plain : isBlankChar c = false) (cs : List Char) :
    skipBlanks (c :: cs) = c :: cs := by
  simp [skipBlanks, plain]

theorem not_blank_of_isDigit {c : Char} (digit : c.isDigit = true) : isBlankChar c = false := by
  have not_mark (mark : Char) (other : mark.isDigit = false) : c ≠ mark := by
    rintro rfl
    exact absurd digit (by simp [other])
  simp [isBlankChar, not_mark ' ' (by decide), not_mark '\t' (by decide),
    not_mark '\n' (by decide), not_mark '\x0d' (by decide)]

/-- A written value begins neither with a blank nor with what closes an array. -/
theorem exists_valueChars_eq_cons (whole : v.IsWhole) :
    ∃ c more, v.chars = c :: more ∧ isBlankChar c = false ∧ c ≠ ']' := by
  cases v with
  | null => exact ⟨'n', _, rfl, by decide, by decide⟩
  | bool b => cases b <;> exact ⟨_, _, rfl, by decide, by decide⟩
  | string s => exact ⟨'"', _, rfl, by decide, by decide⟩
  | array items => exact ⟨'[', _, rfl, by decide, by decide⟩
  | object members => exact ⟨'\x7b', _, rfl, by decide, by decide⟩
  | number n =>
    obtain ⟨c, more, written, minus | digit⟩ := exists_chars_eq_cons (n := n) whole
    · exact ⟨c, more, written, by rw [minus]; decide, by rw [minus]; decide⟩
    · refine ⟨c, more, written, not_blank_of_isDigit digit, ?_⟩
      rintro rfl
      exact absurd digit (by decide)

/-! ## Reading, one level at a time -/

theorem stringChars_append (s : String) (rest : List Char) :
    stringChars s ++ rest = '"' :: (s.toList.flatMap escapeChar ++ '"' :: rest) := by
  simp [stringChars]

theorem readValue_string (s : String) (rest : List Char) :
    readValue (fuel + 1) (stringChars s ++ rest) = (.string (some s), some rest) := by
  rw [stringChars_append, readValue, skipBlanks_cons (by decide)]
  simp [string?_stringChars s rest]

theorem readValue_number {n : Number} (whole : n.IsWhole) (ends : EndsNumber rest) :
    readValue (fuel + 1) (n.chars ++ rest) = (.number (some n), some rest) := by
  obtain ⟨numeral, read, same⟩ := read?_chars whole ends
  obtain ⟨c, more, written, first⟩ := exists_chars_eq_cons whole
  -- A number begins with a minus sign or a digit, and nothing else that is written does.
  have not_letter (mark : Char) (other : mark.isDigit = false) (unsigned : mark ≠ '-') :
      c ≠ mark := by
    rintro rfl
    rcases first with minus | digit
    · exact unsigned minus
    · exact absurd digit (by simp [other])
  have plain : isBlankChar c = false := by
    rcases first with rfl | digit
    · decide
    · exact not_blank_of_isDigit digit
  rw [written] at read ⊢
  rw [List.cons_append] at read ⊢
  rw [readValue, skipBlanks_cons plain]
  dsimp only
  rw [if_neg (not_letter 'n' (by decide) (by decide)),
    if_neg (not_letter 't' (by decide) (by decide)),
    if_neg (not_letter 'f' (by decide) (by decide)),
    if_neg (not_letter '"' (by decide) (by decide)),
    if_neg (not_letter '[' (by decide) (by decide)),
    if_neg (not_letter '\x7b' (by decide) (by decide)), if_pos (by simpa using first), read]
  dsimp only
  rw [same]

/-- An array is read when its items are. -/
theorem readValue_array {more : List Value} (whole : v.IsWhole)
    (read : readItems fuel (Value.itemChars (v :: more) ++ rest)
      = (Value.outlines (v :: more), some rest)) :
    readValue (fuel + 1) ((Value.array (v :: more)).chars ++ rest)
      = ((Value.array (v :: more)).outline, some rest) := by
  obtain ⟨c, tail, written, plain, not_closed⟩ := exists_valueChars_eq_cons whole
  have begins : ∃ tail, Value.itemChars (v :: more) ++ rest = c :: tail := by
    cases more <;> simp [Value.itemChars, written]
  obtain ⟨tail, begins⟩ := begins
  rw [Value.chars, List.cons_append, readValue, skipBlanks_cons (by decide)]
  dsimp only
  rw [if_neg (by decide), if_neg (by decide), if_neg (by decide), if_neg (by decide), if_pos rfl]
  rw [begins] at read ⊢
  rw [skipBlanks_cons plain]
  split
  · rename_i closed
    exact absurd (List.cons.inj closed).1 not_closed
  · rw [read]
    rfl

/-- The items of an array are read when the first and the others are. -/
theorem readItems_cons {more : List Value}
    (first : ∀ rest, EndsNumber rest → readValue fuel (v.chars ++ rest) = (v.outline, some rest))
    (others : more ≠ [] → readItems fuel (Value.itemChars more ++ rest)
      = (Value.outlines more, some rest)) :
    readItems (fuel + 1) (Value.itemChars (v :: more) ++ rest)
      = (Value.outlines (v :: more), some rest) := by
  cases more with
  | nil =>
    have read := first (']' :: rest) (endsNumber_cons rest (by simp))
    rw [Value.itemChars, List.append_assoc, List.cons_append, List.nil_append, readItems, read]
    simp [skipBlanks_cons (show isBlankChar ']' = false by decide), Value.outlines]
  | cons w more =>
    have read := first (',' :: (Value.itemChars (w :: more) ++ rest))
      (endsNumber_cons _ (by simp))
    have after := others (by simp)
    rw [Value.itemChars, List.append_assoc, List.cons_append, readItems, read]
    · simp [skipBlanks_cons (show isBlankChar ',' = false by decide), after, Value.outlines]
    · simp

/-- The members of an object are read when the first and the others are. -/
theorem readMembers_cons (name : String) {more : List (String × Value)}
    (first : ∀ rest, EndsNumber rest → readValue fuel (v.chars ++ rest) = (v.outline, some rest))
    (others : more ≠ [] → readMembers fuel (Value.memberChars more ++ rest)
      = (Value.memberOutlines more, some rest)) :
    readMembers (fuel + 1) (Value.memberChars ((name, v) :: more) ++ rest)
      = (Value.memberOutlines ((name, v) :: more), some rest) := by
  cases more with
  | nil =>
    -- It is the last member, and the brace ends a number.
    have read := first ('\x7d' :: rest) (endsNumber_cons rest (by simp))
    have written : Value.memberChars [(name, v)] ++ rest
        = stringChars name ++ ':' :: (v.chars ++ '\x7d' :: rest) := by
      simp [Value.memberChars]
    rw [written, stringChars_append, readMembers, skipBlanks_cons (by decide)]
    simp [string?_stringChars, skipBlanks_cons (show isBlankChar ':' = false by decide), read,
      skipBlanks_cons (show isBlankChar '\x7d' = false by decide), Value.memberOutlines]
  | cons member more =>
    -- More members follow, and the comma ends a number.
    have read := first (',' :: (Value.memberChars (member :: more) ++ rest))
      (endsNumber_cons _ (by simp))
    have after := others (by simp)
    have written : Value.memberChars ((name, v) :: member :: more) ++ rest
        = stringChars name
          ++ ':' :: (v.chars ++ ',' :: (Value.memberChars (member :: more) ++ rest)) := by
      simp [Value.memberChars]
    rw [written, stringChars_append, readMembers, skipBlanks_cons (by decide)]
    simp [string?_stringChars, skipBlanks_cons (show isBlankChar ':' = false by decide), read,
      skipBlanks_cons (show isBlankChar ',' = false by decide), after, Value.memberOutlines]

/-- An object is read when its members are. -/
theorem readValue_object {name : String} {more : List (String × Value)}
    (read : readMembers fuel (Value.memberChars ((name, v) :: more) ++ rest)
      = (Value.memberOutlines ((name, v) :: more), some rest)) :
    readValue (fuel + 1) ((Value.object ((name, v) :: more)).chars ++ rest)
      = ((Value.object ((name, v) :: more)).outline, some rest) := by
  have begins : ∃ tail, Value.memberChars ((name, v) :: more) ++ rest = '"' :: tail := by
    cases more <;> simp [Value.memberChars, stringChars]
  obtain ⟨tail, begins⟩ := begins
  rw [Value.chars, List.cons_append, readValue, skipBlanks_cons (by decide)]
  dsimp only
  rw [if_neg (by decide), if_neg (by decide), if_neg (by decide), if_neg (by decide),
    if_neg (by decide), if_pos rfl]
  rw [begins] at read ⊢
  rw [skipBlanks_cons (by decide)]
  split
  · rename_i closed
    exact absurd (List.cons.inj closed).1 (by decide)
  · rw [read]
    rfl

/-! ## Reading a value

Of any two calls in a row, one reads a character, so that twice as much fuel as there are
characters is enough. -/

theorem length_itemChars (v : Value) (more : List Value) :
    v.chars.length + 1 ≤ (Value.itemChars (v :: more)).length ∧
      (more ≠ [] → (Value.itemChars more).length + v.chars.length + 1
        ≤ (Value.itemChars (v :: more)).length) := by
  cases more with
  | nil => simp [Value.itemChars]
  | cons w more =>
    simp only [Value.itemChars, List.length_append, List.length_cons]
    omega

theorem length_memberChars (name : String) (v : Value) (more : List (String × Value)) :
    v.chars.length + 1 ≤ (Value.memberChars ((name, v) :: more)).length ∧
      (more ≠ [] → (Value.memberChars more).length + v.chars.length + 1
        ≤ (Value.memberChars ((name, v) :: more)).length) := by
  cases more with
  | nil =>
    simp only [Value.memberChars, List.length_append, List.length_cons, List.length_nil]
    omega
  | cons w more =>
    simp only [Value.memberChars, List.length_append, List.length_cons]
    omega

mutual

/-- **A value is read back from its written form**, wherever that stands. -/
theorem readValue_chars : ∀ (v : Value) (rest : List Char) (fuel : Nat), v.IsWhole →
    EndsNumber rest → 2 * v.chars.length ≤ fuel →
      readValue fuel (v.chars ++ rest) = (v.outline, some rest)
  | v, rest, 0, whole, _, enough => by
    obtain ⟨c, more, written, -⟩ := exists_valueChars_eq_cons whole
    simp [written] at enough
  | .null, rest, fuel + 1, _, _, _ => rfl
  | .bool true, rest, fuel + 1, _, _, _ => rfl
  | .bool false, rest, fuel + 1, _, _, _ => rfl
  | .number n, rest, fuel + 1, whole, ends, _ => readValue_number whole ends
  | .string s, rest, fuel + 1, _, _, _ => readValue_string s rest
  | .array [], rest, fuel + 1, _, _, _ => rfl
  | .array (v :: more), rest, fuel + 1, whole, _, enough => by
    refine readValue_array whole.1 (readItems_chars (v :: more) rest fuel whole (by simp) ?_)
    simp only [Value.chars, List.length_cons] at enough
    omega
  | .object [], rest, fuel + 1, _, _, _ => rfl
  | .object ((name, v) :: more), rest, fuel + 1, whole, _, enough => by
    refine readValue_object (readMembers_chars ((name, v) :: more) rest fuel whole (by simp) ?_)
    simp only [Value.chars, List.length_cons] at enough
    omega

theorem readItems_chars : ∀ (items : List Value) (rest : List Char) (fuel : Nat),
    Value.AreWhole items → items ≠ [] → 2 * (Value.itemChars items).length ≤ fuel →
      readItems fuel (Value.itemChars items ++ rest) = (Value.outlines items, some rest)
  | [], _, _, _, some_item, _ => absurd rfl some_item
  | v :: more, rest, 0, _, _, enough => by
    have lengths := length_itemChars v more
    omega
  | v :: more, rest, fuel + 1, whole, _, enough => by
    have lengths := length_itemChars v more
    refine readItems_cons (fun rest ends => ?_) fun several => ?_
    · exact readValue_chars v rest fuel whole.1 ends (by omega)
    · have shorter := lengths.2 several
      exact readItems_chars more rest fuel whole.2 several (by omega)

theorem readMembers_chars : ∀ (members : List (String × Value)) (rest : List Char) (fuel : Nat),
    Value.MembersAreWhole members → members ≠ [] → 2 * (Value.memberChars members).length ≤ fuel →
      readMembers fuel (Value.memberChars members ++ rest)
        = (Value.memberOutlines members, some rest)
  | [], _, _, _, some_member, _ => absurd rfl some_member
  | (name, v) :: more, rest, 0, _, _, enough => by
    have lengths := length_memberChars name v more
    omega
  | (name, v) :: more, rest, fuel + 1, whole, _, enough => by
    have lengths := length_memberChars name v more
    refine readMembers_cons name (fun rest ends => ?_) fun several => ?_
    · exact readValue_chars v rest fuel whole.1 ends (by omega)
    · have shorter := lengths.2 several
      exact readMembers_chars more rest fuel whole.2 several (by omega)

end

/-- A written value is read to its end, and nothing follows it. -/
theorem ofText_text (whole : v.IsWhole) : Outline.ofText v.text = (v.outline, true) := by
  have read := readValue_chars v [] (2 * v.chars.length + 2) whole endsNumber_nil (by omega)
  rw [List.append_nil] at read
  rw [Outline.ofText, Value.text, String.toList_ofList, Outline.ofChars, read]
  rfl

mutual

/-- The value of an outline is found where its containers do not nest too deep. -/
theorem value?_outline : ∀ (v : Value) (depth : Nat), v.depth ≤ depth →
    v.outline.value? depth = some v
  | .null, _, _ => by simp [Value.outline, Outline.value?]
  | .bool b, _, _ => by simp [Value.outline, Outline.value?]
  | .number n, _, _ => by simp [Value.outline, Outline.value?]
  | .string s, _, _ => by simp [Value.outline, Outline.value?]
  | .array items, 0, shallow => by simp [Value.depth] at shallow
  | .array items, depth + 1, shallow => by
    have inside := values?_outlines items depth (Nat.le_of_succ_le_succ shallow)
    simp [Value.outline, Outline.value?, inside]
  | .object members, 0, shallow => by simp [Value.depth] at shallow
  | .object members, depth + 1, shallow => by
    have inside := memberValues?_outlines members depth (Nat.le_of_succ_le_succ shallow)
    simp [Value.outline, Outline.value?, inside]

theorem values?_outlines : ∀ (items : List Value) (depth : Nat), Value.depthOfItems items ≤ depth →
    Outline.values? depth (Value.outlines items) = some items
  | [], _, _ => rfl
  | v :: rest, depth, shallow => by
    obtain ⟨first, others⟩ := Nat.max_le.1 shallow
    simp [Value.outlines, Outline.values?, value?_outline v depth first,
      values?_outlines rest depth others]

theorem memberValues?_outlines : ∀ (members : List (String × Value)) (depth : Nat),
    Value.depthOfMembers members ≤ depth →
      Outline.memberValues? depth (Value.memberOutlines members) = some members
  | [], _, _ => rfl
  | (name, v) :: rest, depth, shallow => by
    obtain ⟨first, others⟩ := Nat.max_le.1 shallow
    simp [Value.memberOutlines, Outline.memberValues?, value?_outline v depth first,
      memberValues?_outlines rest depth others]

end

/-! ## Plain values -/

/-- A value that is read back where containers may nest `depth` deep. -/
structure Value.IsPlain (v : Value) (depth : Nat) : Prop where
  whole : v.IsWhole
  shallow : v.depth ≤ depth

variable {depth : Nat}

theorem areWhole_iff : Value.AreWhole items ↔ ∀ v ∈ items, v.IsWhole := by
  induction items with
  | nil => simp [Value.AreWhole]
  | cons v rest ih => simp [Value.AreWhole, ih]

theorem membersAreWhole_iff : Value.MembersAreWhole members ↔ ∀ m ∈ members, m.2.IsWhole := by
  induction members with
  | nil => simp [Value.MembersAreWhole]
  | cons m rest ih => simp [Value.MembersAreWhole, ih]

theorem depthOfItems_le_iff :
    Value.depthOfItems items ≤ depth ↔ ∀ v ∈ items, v.depth ≤ depth := by
  induction items with
  | nil => simp [Value.depthOfItems]
  | cons v rest ih => rw [Value.depthOfItems, Nat.max_le, ih, List.forall_mem_cons]

theorem depthOfMembers_le_iff :
    Value.depthOfMembers members ≤ depth ↔ ∀ m ∈ members, m.2.depth ≤ depth := by
  induction members with
  | nil => simp [Value.depthOfMembers]
  | cons m rest ih => rw [Value.depthOfMembers, Nat.max_le, ih, List.forall_mem_cons]

theorem isPlain_string (s : String) : (Value.string s).IsPlain depth := ⟨trivial, Nat.zero_le _⟩

theorem isPlain_natural {n : Nat} (fits : n ≤ maxSignificand) :
    (Value.number (.natural n)).IsPlain depth :=
  ⟨fits, Nat.zero_le _⟩

theorem isPlain_array (each : ∀ v ∈ items, v.IsPlain depth) :
    (Value.array items).IsPlain (depth + 1) where
  whole := areWhole_iff.2 fun v among => (each v among).whole
  shallow := Nat.succ_le_succ (depthOfItems_le_iff.2 fun v among => (each v among).shallow)

theorem isPlain_object (each : ∀ m ∈ members, m.2.IsPlain depth) :
    (Value.object members).IsPlain (depth + 1) where
  whole := membersAreWhole_iff.2 fun m among => (each m among).whole
  shallow := Nat.succ_le_succ (depthOfMembers_le_iff.2 fun m among => (each m among).shallow)

theorem Value.IsPlain.mono {deeper : Nat} (plain : v.IsPlain depth) (le : depth ≤ deeper) :
    v.IsPlain deeper :=
  ⟨plain.whole, Nat.le_trans plain.shallow le⟩

/-- **A plain value is read back from its text**, if it nests no deeper than any text may. -/
theorem Value.IsPlain.ofText?_text (plain : v.IsPlain depthLimit) :
    Value.ofText? v.text = some v := by
  rw [Value.ofText?, ofText_text plain.whole]
  exact value?_outline v depthLimit plain.shallow

end Federation.Json
