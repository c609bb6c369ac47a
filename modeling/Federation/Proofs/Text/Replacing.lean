/-
# Replacing a mark

Where a mark occurs in a text, the text consists of the pieces between the marks. To replace the mark
is to join the pieces by something else, which is not looked at in turn. So what took the place of
the mark can be told from the result, as long as the mark occurs at all.

## Main definitions

- `Text.Becomes`: what a scan makes of some characters.

## Main results

- `Text.exists_pieces`: replacing a mark joins the pieces of the text.
- `Text.join_inj`: what joins two pieces or more can be told from the result.
-/

import Federation.Text.Blank

namespace Federation.Text

variable {needle cs rest : List Char} {c : Char}

theorem dropPrefix?_eq_some_iff : dropPrefix? needle cs = some rest ↔ cs = needle ++ rest := by
  induction needle generalizing cs with
  | nil => simp [dropPrefix?, eq_comm]
  | cons n ns ih =>
    cases cs with
    | nil => simp [dropPrefix?]
    | cons c cs =>
      rw [dropPrefix?, List.cons_append, List.cons.injEq]
      by_cases same : n = c
      · rw [if_pos same, ih, and_iff_right same.symm]
      · rw [if_neg same]
        simp [Ne.symm same]

/-! ## Scans -/

/-- What a scan for a mark makes of some characters, if it has steps enough for all of them. -/
def Becomes (needle by' cs out : List Char) : Prop :=
  ∀ fuel, cs.length < fuel → replaceChars needle by' fuel cs = out

theorem becomes_nil (needle by' : List Char) : Becomes needle by' [] [] := by
  intro fuel _
  cases fuel <;> rfl

/-- A character at which the mark does not stand is left as it is. -/
theorem Becomes.pass {by' out : List Char} (scanned : Becomes needle by' cs out)
    (missed : dropPrefix? needle (c :: cs) = none) : Becomes needle by' (c :: cs) (c :: out) := by
  intro fuel enough
  obtain ⟨fuel, rfl⟩ := Nat.exists_eq_add_one_of_ne_zero (Nat.ne_of_gt (Nat.zero_lt_of_lt enough))
  rw [replaceChars, missed]
  exact congrArg (c :: ·) (scanned fuel (Nat.lt_of_succ_lt_succ enough))

/-- A mark is replaced, and the scan goes on behind it. -/
theorem Becomes.hit {by' out : List Char} (scanned : Becomes needle by' cs out)
    (marked : needle ≠ []) : Becomes needle by' (needle ++ cs) (by' ++ out) := by
  intro fuel enough
  obtain ⟨n, ns, rfl⟩ := List.exists_cons_of_ne_nil marked
  obtain ⟨fuel, rfl⟩ := Nat.exists_eq_add_one_of_ne_zero (Nat.ne_of_gt (Nat.zero_lt_of_lt enough))
  have found : dropPrefix? (n :: ns) (n :: (ns ++ cs)) = some cs := dropPrefix?_eq_some_iff.2 rfl
  rw [List.cons_append, replaceChars, found]
  refine congrArg (by' ++ ·) (scanned fuel ?_)
  rw [List.length_append, List.length_cons] at enough
  omega

theorem toList_replace {s needle by' : String} {out : List Char}
    (scanned : Becomes needle.toList by'.toList s.toList out) :
    (replace s needle by').toList = out := by
  rw [replace, String.toList_ofList]
  exact scanned _ (Nat.lt_succ_self _)

/-! ## Pieces -/

/-- The pieces of a list: it is them, with the mark between neighbours, and the mark is replaced
between neighbours only. -/
theorem exists_piecesOfChars (marked : needle ≠ []) (cs : List Char) :
    ∃ (first : List Char) (others : List (List Char)),
      cs = first ++ others.flatMap (needle ++ ·) ∧
      (∀ by', Becomes needle by' cs (first ++ others.flatMap (by' ++ ·))) ∧
      (needle <:+: cs → others ≠ []) := by
  cases cs with
  | nil =>
    exact ⟨[], [], rfl, fun _ => becomes_nil _ _,
      fun inside => absurd (List.infix_nil.1 inside) marked⟩
  | cons c cs =>
    cases found : dropPrefix? needle (c :: cs) with
    | some rest =>
      have split := dropPrefix?_eq_some_iff.1 found
      have shorter : rest.length < (c :: cs).length := by
        rw [split, List.length_append]
        exact Nat.lt_add_of_pos_left (List.length_pos_iff.2 marked)
      -- The scan goes on behind the mark, so the mark closes an empty piece.
      obtain ⟨first, others, same, scanned, -⟩ := exists_piecesOfChars marked rest
      refine ⟨[], first :: others, ?_, fun by' => ?_, fun _ => List.cons_ne_nil _ _⟩
      · rw [split, List.nil_append, List.flatMap_cons, List.append_assoc, ← same]
      · rw [split, List.nil_append, List.flatMap_cons, List.append_assoc]
        exact (scanned by').hit marked
    | none =>
      -- The character belongs to the first piece of what follows it.
      obtain ⟨first, others, same, scanned, occurs⟩ := exists_piecesOfChars marked cs
      refine ⟨c :: first, others, ?_, fun by' => (scanned by').pass found, fun inside => ?_⟩
      · rw [List.cons_append, ← same]
      · -- The mark is not in front, or it would have been found there.
        rcases List.infix_cons_iff.1 inside with ⟨rest, ahead⟩ | behind
        · rw [dropPrefix?_eq_some_iff.2 ahead.symm] at found
          cases found
        · exact occurs behind
termination_by cs.length
decreasing_by
  · exact Nat.lt_succ_self cs.length
  · exact shorter

theorem toList_join (separator s : String) (others : List String) :
    (join separator (s :: others)).toList
      = s.toList ++ others.flatMap fun other => separator.toList ++ other.toList := by
  induction others generalizing s with
  | nil => exact (List.append_nil _).symm
  | cons next others ih =>
    rw [join, String.toList_append, String.toList_append, ih, List.flatMap_cons]
    · simp only [List.append_assoc]
    · exact fun h => nomatch h

/-- **Replacing a mark joins the pieces of the text** in which it occurs. -/
theorem exists_pieces {needle : String} (marked : needle ≠ "") (s : String) :
    ∃ pieces, join needle pieces = s ∧ (∀ by', replace s needle by' = join by' pieces) ∧
      ((∃ before after, s = before ++ needle ++ after) → 2 ≤ pieces.length) := by
  have marked : needle.toList ≠ [] := fun none_left => marked (String.toList_inj.1 none_left)
  obtain ⟨first, others, same, scanned, occurs⟩ := exists_piecesOfChars marked s.toList
  have joined (separator : String) :
      (join separator (.ofList first :: others.map .ofList)).toList
        = first ++ others.flatMap (separator.toList ++ ·) := by
    rw [toList_join, String.toList_ofList, List.flatMap_map]
    simp only [String.toList_ofList]
  refine ⟨.ofList first :: others.map .ofList, ?_, fun by' => ?_, ?_⟩
  · rw [← String.toList_inj, joined, ← same]
  · rw [← String.toList_inj, joined, toList_replace (scanned by'.toList)]
  · rintro ⟨before, after, rfl⟩
    have inside : needle.toList <:+: (before ++ needle ++ after).toList :=
      ⟨before.toList, after.toList, by simp only [String.toList_append]⟩
    have more := List.length_pos_iff.2 (occurs inside)
    rw [List.length_cons, List.length_map]
    omega

/-- What stands before each of some lists can be told from the whole, if there are any. -/
theorem flatMap_append_inj {α : Type} {x y : List α} {pieces : List (List α)}
    (some_piece : pieces ≠ []) (same : pieces.flatMap (x ++ ·) = pieces.flatMap (y ++ ·)) :
    x = y := by
  have size (z : List α) : (pieces.flatMap (z ++ ·)).length
      = pieces.length * z.length + (pieces.map List.length).sum := by
    clear some_piece same
    induction pieces with
    | nil => simp
    | cons p rest ih =>
      rw [List.flatMap_cons, List.length_append, List.length_append, ih, List.length_cons,
        List.map_cons, List.sum_cons, Nat.add_one_mul]
      omega
  -- Both occur equally often in wholes of one length, so they are of one length themselves.
  have sizes := congrArg List.length same
  rw [size, size, Nat.add_right_cancel_iff] at sizes
  have alike := Nat.eq_of_mul_eq_mul_left (List.length_pos_iff.2 some_piece) sizes
  obtain ⟨p, rest, rfl⟩ := List.exists_cons_of_ne_nil some_piece
  rw [List.flatMap_cons, List.flatMap_cons, List.append_assoc, List.append_assoc] at same
  exact List.append_inj_left same alike

/-- **What joins two pieces or more can be told from the result.** -/
theorem join_inj {a b : String} {pieces : List String} (several : 2 ≤ pieces.length) :
    join a pieces = join b pieces ↔ a = b := by
  refine ⟨fun same => ?_, congrArg (join · pieces)⟩
  match pieces, several with
  | s :: next :: others, _ =>
    have chars := congrArg String.toList same
    rw [toList_join, toList_join, List.append_cancel_left_eq] at chars
    have split (z : String) : ((next :: others).flatMap fun other => z.toList ++ other.toList)
        = ((next :: others).map String.toList).flatMap (z.toList ++ ·) := by
      rw [List.flatMap_map]
    rw [split, split] at chars
    exact String.toList_inj.1 (flatMap_append_inj (List.cons_ne_nil _ _) chars)

end Federation.Text
