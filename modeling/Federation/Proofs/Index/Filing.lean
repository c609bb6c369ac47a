/-
# Filing

An index table keeps one relation between IDs and keys in two views: the IDs under each key
and the keys of each ID. Filing an ID changes the keys of that ID and of no other, in both
views, and a key that is left without IDs goes. So the views of a table go on telling the
same, however often IDs are filed, filed anew and taken out.
-/

import Federation.Index.Table
import Mathlib.Tactic.Tauto

namespace Federation

open Federation.Metadata

/-! ## Maps into sets -/

namespace Keyed

variable {κ α : Type} [DecidableEq κ] {m : Keyed κ (List α)} {key other : κ} {values : List α}

/-- The members of the set under a key. A key that is not there has none. -/
def members (m : Keyed κ (List α)) (key : κ) : List α := (m.get? key).getD []

/-- Every key has members, and each of them once. -/
def IsProper (m : Keyed κ (List α)) : Prop :=
  ∀ key values, m.get? key = some values → values ≠ [] ∧ values.Nodup

@[simp]
theorem members_empty : (empty : Keyed κ (List α)).members key = [] := rfl

theorem members_insert :
    (m.insert key values).members other = if other = key then values else m.members other := by
  rw [Keyed.members, get?_insert]
  split <;> rfl

theorem members_erase :
    (m.erase key).members other = if other = key then [] else m.members other := by
  rw [Keyed.members, get?_erase]
  split <;> rfl

theorem isProper_empty : (empty : Keyed κ (List α)).IsProper := by
  intro key values found
  simp at found

theorem IsProper.nodup_members (proper : m.IsProper) (key : κ) : (m.members key).Nodup := by
  rw [Keyed.members]
  cases found : m.get? key with
  | none => exact List.nodup_nil
  | some values => exact (proper key values found).2

/-- A key without members is not there. -/
theorem IsProper.get?_eq_none_iff (proper : m.IsProper) : m.get? key = none ↔ m.members key = [] := by
  rw [Keyed.members]
  cases found : m.get? key with
  | none => simp
  | some values => simp [(proper key values found).1]

theorem IsProper.insert (proper : m.IsProper) (key : κ) (filled : values ≠ [])
    (distinct : values.Nodup) : (m.insert key values).IsProper := by
  intro other others found
  rw [get?_insert] at found
  split at found
  · obtain rfl := Option.some_inj.1 found
    exact ⟨filled, distinct⟩
  · exact proper other others found

theorem IsProper.erase (proper : m.IsProper) (key : κ) : (m.erase key).IsProper := by
  intro other others found
  rw [get?_erase] at found
  split at found
  · simp at found
  · exact proper other others found

end Keyed

theorem nodup_eraseDups {α : Type} [BEq α] [LawfulBEq α] (l : List α) : l.eraseDups.Nodup := by
  induction size : l.length using Nat.strongRecOn generalizing l with
  | _ n ih =>
    cases l with
    | nil => simp
    | cons a rest =>
      have shorter : (rest.filter fun b => !b == a).length < n := by
        rw [← size]
        exact Nat.lt_succ_of_le (List.length_filter_le _ _)
      rw [List.eraseDups_cons, List.nodup_cons]
      exact ⟨by simp, ih _ shorter _ rfl⟩

namespace IndexTable

variable {entries : Keyed String (List String)} {id other key : String}

/-! ## One ID and one key -/

/-- Taking an ID away from a key takes away that one association. -/
theorem mem_members_dropUnder {under : String} :
    other ∈ (dropUnder id entries key).members under
      ↔ other ∈ entries.members under ∧ ¬ (other = id ∧ under = key) := by
  rw [dropUnder]
  cases found : entries.get? key with
  | none =>
    by_cases here : under = key
    · simp [Keyed.members, here, found]
    · simp [here]
  | some ids =>
    -- A key that is left without IDs goes as a whole, which is to have no members left.
    have left_iff : other ∈ ids.filter (· != id) ↔ other ∈ ids ∧ other ≠ id := by
      simp [List.mem_filter]
    by_cases here : under = key
    · subst here
      have held : entries.members under = ids := by rw [Keyed.members, found]; rfl
      simp only [held, and_true, ← left_iff]
      split
      · rename_i none_left
        rw [Keyed.members_erase, if_pos rfl, List.isEmpty_iff.1 none_left]
      · rw [Keyed.members_insert, if_pos rfl]
    · simp only [here, and_false, not_false_eq_true, and_true]
      split
      · rw [Keyed.members_erase, if_neg here]
      · rw [Keyed.members_insert, if_neg here]

theorem isProper_dropUnder (proper : entries.IsProper) (id key : String) :
    (dropUnder id entries key).IsProper := by
  rw [dropUnder]
  cases found : entries.get? key with
  | none => exact proper
  | some ids =>
    simp only
    split
    · exact proper.erase key
    · rename_i some_left
      exact proper.insert key (fun h => some_left (List.isEmpty_iff.2 h))
        ((proper key ids found).2.filter _)

/-- Adding an ID to a key adds that one association. -/
theorem mem_members_addUnder {under : String} :
    other ∈ (addUnder id entries key).members under
      ↔ other ∈ entries.members under ∨ (other = id ∧ under = key) := by
  rw [addUnder, Keyed.members_insert]
  by_cases here : under = key
  · subst here
    rw [if_pos rfl, ← Keyed.members]
    split
    · rename_i listed
      -- An ID that is listed already is not listed twice.
      have listed : id ∈ entries.members under := by simpa using listed
      constructor
      · exact Or.inl
      · rintro (h | ⟨rfl, -⟩)
        · exact h
        · exact listed
    · simp
  · simp [here]

/-- An ID that is added to others is not listed twice. -/
theorem nodup_adjoin {ids : List String} (distinct : ids.Nodup) :
    (if ids.contains id then ids else ids ++ [id]).Nodup := by
  split
  · exact distinct
  · rename_i absent
    have absent : id ∉ ids := by simpa using absent
    refine List.nodup_append.2 ⟨distinct, by simp, ?_⟩
    intro a ha b hb
    rw [List.mem_singleton.1 hb]
    exact fun same => absent (same ▸ ha)

theorem isProper_addUnder (proper : entries.IsProper) (id key : String) :
    (addUnder id entries key).IsProper := by
  refine proper.insert key ?_ (nodup_adjoin (proper.nodup_members key))
  split
  · rename_i listed
    exact List.ne_nil_of_mem (List.contains_iff_mem.1 listed)
  · simp

/-! ## One ID and many keys -/

theorem mem_members_foldl_dropUnder (keys : List String) (entries : Keyed String (List String))
    {under : String} :
    other ∈ (keys.foldl (dropUnder id) entries).members under
      ↔ other ∈ entries.members under ∧ ¬ (other = id ∧ under ∈ keys) := by
  induction keys generalizing entries with
  | nil => simp
  | cons key rest ih =>
    rw [List.foldl_cons, ih, mem_members_dropUnder, List.mem_cons]
    tauto

theorem isProper_foldl_dropUnder (keys : List String) (proper : entries.IsProper) :
    (keys.foldl (dropUnder id) entries).IsProper := by
  induction keys generalizing entries with
  | nil => exact proper
  | cons key rest ih => exact ih (isProper_dropUnder proper id key)

theorem mem_members_foldl_addUnder (keys : List String) (entries : Keyed String (List String))
    {under : String} :
    other ∈ (keys.foldl (addUnder id) entries).members under
      ↔ other ∈ entries.members under ∨ (other = id ∧ under ∈ keys) := by
  induction keys generalizing entries with
  | nil => simp
  | cons key rest ih =>
    rw [List.foldl_cons, ih, mem_members_addUnder, List.mem_cons]
    tauto

theorem isProper_foldl_addUnder (keys : List String) (proper : entries.IsProper) :
    (keys.foldl (addUnder id) entries).IsProper := by
  induction keys generalizing entries with
  | nil => exact proper
  | cons key rest ih => exact ih (isProper_addUnder proper id key)

/-! ## Tables -/

/-- Both views of a table tell the same, and neither keeps an empty set. -/
structure IsMirrored (t : IndexTable) : Prop where
  inverse : ∀ id key, id ∈ t.entries.members key ↔ key ∈ t.byEntity.members id
  entries_isProper : t.entries.IsProper
  byEntity_isProper : t.byEntity.IsProper

variable {t : IndexTable}

theorem isMirrored_empty (index : EntityIndex) : (IndexTable.empty index).IsMirrored where
  inverse _ _ := by simp [IndexTable.empty]
  entries_isProper := Keyed.isProper_empty
  byEntity_isProper := Keyed.isProper_empty

@[simp]
theorem index_remove : (t.remove id).index = t.index := by
  rw [remove]
  split <;> rfl

@[simp]
theorem index_refile {descriptions : List Entity} : (t.refile id descriptions).index = t.index := by
  rw [refile, add]
  split
  · exact index_remove
  · exact index_remove

/-- An ID that is taken out is under no key, and no other ID is touched. -/
theorem IsMirrored.mem_members_remove (mirrored : t.IsMirrored) :
    other ∈ (t.remove id).entries.members key ↔ other ≠ id ∧ other ∈ t.entries.members key := by
  rw [remove]
  cases found : t.byEntity.get? id with
  | none =>
    -- What has no keys in one view is under no key in the other: there is nothing to take out.
    have none_under : id ∉ t.entries.members key := by
      rw [mirrored.inverse, Keyed.members, found]
      simp
    constructor
    · exact fun h => ⟨fun same => none_under (same ▸ h), h⟩
    · exact And.right
  | some keys =>
    -- The keys that are gone through are all keys of the ID, since the views tell the same.
    have listed : id ∈ t.entries.members key → key ∈ keys := by
      rw [mirrored.inverse, Keyed.members, found]
      exact fun h => h
    simp only [mem_members_foldl_dropUnder]
    constructor
    · rintro ⟨h, kept⟩
      exact ⟨fun same => kept ⟨same, listed (same ▸ h)⟩, h⟩
    · rintro ⟨different, h⟩
      exact ⟨h, fun same => different same.1⟩

theorem members_byEntity_remove :
    (t.remove id).byEntity.members other = if other = id then [] else t.byEntity.members other := by
  rw [remove]
  cases found : t.byEntity.get? id with
  | none =>
    by_cases same : other = id
    · rw [if_pos same, same, Keyed.members, found]
      rfl
    · rw [if_neg same]
  | some keys => exact Keyed.members_erase

theorem IsMirrored.remove (mirrored : t.IsMirrored) (id : String) : (t.remove id).IsMirrored where
  inverse other key := by
    rw [mirrored.mem_members_remove, members_byEntity_remove, mirrored.inverse]
    by_cases same : other = id <;> simp [same]
  entries_isProper := by
    rw [IndexTable.remove]
    split
    · exact mirrored.entries_isProper
    · exact isProper_foldl_dropUnder _ mirrored.entries_isProper
  byEntity_isProper := by
    rw [IndexTable.remove]
    split
    · exact mirrored.byEntity_isProper
    · exact mirrored.byEntity_isProper.erase id

/-- An ID that is filed is under the keys of its descriptions and under no others, and no
other ID is touched. -/
theorem IsMirrored.mem_members_refile (mirrored : t.IsMirrored) {descriptions : List Entity} :
    other ∈ (t.refile id descriptions).entries.members key
      ↔ if other = id then ∃ e ∈ descriptions, key ∈ t.index.entityKeys e
        else other ∈ t.entries.members key := by
  have keys_iff : key ∈ (descriptions.flatMap t.index.entityKeys).eraseDups
      ↔ ∃ e ∈ descriptions, key ∈ t.index.entityKeys e := by
    rw [List.mem_eraseDups, List.mem_flatMap]
  rw [refile, add]
  split
  · rename_i without
    -- Descriptions without keys leave the ID taken out, which is all that is asked.
    have no_key : key ∉ (descriptions.flatMap t.index.entityKeys).eraseDups := by
      rw [List.isEmpty_iff.1 without]
      simp
    rw [mirrored.mem_members_remove, ← keys_iff]
    by_cases same : other = id <;> simp [same, no_key]
  · simp only [mem_members_foldl_addUnder, mirrored.mem_members_remove, keys_iff]
    by_cases same : other = id <;> simp [same]

theorem members_byEntity_refile {descriptions : List Entity} :
    (t.refile id descriptions).byEntity.members other
      = if other = id then (descriptions.flatMap t.index.entityKeys).eraseDups
        else t.byEntity.members other := by
  rw [refile, add]
  split
  · rename_i without
    rw [members_byEntity_remove, List.isEmpty_iff.1 without]
  · simp only [Keyed.members_insert, members_byEntity_remove]
    split <;> rfl

theorem IsMirrored.refile (mirrored : t.IsMirrored) (id : String) (descriptions : List Entity) :
    (t.refile id descriptions).IsMirrored where
  inverse other key := by
    rw [mirrored.mem_members_refile, members_byEntity_refile, mirrored.inverse]
    by_cases same : other = id
    · rw [if_pos same, if_pos same, List.mem_eraseDups, List.mem_flatMap]
    · rw [if_neg same, if_neg same]
  entries_isProper := by
    rw [IndexTable.refile, add]
    split
    · exact (mirrored.remove id).entries_isProper
    · exact isProper_foldl_addUnder _ (mirrored.remove id).entries_isProper
  byEntity_isProper := by
    rw [IndexTable.refile, add]
    split
    · exact (mirrored.remove id).byEntity_isProper
    · rename_i some_keys
      exact (mirrored.remove id).byEntity_isProper.insert id
        (fun h => some_keys (List.isEmpty_iff.2 h)) (nodup_eraseDups _)

end IndexTable

end Federation
