/-
# What is left when an entity is taken out

To take an entity out of a store is to take its records and its ID, wherever the ID is filed, and
nothing else: every index then finds what it found before, in the same order, without that ID.
That is so for a store that is filed. In others an ID might be under a key that the entity is not
known to have.

## Main results

- `Keyed.erase_insert`: what was put under a key makes no difference once the key is taken out.
- `IndexTable.IsMirrored.idsUnder_remove`: what is left under the keys of one table.
- `BackingStore.IsFiled.lookup_remove`, `BackingStore.IsFiled.entitiesFor_remove`: what queries
  find.
-/

import Federation.Proofs.Store.Filing

namespace Federation

open Federation.Metadata Federation.Time

/-! ## Maps -/

namespace Keyed

variable {κ α : Type} [DecidableEq κ]

/-- What was put under a key makes no difference once the key is taken out. -/
theorem erase_insert (m : Keyed κ α) (key : κ) (value : α) :
    (m.insert key value).erase key = m.erase key := by
  have entries : (put key value m.entries).filter (fun entry => entry.1 != key)
      = m.entries.filter fun entry => entry.1 != key := by
    induction m.entries with
    | nil => simp [put]
    | cons head rest ih =>
      obtain ⟨other, v⟩ := head
      by_cases same : other = key
      · simp [put, same]
      · simp [put, same, ih]
  rw [erase, erase, filter, filter]
  congr 1

end Keyed

theorem eraseDups_filter {α : Type} [BEq α] [LawfulBEq α] (l : List α) (keep : α → Bool) :
    (l.filter keep).eraseDups = l.eraseDups.filter keep := by
  induction size : l.length using Nat.strongRecOn generalizing l with
  | _ n ih =>
    cases l with
    | nil => rfl
    | cons a rest =>
      have shorter : (rest.filter fun b => !b == a).length < n := by
        rw [← size]
        exact Nat.lt_succ_of_le (List.length_filter_le _ _)
      have tail := ih _ shorter _ rfl
      rw [List.filter_filter] at tail
      rw [List.eraseDups_cons, List.filter_cons, List.filter_cons, ← tail]
      split
      · rw [List.eraseDups_cons, List.filter_filter]
        simp only [Bool.and_comm]
      -- An item that is not kept does not bring its equals back.
      · rename_i unkept
        congr 1
        refine List.filter_congr fun b _ => ?_
        by_cases same : b = a
        · subst same
          simp [unkept]
        · simp [same]

/-! ## Tables -/

namespace IndexTable

variable {t : IndexTable} {id key under : String} {entries : Keyed String (List String)}

theorem members_dropUnder : (dropUnder id entries key).members under
    = if under = key then (entries.members under).filter (· != id) else entries.members under := by
  rw [dropUnder]
  cases found : entries.get? key with
  | none =>
    by_cases same : under = key
    · rw [if_pos same, same, Keyed.members, found]
      rfl
    · rw [if_neg same]
  | some ids =>
    have held : entries.members key = ids := by rw [Keyed.members, found]; rfl
    dsimp only
    split
    · rename_i none_left
      rw [Keyed.members_erase]
      split
      · rename_i same
        rw [same, held, List.isEmpty_iff.1 none_left]
      · rfl
    · rw [Keyed.members_insert]
      split
      · rename_i same
        rw [same, held]
      · rfl

theorem members_foldl_dropUnder (keys : List String) :
    (keys.foldl (dropUnder id) entries).members under
      = if under ∈ keys then (entries.members under).filter (· != id)
        else entries.members under := by
  induction keys generalizing entries with
  | nil => rfl
  | cons key rest ih =>
    rw [List.foldl_cons, ih, members_dropUnder]
    by_cases here : under = key <;> by_cases later : under ∈ rest <;>
      simp [here, later, List.filter_filter]

/-- Under every key the ID is gone that was taken out, and the others are left as they were. -/
theorem IsMirrored.idsUnder_remove (mirrored : t.IsMirrored) (id key : String) :
    (t.remove id).idsUnder key = (t.idsUnder key).filter (· != id) := by
  have elsewhere (absent : id ∉ t.entries.members key) :
      (t.entries.members key).filter (· != id) = t.entries.members key := by
    refine List.filter_eq_self.2 fun other listed => bne_iff_ne.2 ?_
    rintro rfl
    exact absent listed
  show (t.remove id).entries.members key = (t.entries.members key).filter (· != id)
  rw [IndexTable.remove]
  cases found : t.byEntity.get? id with
  | none =>
    rw [elsewhere]
    rw [mirrored.inverse, Keyed.members, found]
    exact List.not_mem_nil
  | some keys =>
    dsimp only
    rw [members_foldl_dropUnder]
    split
    · rfl
    · rename_i unlisted
      rw [elsewhere]
      rw [mirrored.inverse, Keyed.members, found]
      exact unlisted

/-- A table in which an ID is left out finds what the other finds, without that ID. -/
theorem lookupIn_of_idsUnder {t' : IndexTable} (index : t'.index = t.index)
    (left : ∀ key, t'.idsUnder key = (t.idsUnder key).filter (· != id)) (query : Criteria) :
    IndexTables.lookupIn t' query
      = (IndexTables.lookupIn t query).map (List.filter (· != id)) := by
  rw [IndexTables.lookupIn, IndexTables.lookupIn, index, Option.map_map]
  congr 1
  funext keys
  rw [Function.comp_apply, List.filter_flatMap]
  congr 1
  funext key
  exact left key

end IndexTable

/-! ## Stores -/

namespace BackingStore

variable {s : BackingStore} {id : String}

theorem remove_of_absent (absent : s.find? id = none) : s.remove id = s := by
  have absent : s.records.get? id = none := absent
  rw [remove, absent]

theorem tables_remove_of_found {records : List CacheRecord} (found : s.find? id = some records) :
    (s.remove id).tables = s.tables.remove id := by
  have found : s.records.get? id = some records := found
  rw [remove, found]

/-- An entity without records is under no key. -/
theorem IsFiled.not_mem_members_of_absent (filed : s.IsFiled) (absent : s.find? id = none)
    {t : IndexTable} (member : t ∈ s.tables) (key : String) : id ∉ t.entries.members key := by
  rw [filed.mem_iff t member, Files, recordsOf, absent]
  rintro ⟨record, held, -⟩
  cases held

/-- In every table, of what was under a key all is left but the ID that was taken out. -/
theorem IsFiled.tables_remove (filed : s.IsFiled) (id : String) :
    ∃ f : IndexTable → IndexTable, (s.remove id).tables = s.tables.map f ∧
      ∀ t ∈ s.tables, (f t).index = t.index ∧
        ∀ key, (f t).idsUnder key = (t.idsUnder key).filter (· != id) := by
  cases found : s.find? id with
  | none =>
    refine ⟨fun t => t, by rw [remove_of_absent found, List.map_id'], fun t member => ⟨rfl, ?_⟩⟩
    intro key
    refine (List.filter_eq_self.2 fun other listed => bne_iff_ne.2 ?_).symm
    rintro rfl
    exact filed.not_mem_members_of_absent found member key listed
  | some records =>
    refine ⟨(·.remove id), tables_remove_of_found found, fun t member => ?_⟩
    exact ⟨IndexTable.index_remove, (filed.isMirrored t member).idsUnder_remove id⟩

theorem filterMap_lookupIn {f : IndexTable → IndexTable} {tables : IndexTables}
    (left : ∀ t ∈ tables, (f t).index = t.index ∧
      ∀ key, (f t).idsUnder key = (t.idsUnder key).filter (· != id)) (query : Criteria) :
    (tables.map f).filterMap (IndexTables.lookupIn · query)
      = (tables.filterMap (IndexTables.lookupIn · query)).map (List.filter (· != id)) := by
  induction tables with
  | nil => rfl
  | cons t rest ih =>
    obtain ⟨index, ids⟩ := left t List.mem_cons_self
    have others := ih fun t' listed => left t' (List.mem_cons_of_mem t listed)
    rw [List.map_cons, List.filterMap_cons, List.filterMap_cons, others,
      IndexTable.lookupIn_of_idsUnder index ids]
    cases IndexTables.lookupIn t query <;> rfl

/-- A query finds what it found before, without the entity that was taken out. -/
theorem IsFiled.lookup_remove (filed : s.IsFiled) (id : String) (query : Criteria) :
    (s.remove id).lookup query = (s.lookup query).map (List.filter (· != id)) := by
  obtain ⟨f, tables, left⟩ := filed.tables_remove id
  rw [lookup, lookup, IndexTables.lookup, IndexTables.lookup, tables, filterMap_lookupIn left]
  cases s.tables.filterMap (IndexTables.lookupIn · query) with
  | nil => rfl
  | cons first rest =>
    show some ((first :: rest).map _).flatten.eraseDups
      = some ((first :: rest).flatten.eraseDups.filter _)
    rw [← eraseDups_filter, List.filter_flatten]

/-- So do the indexes of a name. -/
theorem IsFiled.entitiesFor_remove (filed : s.IsFiled) (id name key : String) :
    (s.remove id).tables.entitiesFor name key
      = (s.tables.entitiesFor name key).filter (· != id) := by
  obtain ⟨f, tables, left⟩ := filed.tables_remove id
  rw [IndexTables.entitiesFor, IndexTables.entitiesFor, ← eraseDups_filter, List.filter_flatMap,
    tables]
  congr 1
  generalize s.tables = tables at left
  induction tables with
  | nil => rfl
  | cons t rest ih =>
    obtain ⟨index, ids⟩ := left t List.mem_cons_self
    have others := ih fun t' listed => left t' (List.mem_cons_of_mem t listed)
    rw [List.map_cons, List.filter_cons, List.filter_cons, index]
    split
    · rw [List.flatMap_cons, List.flatMap_cons, others, ids]
    · exact others

/-- Whether records were read before makes no difference once they are taken out. -/
theorem remove_get (s : BackingStore) (id : String) (now : Instant) :
    (s.get id now).2.remove id = s.remove id := by
  rw [get, remove, remove]
  cases found : s.records.get? id with
  | none => rw [found]
  | some records => simp only [Keyed.get?_insert, if_pos, Keyed.erase_insert]

theorem get_of_absent (absent : s.find? id = none) (now : Instant) : (s.get id now).2 = s := by
  have absent : s.records.get? id = none := absent
  rw [get, absent]

end BackingStore

end Federation
