/-
# Conditions on records

What is true of every record of a store, given its ID, stays true when records are taken out,
and when records are put in of which it is true as well. The same goes for a store that lists
no entity without a record: after any calls of a store, an entity is in it exactly when it has
records. Reading and extending bring no entity in and take none out.
-/

import Federation.Proofs.Store.Filing

namespace Federation.BackingStore

open Federation.Time

/-- Every record satisfies a condition, together with the ID under which it is filed. -/
def Satisfies (s : BackingStore) (P : String → CacheRecord → Prop) : Prop :=
  ∀ id, ∀ record ∈ s.recordsOf id, P id record

/-- No entity is listed without a record. -/
def IsInhabited (s : BackingStore) : Prop := ∀ id, s.find? id ≠ some []

variable {s : BackingStore} {P : String → CacheRecord → Prop} {id : String}
  {records : List CacheRecord} {now : Instant} {idleLimit : Option Span}

theorem recordsOf_eq_of_find? (found : s.find? id = some records) : s.recordsOf id = records := by
  rw [recordsOf, found]
  rfl

/-- Evicting takes out of the records of one entity those that are due. -/
theorem recordsOf_evict {other : String} :
    (s.evict now idleLimit id).2.recordsOf other
      = if other = id then (s.recordsOf id).filter fun record => !record.isDue now idleLimit
        else s.recordsOf other := by
  rw [BackingStore.evict]
  cases found : s.records.get? id with
  | none =>
    have held : s.recordsOf id = [] := by
      rw [recordsOf, find?, found]
      rfl
    by_cases same : other = id <;> simp [same, held]
  | some records =>
    have held : s.recordsOf id = records := recordsOf_eq_of_find? found
    dsimp only
    split
    · rename_i all_left
      -- Nothing is due, so the records that are left are all of them.
      have same_records : (records.filter fun record => !record.isDue now idleLimit) = records :=
        List.filter_sublist.eq_of_length all_left
      by_cases same : other = id <;> simp [same, held, same_records]
    · rw [recordsOf_insert, held]

/-! ## Conditions -/

theorem satisfies_empty (indexes : List EntityIndex) : (empty indexes).Satisfies P := by
  intro id record listed
  cases listed

theorem Satisfies.insert (all : s.Satisfies P) (new : ∀ record ∈ records, P id record) :
    (s.insert id records).Satisfies P := by
  intro other record listed
  rw [recordsOf_insert] at listed
  split at listed
  · rename_i same
    rw [same]
    exact new record listed
  · exact all other record listed

theorem Satisfies.remove (all : s.Satisfies P) : (s.remove id).Satisfies P := by
  intro other record listed
  rw [recordsOf_remove] at listed
  split at listed
  · cases listed
  · exact all other record listed

theorem Satisfies.get (all : s.Satisfies P)
    (touched : ∀ record, P id record → P id (record.touch now)) :
    (s.get id now).2.Satisfies P := by
  intro other record listed
  rw [recordsOf_get] at listed
  split at listed
  · rename_i same
    obtain ⟨old, old_listed, rfl⟩ := List.mem_map.1 listed
    rw [same]
    exact touched old (all id old old_listed)
  · exact all other record listed

theorem Satisfies.extendExpiration {until_ : Instant} (all : s.Satisfies P)
    (extended : ∀ record, P id record → P id (record.extend until_)) :
    (s.extendExpiration id until_).2.Satisfies P := by
  intro other record listed
  rw [recordsOf_extendExpiration] at listed
  split at listed
  · rename_i same
    obtain ⟨old, old_listed, rfl⟩ := List.mem_map.1 listed
    rw [same]
    exact extended old (all id old old_listed)
  · exact all other record listed

theorem Satisfies.evict (all : s.Satisfies P) : (s.evict now idleLimit id).2.Satisfies P := by
  rw [BackingStore.evict]
  cases found : s.records.get? id with
  | none => exact all
  | some records =>
    have held := recordsOf_eq_of_find? (s := s) found
    dsimp only
    split
    · exact all
    · refine all.insert fun record left => all id record ?_
      rw [held]
      exact (List.mem_filter.1 left).1

theorem Satisfies.cleanup (all : s.Satisfies P) : (s.cleanup now idleLimit).2.Satisfies P :=
  cleanup_induction (P := fun t => t.Satisfies P) (fun _ _ all => all.evict) all

theorem Satisfies.clear (all : s.Satisfies P) : s.clear.Satisfies P :=
  clear_induction (P := fun t => t.Satisfies P) (fun _ _ all => all.remove) all

/-! ## Entities without records -/

theorem isInhabited_empty (indexes : List EntityIndex) : (empty indexes).IsInhabited :=
  fun id => by simp

theorem IsInhabited.remove (inhabited : s.IsInhabited) : (s.remove id).IsInhabited := by
  intro other
  rw [find?_remove]
  split
  · simp
  · exact inhabited other

theorem IsInhabited.insert (inhabited : s.IsInhabited) : (s.insert id records).IsInhabited := by
  intro other
  rw [find?_insert]
  split
  · cases records <;> simp
  · exact inhabited other

theorem IsInhabited.get (inhabited : s.IsInhabited) : (s.get id now).2.IsInhabited := by
  intro other
  rw [find?_get]
  split
  · have some_left := inhabited id
    cases found : s.find? id with
    | none => simp
    | some records => simpa [found] using some_left
  · exact inhabited other

theorem IsInhabited.extendExpiration {until_ : Instant} (inhabited : s.IsInhabited) :
    (s.extendExpiration id until_).2.IsInhabited := by
  intro other
  rw [find?_extendExpiration]
  split
  · have some_left := inhabited id
    cases found : s.find? id with
    | none => simp
    | some records => simpa [found] using some_left
  · exact inhabited other

theorem IsInhabited.evict (inhabited : s.IsInhabited) :
    (s.evict now idleLimit id).2.IsInhabited := by
  rw [BackingStore.evict]
  split
  · exact inhabited
  · dsimp only
    split
    · exact inhabited
    · exact inhabited.insert

theorem IsInhabited.cleanup (inhabited : s.IsInhabited) :
    (s.cleanup now idleLimit).2.IsInhabited :=
  cleanup_induction (P := IsInhabited) (fun _ _ inhabited => inhabited.evict) inhabited

theorem IsInhabited.apply (inhabited : s.IsInhabited) (call : StoreCall) :
    (call.apply s).IsInhabited := by
  cases call with
  | insert id records => exact inhabited.insert
  | get id now => exact inhabited.get
  | extend id until_ => exact inhabited.extendExpiration
  | remove id => exact inhabited.remove
  | cleanup now idleLimit => exact inhabited.cleanup
  | clear => exact clear_induction (P := IsInhabited) (fun _ _ inhabited => inhabited.remove) inhabited

theorem isInhabited_after (indexes : List EntityIndex) (calls : List StoreCall) :
    (after indexes calls).IsInhabited := by
  rw [after]
  have start := isInhabited_empty indexes
  generalize empty indexes = s at start
  induction calls generalizing s with
  | nil => exact start
  | cons call rest ih => exact ih _ (start.apply call)

/-- An entity is in the store exactly when it has records. -/
theorem IsInhabited.contains_iff (inhabited : s.IsInhabited) :
    s.contains id = true ↔ s.recordsOf id ≠ [] := by
  have some_held := inhabited id
  rw [contains, Keyed.contains, recordsOf]
  rw [find?] at some_held ⊢
  cases found : s.records.get? id with
  | none => simp
  | some records => simpa [found] using some_held

/-! ## Entities that are not in the store -/

theorem find?_evict_of_absent {other : String} (absent : s.find? other = none) :
    (s.evict now idleLimit id).2.find? other = none := by
  rw [BackingStore.evict]
  cases found : s.records.get? id with
  | none => exact absent
  | some records =>
    dsimp only
    split
    · exact absent
    · rw [find?_insert]
      split
      · rename_i same
        rw [same] at absent
        cases found.symm.trans absent
      · exact absent

/-- Cleaning up brings no entity into the store. -/
theorem find?_cleanup_of_absent (absent : s.find? id = none) :
    (s.cleanup now idleLimit).2.find? id = none :=
  cleanup_induction (P := fun t => t.find? id = none) (fun _ _ => find?_evict_of_absent) absent

/-! ## The number of entities -/

theorem size_records_insert {id : String} {old new : List CacheRecord}
    (found : s.records.get? id = some old) : (s.records.insert id new).size = s.records.size := by
  have listed : id ∈ s.records.entries.map (·.1) := by
    apply Classical.byContradiction
    intro absent
    rw [Keyed.get?_eq_none_of_not_mem absent] at found
    cases found
  have same_keys := Keyed.map_fst_put id new s.records.entries
  rw [if_pos listed] at same_keys
  simpa [Keyed.size, Keyed.insert] using congrArg List.length same_keys

/-- Reading brings no entity in and takes none out. -/
theorem size_get (s : BackingStore) (id : String) (now : Instant) :
    (s.get id now).2.size = s.size := by
  rw [BackingStore.get]
  cases found : s.records.get? id with
  | none => rfl
  | some records => exact size_records_insert found

/-- Neither does extending. -/
theorem size_extendExpiration (s : BackingStore) (id : String) (until_ : Instant) :
    (s.extendExpiration id until_).2.size = s.size := by
  rw [BackingStore.extendExpiration]
  cases found : s.records.get? id with
  | none => rfl
  | some records => exact size_records_insert found

end Federation.BackingStore
