/-
# What the indexes find

A backing store files an entity anew in every index whenever its descriptions change. Reading
and extending leave the descriptions as they are, and evicting some of the records of an
entity files it under the keys of those that are left. So whatever was done to a store, each
index holds what can be computed from the records, and a query through the indexes finds
exactly the entities of which a record meets it.

## Main results

- `IsFiled.apply`: what one call of the store preserves.
- `indexes_follow_records`: what the tables hold, and what a query finds, after any calls.
-/

import Federation.Proofs.Index.Filing
import Federation.Store.Backing

namespace Federation

open Federation.Metadata Federation.Time

/-- A call of a backing store. -/
inductive StoreCall where
  | insert (id : String) (records : List CacheRecord)
  | get (id : String) (now : Instant)
  | extend (id : String) (until_ : Instant)
  | remove (id : String)
  | cleanup (now : Instant) (idleLimit : Option Span)
  | clear

/-- The store after a call. -/
def StoreCall.apply (s : BackingStore) : StoreCall → BackingStore
  | insert id records => s.insert id records
  | get id now => (s.get id now).2
  | extend id until_ => (s.extendExpiration id until_).2
  | remove id => s.remove id
  | cleanup now idleLimit => (s.cleanup now idleLimit).2
  | clear => s.clear

namespace BackingStore

/-- The records of an entity. An entity that is not in the store has none. -/
def recordsOf (s : BackingStore) (id : String) : List CacheRecord := (s.find? id).getD []

/-- The descriptions that are held of an entity. -/
def descriptionsOf (s : BackingStore) (id : String) : List Entity :=
  (s.recordsOf id).map (·.entity)

/-- A store after calls, one after another. -/
def after (indexes : List EntityIndex) (calls : List StoreCall) : BackingStore :=
  calls.foldl StoreCall.apply (.empty indexes)

/-- Does an entity have a record that an index files under a key? -/
def Files (s : BackingStore) (index : EntityIndex) (id key : String) : Prop :=
  ∃ r ∈ s.recordsOf id, key ∈ index.entityKeys r.entity

/-- Every table tells the same in both its views, namely what the records say. -/
structure IsFiled (s : BackingStore) : Prop where
  isMirrored : ∀ t ∈ s.tables, t.IsMirrored
  mem_iff : ∀ t ∈ s.tables, ∀ id key, id ∈ t.entries.members key ↔ s.Files t.index id key

variable {s : BackingStore} {id other : String} {records : List CacheRecord}

/-! ## Records after an operation -/

@[simp]
theorem find?_empty (indexes : List EntityIndex) : (empty indexes).find? id = none := rfl

theorem recordsOf_remove :
    (s.remove id).recordsOf other = if other = id then [] else s.recordsOf other := by
  rw [recordsOf, find?_remove]
  split <;> rfl

theorem recordsOf_insert :
    (s.insert id records).recordsOf other = if other = id then records else s.recordsOf other := by
  rw [recordsOf, find?_insert]
  split
  · cases records <;> rfl
  · rfl

theorem recordsOf_get {now : Instant} :
    (s.get id now).2.recordsOf other
      = if other = id then (s.recordsOf id).map (.touch now) else s.recordsOf other := by
  rw [recordsOf, find?_get]
  split
  · rw [recordsOf]
    cases s.find? id <;> rfl
  · rfl

theorem recordsOf_extendExpiration {until_ : Instant} :
    (s.extendExpiration id until_).2.recordsOf other
      = if other = id then (s.recordsOf id).map (.extend until_) else s.recordsOf other := by
  rw [recordsOf, find?_extendExpiration]
  split
  · rw [recordsOf]
    cases s.find? id <;> rfl
  · rfl

/-- Touching and extending leave descriptions as they are. -/
theorem files_congr {s' : BackingStore}
    (same : ∀ id, (s'.recordsOf id).map (·.entity) = (s.recordsOf id).map (·.entity))
    (index : EntityIndex) (id key : String) : s'.Files index id key ↔ s.Files index id key := by
  have through (s : BackingStore) :
      s.Files index id key ↔ ∃ e ∈ (s.recordsOf id).map (·.entity), key ∈ index.entityKeys e := by
    simp [Files]
  rw [through, through, same]

/-! ## Steps -/

theorem isFiled_empty (indexes : List EntityIndex) : (empty indexes).IsFiled where
  isMirrored t member := by
    obtain ⟨index, -, rfl⟩ := List.mem_map.1 member
    exact IndexTable.isMirrored_empty index
  mem_iff t member id key := by
    obtain ⟨index, -, rfl⟩ := List.mem_map.1 member
    simp [Files, recordsOf, IndexTable.empty]

/-- A step that changes neither tables nor descriptions. -/
theorem IsFiled.congr {s' : BackingStore} (filed : s.IsFiled) (tables : s'.tables = s.tables)
    (same : ∀ id, (s'.recordsOf id).map (·.entity) = (s.recordsOf id).map (·.entity)) :
    s'.IsFiled where
  isMirrored t member := filed.isMirrored t (tables ▸ member)
  mem_iff t member id key := by
    rw [files_congr same]
    exact filed.mem_iff t (tables ▸ member) id key

theorem IsFiled.remove (filed : s.IsFiled) (id : String) : (s.remove id).IsFiled := by
  cases found : s.records.get? id with
  | none =>
    rw [BackingStore.remove, found]
    exact filed
  | some records =>
    -- An entity that is there is taken out of every table.
    have tables : (s.remove id).tables = s.tables.remove id := by
      rw [BackingStore.remove, found]
    constructor
    · intro t member
      rw [tables] at member
      obtain ⟨t, listed, rfl⟩ := List.mem_map.1 member
      exact (filed.isMirrored t listed).remove id
    · intro t member other key
      rw [tables] at member
      obtain ⟨t, listed, rfl⟩ := List.mem_map.1 member
      rw [(filed.isMirrored t listed).mem_members_remove, filed.mem_iff t listed,
        IndexTable.index_remove, Files, Files, recordsOf_remove]
      by_cases same : other = id <;> simp [same]

theorem IsFiled.insert (filed : s.IsFiled) (id : String) (records : List CacheRecord) :
    (s.insert id records).IsFiled := by
  cases none_given : records.isEmpty with
  | true =>
    -- To insert no records is to remove the entity.
    rw [BackingStore.insert, none_given]
    exact filed.remove id
  | false =>
    have tables : (s.insert id records).tables = s.tables.refile id (records.map (·.entity)) := by
      rw [BackingStore.insert, none_given]
      rfl
    constructor
    · intro t member
      rw [tables] at member
      obtain ⟨t, listed, rfl⟩ := List.mem_map.1 member
      exact (filed.isMirrored t listed).refile id _
    · intro t member other key
      rw [tables] at member
      obtain ⟨t, listed, rfl⟩ := List.mem_map.1 member
      rw [(filed.isMirrored t listed).mem_members_refile, filed.mem_iff t listed,
        IndexTable.index_refile, Files, Files, recordsOf_insert]
      by_cases same : other = id <;> simp [same]

theorem IsFiled.get (filed : s.IsFiled) (id : String) (now : Instant) :
    (s.get id now).2.IsFiled := by
  apply filed.congr
  · rw [BackingStore.get]
    split <;> rfl
  · intro other
    rw [recordsOf_get]
    split
    · rename_i same
      simp [same, CacheRecord.touch]
    · rfl

theorem IsFiled.extendExpiration (filed : s.IsFiled) (id : String) (until_ : Instant) :
    (s.extendExpiration id until_).2.IsFiled := by
  apply filed.congr
  · rw [BackingStore.extendExpiration]
    split <;> rfl
  · intro other
    rw [recordsOf_extendExpiration]
    split
    · rename_i same
      simp [same, CacheRecord.extend]
    · rfl

theorem IsFiled.evict (filed : s.IsFiled) (now : Instant) (idleLimit : Option Span) (id : String) :
    (s.evict now idleLimit id).2.IsFiled := by
  rw [BackingStore.evict]
  split
  · exact filed
  · dsimp only
    split
    · exact filed
    · exact filed.insert id _

/-- What evicting from one entity preserves is preserved by a cleanup. -/
theorem cleanup_induction {P : BackingStore → Prop} {now : Instant} {idleLimit : Option Span}
    (step : ∀ s id, P s → P (s.evict now idleLimit id).2) (start : P s) :
    P (s.cleanup now idleLimit).2 := by
  rw [cleanup]
  -- The IDs are those before the cleanup. The count of evicted records is carried along and
  -- plays no part, so the induction is on the IDs for any store and any count.
  generalize s.records.keys = ids
  generalize (0 : Nat) = evicted
  induction ids generalizing s evicted with
  | nil => exact start
  | cons id rest ih => exact ih (step s id start) _

/-- What taking out one entity preserves is preserved by clearing. -/
theorem clear_induction {P : BackingStore → Prop} (step : ∀ s id, P s → P (s.remove id))
    (start : P s) : P s.clear := by
  rw [clear]
  generalize s.records.keys = ids
  induction ids generalizing s with
  | nil => exact start
  | cons id rest ih => exact ih (step s id start)

/-- Every call of a store keeps the tables in step with the records. -/
theorem IsFiled.apply (filed : s.IsFiled) (call : StoreCall) : (call.apply s).IsFiled := by
  cases call with
  | insert id records => exact filed.insert id records
  | get id now => exact filed.get id now
  | extend id until_ => exact filed.extendExpiration id until_
  | remove id => exact filed.remove id
  | cleanup now idleLimit =>
    exact cleanup_induction (fun s id filed => filed.evict now idleLimit id) filed
  | clear => exact clear_induction (fun s id filed => filed.remove id) filed

/-! ## The indexes of a store

No call changes which indexes there are. -/

/-- The indexes by which a store files, in the order of its tables. -/
def indexes (s : BackingStore) : List EntityIndex := s.tables.map (·.index)

theorem indexes_remove : (s.remove id).indexes = s.indexes := by
  rw [remove]
  split
  · rfl
  · simp [indexes, IndexTables.remove]

theorem indexes_insert : (s.insert id records).indexes = s.indexes := by
  rw [insert]
  split
  · exact indexes_remove
  · simp [indexes, IndexTables.refile]

theorem indexes_evict {now : Instant} {idleLimit : Option Span} :
    (s.evict now idleLimit id).2.indexes = s.indexes := by
  rw [evict]
  split
  · rfl
  · dsimp only
    split
    · rfl
    · exact indexes_insert

theorem indexes_apply (call : StoreCall) : (call.apply s).indexes = s.indexes := by
  cases call with
  | insert id records => exact indexes_insert
  | get id now =>
    rw [StoreCall.apply, get]
    split <;> rfl
  | extend id until_ =>
    rw [StoreCall.apply, extendExpiration]
    split <;> rfl
  | remove id => exact indexes_remove
  | cleanup now idleLimit =>
    exact cleanup_induction (P := fun t => t.indexes = s.indexes)
      (fun t id same => indexes_evict.trans same) rfl
  | clear =>
    exact clear_induction (P := fun t => t.indexes = s.indexes)
      (fun t id same => indexes_remove.trans same) rfl

/-! ## Runs -/

theorem isFiled_after (indexes : List EntityIndex) (calls : List StoreCall) :
    (after indexes calls).IsFiled := by
  rw [after]
  -- By induction on the calls, from any store that is filed.
  have start := isFiled_empty indexes
  generalize empty indexes = s at start
  induction calls generalizing s with
  | nil => exact start
  | cons call rest ih => exact ih _ (start.apply call)

theorem indexes_after (indexes : List EntityIndex) (calls : List StoreCall) :
    (after indexes calls).indexes = indexes := by
  rw [after]
  have start : (empty indexes).indexes = indexes := by
    rw [BackingStore.indexes, empty, IndexTables.ofIndexes, List.map_map]
    exact List.map_id indexes
  generalize empty indexes = s at start
  induction calls generalizing s with
  | nil => exact start
  | cons call rest ih => exact ih _ ((indexes_apply call).trans start)

/-! ## Queries -/

/-- A query finds nothing at all exactly when no index understands it. -/
theorem lookup_eq_none_iff (query : Criteria) :
    s.lookup query = none ↔ ∀ index ∈ s.indexes, index.queryKeys query = none := by
  have none_found : s.lookup query = none
      ↔ s.tables.filterMap (IndexTables.lookupIn · query) = [] := by
    rw [lookup, IndexTables.lookup]
    cases s.tables.filterMap (IndexTables.lookupIn · query) <;> simp
  rw [none_found, List.filterMap_eq_nil_iff]
  simp [IndexTables.lookupIn, indexes]

/-- A query that some index understands finds every entity that is filed under one of the keys
it asks for, and finds it once. -/
theorem IsFiled.mem_lookup (filed : s.IsFiled) {query : Criteria} {ids : List String}
    (found : s.lookup query = some ids) (id : String) :
    id ∈ ids ↔ ∃ index ∈ s.indexes, ∃ keys, index.queryKeys query = some keys ∧
      ∃ key ∈ keys, s.Files index id key := by
  have flattened : ids = (s.tables.filterMap (IndexTables.lookupIn · query)).flatten.eraseDups := by
    rw [lookup, IndexTables.lookup] at found
    -- No hit at all would have been no answer.
    cases hits : s.tables.filterMap (IndexTables.lookupIn · query) with
    | nil => simp [hits] at found
    | cons first rest =>
      rw [hits] at found
      exact (Option.some_inj.1 found).symm
  rw [flattened, List.mem_eraseDups, List.mem_flatten]
  constructor
  · rintro ⟨hits, hits_mem, hit⟩
    obtain ⟨t, member, hits_eq⟩ := List.mem_filterMap.1 hits_mem
    obtain ⟨keys, asked, rfl⟩ := Option.map_eq_some_iff.1 hits_eq
    obtain ⟨key, key_mem, under⟩ := List.mem_flatMap.1 hit
    exact ⟨t.index, List.mem_map.2 ⟨t, member, rfl⟩, keys, asked, key, key_mem,
      (filed.mem_iff t member id key).1 under⟩
  · rintro ⟨index, index_mem, keys, asked, key, key_mem, files⟩
    obtain ⟨t, member, rfl⟩ := List.mem_map.1 index_mem
    refine ⟨keys.flatMap t.idsUnder, List.mem_filterMap.2 ⟨t, member, ?_⟩,
      List.mem_flatMap.2 ⟨key, key_mem, (filed.mem_iff t member id key).2 files⟩⟩
    rw [IndexTables.lookupIn, asked]
    rfl

theorem nodup_lookup {query : Criteria} {ids : List String} (found : s.lookup query = some ids) :
    ids.Nodup := by
  rw [lookup, IndexTables.lookup] at found
  split at found
  · simp at found
  · rw [← Option.some_inj.1 found]
    exact nodup_eraseDups _

/-- **The indexes follow the records.** After any calls of a store, in any order: every table
files an ID under a key exactly when a record of that ID has the key, it keeps no key without
IDs and no ID without keys, and its two views are each other's inverse. So a query finds
nothing at all exactly when no index understands it, and otherwise exactly the IDs of which a
record has one of the keys that some index is asked for, each once. -/
theorem indexes_follow_records (indexes : List EntityIndex) (calls : List StoreCall) :
    (after indexes calls).tables.map (·.index) = indexes ∧
    (∀ t ∈ (after indexes calls).tables,
      (∀ id key, id ∈ t.entries.members key ↔
        ∃ r ∈ (after indexes calls).recordsOf id, key ∈ t.index.entityKeys r.entity) ∧
      (∀ id key, key ∈ t.byEntity.members id ↔ id ∈ t.entries.members key) ∧
      (∀ key ids, t.entries.get? key = some ids → ids ≠ [] ∧ ids.Nodup) ∧
      (∀ id keys, t.byEntity.get? id = some keys → keys ≠ [] ∧ keys.Nodup)) ∧
    (∀ query, (after indexes calls).lookup query = none ↔
      ∀ index ∈ indexes, index.queryKeys query = none) ∧
    (∀ query ids, (after indexes calls).lookup query = some ids → ids.Nodup ∧
      ∀ id, id ∈ ids ↔ ∃ index ∈ indexes, ∃ keys, index.queryKeys query = some keys ∧
        ∃ key ∈ keys, ∃ r ∈ (after indexes calls).recordsOf id,
          key ∈ index.entityKeys r.entity) := by
  have filed := isFiled_after indexes calls
  have kept := indexes_after indexes calls
  refine ⟨kept, ?_, ?_, ?_⟩
  · -- A table lists exactly what its index names, and its two directions mirror each other.
    intro t member
    have mirrored := filed.isMirrored t member
    exact ⟨filed.mem_iff t member, fun id key => (mirrored.inverse id key).symm,
      mirrored.entries_isProper, mirrored.byEntity_isProper⟩
  · intro query
    rw [lookup_eq_none_iff, kept]
  · -- What a lookup finds is what the tables list, so it is named by the indexes of the store.
    intro query ids found
    refine ⟨nodup_lookup found, fun id => ?_⟩
    rw [filed.mem_lookup found, kept]
    rfl

end BackingStore

end Federation
