/-
# Evicting what is due

A cleanup goes through the entities one after another and takes out of each the records that are
due, because they are expired or because they have not been used for long. Every entity is gone
through once, and no other is touched on the way. So what is left, what has been counted and
what is due afterwards can be told for each entity on its own.

The indexes are kept up on the way, entity by entity. Whether that was done well is told by
comparison with a store into which the records that are left are put anew. The two need not list
IDs and keys in the same order.

## Main definitions

* `CacheRecord.IsUp` — the time of a record is up
* `IndexTable.Agrees` — two tables of one index list the same, in whatever order
* `BackingStore.evictEach` — evicting from some of the entities
* `BackingStore.ofRecords` — a store into which records are put

## Main results

* `IsFiled.agrees` — stores with the same records agree in every table
* `recordsOf_cleanup`, `cleanup_fst` — what is left of an entity, and how many records are evicted
* `cleanup_cleanup` — a second cleanup does nothing
* `cleanup_evicts_what_is_due` — all of it, after any calls of a store
-/

import Federation.Proofs.Resolver.Fetching
import Mathlib.Data.List.Forall2

namespace Federation

open Federation.Metadata Federation.Time

/-- The time of a record is up from the instant of its expiration on, and as soon as its last use
is longer ago than the limit, if there is one. -/
def CacheRecord.IsUp (now : Instant) (idleLimit : Option Span) (r : CacheRecord) : Prop :=
  r.expiration ≤ now ∨ ∃ limit, idleLimit = some limit ∧ limit < now.span r.lastAccess

theorem CacheRecord.isDue_iff {now : Instant} {idleLimit : Option Span} {r : CacheRecord} :
    r.isDue now idleLimit = true ↔ r.IsUp now idleLimit := by
  cases idleLimit <;> simp [isDue, isExpired, isIdle, IsUp]

instance (now : Instant) (idleLimit : Option Span) (r : CacheRecord) :
    Decidable (r.IsUp now idleLimit) :=
  decidable_of_iff _ CacheRecord.isDue_iff

/-- Where no limit is set, to be due is to be expired. -/
theorem CacheRecord.isDue_none (r : CacheRecord) (now : Instant) :
    r.isDue now none = r.isExpired now := by
  simp [isDue, isIdle]

/-! ## Tables that list the same -/

namespace Keyed

variable {κ α : Type} [DecidableEq κ] {m m' : Keyed κ (List α)} {key : κ}

/-- Keys with the same members are there or not alike, since no key is without members. -/
theorem IsProper.rel_perm (proper : m.IsProper) (proper' : m'.IsProper)
    (same : ∀ a, a ∈ m.members key ↔ a ∈ m'.members key) :
    Option.Rel List.Perm (m.get? key) (m'.get? key) := by
  have alike : m.get? key = none ↔ m'.get? key = none := by
    rw [proper.get?_eq_none_iff, proper'.get?_eq_none_iff, List.eq_nil_iff_forall_not_mem,
      List.eq_nil_iff_forall_not_mem]
    simp only [same]
  cases found : m.get? key with
  | none =>
    rw [alike.1 found]
    exact .none
  | some values =>
    cases found' : m'.get? key with
    | none =>
      rw [alike.2 found'] at found
      cases found
    | some values' =>
      apply Option.Rel.some
      rw [List.perm_ext_iff_of_nodup (proper key values found).2 (proper' key values' found').2]
      simpa [members, found, found'] using same

end Keyed

/-- Two tables of one index have the same IDs under the same keys and the same keys of the same
IDs. -/
structure IndexTable.Agrees (t t' : IndexTable) : Prop where
  index : t.index = t'.index
  entries : ∀ key, Option.Rel List.Perm (t.entries.get? key) (t'.entries.get? key)
  byEntity : ∀ id, Option.Rel List.Perm (t.byEntity.get? id) (t'.byEntity.get? id)

theorem IndexTable.IsMirrored.agrees {t t' : IndexTable} (mirrored : t.IsMirrored)
    (mirrored' : t'.IsMirrored) (index : t.index = t'.index)
    (same : ∀ id key, id ∈ t.entries.members key ↔ id ∈ t'.entries.members key) :
    t.Agrees t' where
  index := index
  entries key := mirrored.entries_isProper.rel_perm mirrored'.entries_isProper fun id => same id key
  byEntity id := by
    apply mirrored.byEntity_isProper.rel_perm mirrored'.byEntity_isProper
    intro key
    rw [← mirrored.inverse, ← mirrored'.inverse]
    exact same id key

namespace BackingStore

variable {s s' : BackingStore} {id : String} {records : List CacheRecord} {now : Instant}
  {idleLimit : Option Span}

/-- The tables of a store are settled by its indexes and its records. -/
theorem IsFiled.agrees (filed : s.IsFiled) (filed' : s'.IsFiled) (indexes : s.indexes = s'.indexes)
    (same : ∀ id, s.recordsOf id = s'.recordsOf id) :
    List.Forall₂ IndexTable.Agrees s.tables s'.tables := by
  have pairs : List.Forall₂ (fun t t' => t.index = t'.index) s.tables s'.tables := by
    rw [BackingStore.indexes, BackingStore.indexes] at indexes
    rw [← List.forall₂_eq_eq_eq] at indexes
    exact List.forall₂_map_left_iff.1 (List.forall₂_map_right_iff.1 indexes)
  apply List.forall₂_iff_zip.2
  refine ⟨pairs.length_eq, ?_⟩
  intro t t' paired
  have index := (List.forall₂_iff_zip.1 pairs).2 paired
  have listed := List.of_mem_zip paired
  apply (filed.isMirrored t listed.1).agrees (filed'.isMirrored t' listed.2) index
  intro id key
  rw [filed.mem_iff t listed.1, filed'.mem_iff t' listed.2, Files, Files, same, index]

/-! ## Putting records into a store -/

/-- A store into which the records of entities are put, one entity after another. -/
def ofRecords (indexes : List EntityIndex) (records : Keyed String (List CacheRecord)) :
    BackingStore :=
  after indexes (records.entries.map fun (id, records) => .insert id records)

theorem recordsOf_foldl_insert {entries : List (String × List CacheRecord)}
    (distinct : (entries.map (·.1)).Nodup) :
    ((entries.map fun (id, records) => StoreCall.insert id records).foldl
        StoreCall.apply s).recordsOf id
      = (entries.lookup id).getD (s.recordsOf id) := by
  induction entries generalizing s with
  | nil => rfl
  | cons entry rest ih =>
    obtain ⟨other, records⟩ := entry
    obtain ⟨unique, distinct⟩ := List.nodup_cons.1 distinct
    rw [List.map_cons, List.foldl_cons, ih distinct, StoreCall.apply, recordsOf_insert,
      List.lookup_cons]
    by_cases same : id = other
    · -- Nothing that comes later is put under that ID.
      have last : rest.lookup id = none := Keyed.lookup_eq_none_of_not_mem (same ▸ unique)
      simp [same, same ▸ last]
    · have differs : (id == other) = false := by simpa using same
      simp [same, differs]

/-- What was put into a store is in it. -/
theorem recordsOf_ofRecords (indexes : List EntityIndex)
    (records : Keyed String (List CacheRecord)) (id : String) :
    (ofRecords indexes records).recordsOf id = (records.get? id).getD [] :=
  recordsOf_foldl_insert records.nodup

/-! ## Evicting from one entity -/

theorem evict_fst : (s.evict now idleLimit id).1
    = (s.recordsOf id).countP fun r => r.isDue now idleLimit := by
  rw [evict]
  cases found : s.records.get? id with
  | none =>
    have absent : s.recordsOf id = [] := by
      rw [recordsOf, find?, found]
      rfl
    simp [absent]
  | some records =>
    rw [recordsOf_eq_of_find? found]
    have parts : records.length = (records.countP fun r => r.isDue now idleLimit)
        + (records.filter fun r => !r.isDue now idleLimit).length := by
      rw [← List.countP_eq_length_filter]
      simpa using List.length_eq_countP_add_countP (fun r => r.isDue now idleLimit) (l := records)
    dsimp only
    split
    · simp only
      omega
    · simp only
      omega

/-- Where no record of an entity is due, the store stays as it is. -/
theorem evict_of_none_due (none_due : ∀ r ∈ s.recordsOf id, r.isDue now idleLimit = false) :
    s.evict now idleLimit id = (0, s) := by
  rw [evict]
  cases found : s.records.get? id with
  | none => rfl
  | some records =>
    rw [recordsOf_eq_of_find? found] at none_due
    have all_left : (records.filter fun r => !r.isDue now idleLimit) = records := by
      apply List.filter_eq_self.2
      intro r listed
      simp [none_due r listed]
    dsimp only
    rw [if_pos (congrArg List.length all_left)]

/-! ## Cleaning up -/

/-- The records of every entity. -/
def allRecords (s : BackingStore) : List CacheRecord := s.records.keys.flatMap s.recordsOf

/-- Evicts from entities one after another; counts on from a number. -/
def evictEach (now : Instant) (idleLimit : Option Span) (evicted : Nat) (s : BackingStore)
    (ids : List String) : Nat × BackingStore :=
  ids.foldl
    (fun (evicted, s) id =>
      let (n, s) := evict now idleLimit s id
      (evicted + n, s))
    (evicted, s)

theorem evictEach_cons {ids : List String} {evicted : Nat} :
    evictEach now idleLimit evicted s (id :: ids)
      = evictEach now idleLimit (evicted + (s.evict now idleLimit id).1)
          (s.evict now idleLimit id).2 ids := rfl

theorem cleanup_eq_evictEach :
    s.cleanup now idleLimit = evictEach now idleLimit 0 s s.records.keys := rfl

/-- Evicting from one entity leaves the records of others as they are. -/
theorem recordsOf_evict_of_ne {other : String} (differs : other ≠ id) :
    (s.evict now idleLimit id).2.recordsOf other = s.recordsOf other := by
  rw [recordsOf_evict, if_neg differs]

/-- Of entities that are gone through once the records are counted that are due. -/
theorem evictEach_fst {ids : List String} (distinct : ids.Nodup) (evicted : Nat) :
    (evictEach now idleLimit evicted s ids).1
      = evicted + (ids.flatMap s.recordsOf).countP fun r => r.isDue now idleLimit := by
  induction ids generalizing s evicted with
  | nil => simp [evictEach]
  | cons id rest ih =>
    obtain ⟨unique, distinct⟩ := List.nodup_cons.1 distinct
    -- The entities that come later are as they were before the first.
    have later : rest.flatMap (s.evict now idleLimit id).2.recordsOf
        = rest.flatMap s.recordsOf := by
      apply List.flatMap_congr
      intro other listed
      apply recordsOf_evict_of_ne
      rintro rfl
      exact unique listed
    rw [evictEach_cons, ih distinct, later, evict_fst, List.flatMap_cons, List.countP_append,
      Nat.add_assoc]

/-- Entities that are gone through once are left without what is due; the others are left as they
were. -/
theorem recordsOf_evictEach {ids : List String} (distinct : ids.Nodup) (evicted : Nat) :
    (evictEach now idleLimit evicted s ids).2.recordsOf id
      = if id ∈ ids then (s.recordsOf id).filter fun r => !r.isDue now idleLimit
        else s.recordsOf id := by
  induction ids generalizing s evicted with
  | nil => simp [evictEach]
  | cons first rest ih =>
    obtain ⟨unique, distinct⟩ := List.nodup_cons.1 distinct
    rw [evictEach_cons, ih distinct]
    by_cases here : id = first
    · subst here
      simp [unique, recordsOf_evict]
    · simp [here, recordsOf_evict_of_ne here]

theorem recordsOf_of_not_listed (absent : id ∉ s.records.keys) : s.recordsOf id = [] := by
  rw [recordsOf, find?, Keyed.get?_eq_none_of_not_mem absent]
  rfl

/-- Of every entity the records are left that are not due. -/
theorem recordsOf_cleanup (s : BackingStore) (id : String) :
    (s.cleanup now idleLimit).2.recordsOf id
      = (s.recordsOf id).filter fun r => !r.isDue now idleLimit := by
  have distinct : s.records.keys.Nodup := s.records.nodup
  rw [cleanup_eq_evictEach, recordsOf_evictEach distinct]
  split
  · rfl
  · rename_i absent
    simp [recordsOf_of_not_listed absent]

/-- The records are counted that are due. -/
theorem cleanup_fst (s : BackingStore) :
    (s.cleanup now idleLimit).1 = s.allRecords.countP fun r => r.isDue now idleLimit := by
  have distinct : s.records.keys.Nodup := s.records.nodup
  rw [cleanup_eq_evictEach, evictEach_fst distinct, Nat.zero_add, allRecords]

/-- Where no record is due, nothing is evicted and the store stays as it is. -/
theorem cleanup_of_none_due
    (none_due : ∀ id, ∀ r ∈ s.recordsOf id, r.isDue now idleLimit = false) :
    s.cleanup now idleLimit = (0, s) := by
  rw [cleanup_eq_evictEach]
  generalize s.records.keys = ids
  induction ids with
  | nil => rfl
  | cons id rest ih =>
    rw [evictEach_cons, evict_of_none_due (none_due id)]
    exact ih

/-- Nothing that is left is due, so a second cleanup has nothing to do. -/
theorem cleanup_cleanup (s : BackingStore) :
    (s.cleanup now idleLimit).2.cleanup now idleLimit = (0, (s.cleanup now idleLimit).2) := by
  apply cleanup_of_none_due
  -- Whether a record is due depends on nothing but itself, and what was due is gone.
  intro id r left
  rw [recordsOf_cleanup] at left
  simpa using (List.mem_filter.1 left).2

/-! ## Live descriptions -/

/-- Records that are evicted because they are expired were not live. -/
theorem liveOf_cleanup {ε : Type} (σ : ResolverState ε) (id : String) :
    Resolver.liveOf { σ with store := (σ.store.cleanup σ.now none).2 } id
      = Resolver.liveOf σ id := by
  rw [Resolver.liveOf, Resolver.liveOf, recordsOf_cleanup, List.filter_filter]
  simp only [CacheRecord.isDue_none, Bool.and_self]

/-! ## All of it -/

/-- **A cleanup evicts exactly what is due.** Whatever was done to a store before, a cleanup takes
out of the records of every entity those whose time is up, and leaves the others as and where they
were. It takes an entity out exactly when none of its records is left, and it tells how many
records it took out. Every index lists the entities under the keys of the records that are left;
its tables are those of a store into which nothing was ever put but these records. Another cleanup
takes nothing out and leaves everything as it is. And where no limit is set to how long a record
may go unused, nobody who asks at that instant for the live descriptions of an entity can tell
whether there has been a cleanup. -/
theorem cleanup_evicts_what_is_due {ε : Type} (indexes : List EntityIndex)
    (calls : List StoreCall) (now : Instant) (idleLimit : Option Span) (σ : ResolverState ε) :
    let s := after indexes calls
    let swept := s.cleanup now idleLimit
    let asked := { σ with now := now, store := s }
    (∀ id, swept.2.recordsOf id = (s.recordsOf id).filter fun r => ¬ r.IsUp now idleLimit) ∧
    (∀ id, swept.2.contains id = true ↔ ∃ r ∈ s.recordsOf id, ¬ r.IsUp now idleLimit) ∧
    swept.1 = (s.allRecords.countP fun r => r.IsUp now idleLimit) ∧
    (∀ t ∈ swept.2.tables, ∀ id key, id ∈ t.entries.members key ↔
      ∃ r ∈ s.recordsOf id, ¬ r.IsUp now idleLimit ∧ key ∈ t.index.entityKeys r.entity) ∧
    List.Forall₂ IndexTable.Agrees swept.2.tables (ofRecords indexes swept.2.records).tables ∧
    swept.2.cleanup now idleLimit = (0, swept.2) ∧
    ∀ id, ((Resolver.liveDescriptions id now).run { asked with store := (s.cleanup now none).2 }).1
      = ((Resolver.liveDescriptions id now).run asked).1 := by
  intro s swept asked
  have up (r : CacheRecord) : r.isDue now idleLimit = decide (r.IsUp now idleLimit) := by
    rw [Bool.eq_iff_iff, CacheRecord.isDue_iff, decide_eq_true_iff]
  have left (id : String) : swept.2.recordsOf id
      = (s.recordsOf id).filter fun r => ¬ r.IsUp now idleLimit := by
    rw [recordsOf_cleanup]
    simp only [up, decide_not]
  have filed : swept.2.IsFiled := (isFiled_after indexes calls).apply (.cleanup now idleLimit)
  refine ⟨left, ?_, ?_, ?_, ?_, cleanup_cleanup s, ?_⟩
  · intro id
    rw [(isInhabited_after indexes calls).cleanup.contains_iff, left]
    simp [List.filter_eq_nil_iff]
  · rw [cleanup_fst]
    simp only [up]
  · intro t member id key
    rw [filed.mem_iff t member, Files, left]
    simp [and_assoc]
  · have kept : swept.2.indexes = indexes :=
      (indexes_apply (.cleanup now idleLimit)).trans (indexes_after indexes calls)
    -- The store it is compared with has been called as well, so its tables follow its records.
    apply filed.agrees (isFiled_after indexes _)
    · rw [indexes_after, kept]
    · intro id
      rw [← ofRecords, recordsOf_ofRecords]
      rfl
  · intro id
    have told (store : BackingStore) :=
      congrArg Prod.fst (@Resolver.run_liveDescriptions ε { asked with store } id)
    apply (told (s.cleanup now none).2).trans
    rw [liveOf_cleanup asked]
    exact (told s).symm

end BackingStore

end Federation
