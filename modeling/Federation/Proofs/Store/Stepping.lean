/-
# Calls whose steps follow upon each other

A call of a store in several hands that is left alone does what the operation of the store does,
gives what the operation gives, and has released what it held when it is over. It leaves keys in
the same order too, if the caller goes through them as they are found.

## Main results

- `run_remove`, `run_insert`, `run_cleanup`: a call of a store and the operation.
-/

import Federation.Proofs.Store.Records
import Federation.Proofs.Store.Removal
import Federation.Proofs.Task.Runs
import Federation.Store.Shared

namespace Federation

open Federation.Metadata Federation.Time Federation.Task

/-! ## Maps -/

namespace Keyed

variable {κ α : Type} [DecidableEq κ]

/-- To take out what is not there changes nothing. -/
theorem erase_of_absent {m : Keyed κ α} {key : κ} (absent : m.get? key = none) :
    m.erase key = m := by
  have entries : m.entries.filter (fun entry => entry.1 != key) = m.entries := by
    refine List.filter_eq_self.2 fun entry listed => bne_iff_ne.2 ?_
    rintro rfl
    have different := List.lookup_eq_none_iff.1 absent entry listed
    simp at different
  rw [erase, filter]
  congr 1

theorem put_of_present {key : κ} {value : α} {entries : List (κ × α)}
    (there : entries.lookup key = some value) : put key value entries = entries := by
  induction entries with
  | nil => cases there
  | cons head rest ih =>
    obtain ⟨other, v⟩ := head
    rw [List.lookup_cons] at there
    rw [put]
    split at there
    · rename_i same
      obtain rfl := Option.some_inj.1 there
      obtain rfl := beq_iff_eq.1 same
      rw [if_pos rfl]
    · rename_i different
      rw [if_neg fun same => by simp [same] at different, ih there]

/-- To put in what is there changes nothing. -/
theorem insert_of_present {m : Keyed κ α} {key : κ} {value : α} (there : m.get? key = some value) :
    m.insert key value = m := by
  have entries : put key value m.entries = m.entries := put_of_present there
  rw [insert]
  congr 1

end Keyed

namespace SharedStore

variable {α : Type} {s : SharedStore} {i number : Nat} {t : IndexTable} {id key : String}
  {keys : List String} {now : Instant} {idleLimit : Option Span}

/-! ## One table -/

theorem getElem?_setTable (found : s.store.tables[i]? = some t) (t' : IndexTable) :
    (s.setTable i t').store.tables[i]? = some t' :=
  List.getElem?_set_self (List.getElem?_eq_some_iff.1 found).1

theorem setTable_setTable (s : SharedStore) (i : Nat) (t t' : IndexTable) :
    (s.setTable i t).setTable i t' = s.setTable i t' := by
  simp [setTable]

theorem setTable_of_present (found : s.store.tables[i]? = some t) : s.setTable i t = s := by
  have same : s.store.tables.set i t = s.store.tables := by
    refine List.ext_getElem? fun j => ?_
    by_cases here : i = j
    · rw [← here, List.getElem?_set_self (List.getElem?_eq_some_iff.1 found).1, found]
    · rw [List.getElem?_set_ne here]
  rw [setTable, same]

theorem run_onTable [Inhabited α] (found : s.store.tables[i]? = some t)
    (access : IndexTable → α × IndexTable) :
    (onTable i access).run s = (.ok (access t).1, s.setTable i (access t).2) := by
  rw [onTable, run_perform, found]

/-- Taking an ID away from a key in two steps. -/
theorem run_unfileUnder (found : s.store.tables[i]? = some t) :
    (unfileUnder id i key).run s
      = (.ok (), s.setTable i { t with entries := IndexTable.dropUnder id t.entries key }) := by
  rw [unfileUnder, run_then, run_onTable found, proceed_ok, IndexTable.leave, IndexTable.dropUnder]
  cases there : t.entries.get? key with
  | none => rfl
  | some ids =>
    dsimp only
    split
    · rename_i emptied
      rw [run_onTable (getElem?_setTable found _), setTable_setTable, IndexTable.dropHollow,
        List.isEmpty_iff.1 emptied]
      dsimp only
      rw [Keyed.get?_insert, if_pos rfl]
      dsimp only
      rw [Keyed.erase_insert]
    · rfl

theorem run_unfile (found : s.store.tables[i]? = some t) :
    (unfile id i).run s = (.ok (), s.setTable i (t.remove id)) := by
  have each (keys : List String) (s : SharedStore) (t : IndexTable)
      (found : s.store.tables[i]? = some t) : (forEach keys (unfileUnder id i)).run s
      = (.ok (), s.setTable i { t with
          entries := keys.foldl (IndexTable.dropUnder id) t.entries }) := by
    induction keys generalizing s t with
    | nil =>
      rw [List.foldl_nil, setTable_of_present found]
      rfl
    | cons key rest ih =>
      rw [forEach, run_bind, run_unfileUnder found, proceed_ok, ih _ _ (getElem?_setTable found _),
        setTable_setTable]
      rfl
  rw [unfile, run_then, run_onTable found, proceed_ok, each _ _ _ (getElem?_setTable found _),
    setTable_setTable, IndexTable.takeKeys, IndexTable.remove]
  cases noted : t.byEntity.get? id with
  | none =>
    rw [Keyed.erase_of_absent noted]
    rfl
  | some keys => rfl

theorem run_file (found : s.store.tables[i]? = some t) :
    (file id i keys).run s = (.ok (), s.setTable i (t.add id keys)) := by
  have each (keys : List String) (s : SharedStore) (t : IndexTable)
      (found : s.store.tables[i]? = some t) :
      (forEach keys fun key => onTable i (·.join id key)).run s
      = (.ok (), s.setTable i { t with
          entries := keys.foldl (IndexTable.addUnder id) t.entries }) := by
    induction keys generalizing s t with
    | nil =>
      rw [List.foldl_nil, setTable_of_present found]
      rfl
    | cons key rest ih =>
      rw [forEach, run_bind, run_onTable found, proceed_ok, ih _ _ (getElem?_setTable found _),
        setTable_setTable]
      rfl
  rw [file, IndexTable.add]
  split
  · rw [setTable_of_present found]
    rfl
  · rw [run_then, each _ _ _ found, proceed_ok, run_onTable (getElem?_setTable found _),
      setTable_setTable]
    rfl

/-! ## All tables -/

/-- Tables are changed one after another. -/
theorem run_forEach_places {body : EntityIndex × Nat → Task SharedStore Unit}
    {change : IndexTable → IndexTable} (each : ∀ (s : SharedStore) i t,
      s.store.tables[i]? = some t →
      (body (t.index, i)).run s = (.ok (), s.setTable i (change t)))
    (done left : List IndexTable) (s : SharedStore) (tables : s.store.tables = done ++ left) :
    (forEach ((left.map (·.index)).zipIdx done.length) body).run s
      = (.ok (), { s with store := { s.store with tables := done ++ left.map change } }) := by
  induction left generalizing done s with
  | nil =>
    rw [List.map_nil, List.map_nil, ← tables]
    rfl
  | cons t rest ih =>
    have found : s.store.tables[done.length]? = some t := by
      rw [tables, List.getElem?_append_right (Nat.le_refl _), Nat.sub_self]
      rfl
    have changed : (s.setTable done.length (change t)).store.tables
        = (done ++ [change t]) ++ rest := by
      show s.store.tables.set done.length (change t) = _
      rw [tables, List.set_append_right _ _ (Nat.le_refl _), Nat.sub_self, List.append_assoc]
      rfl
    have others := ih (done ++ [change t]) _ changed
    rw [List.length_append, List.length_singleton] at others
    rw [List.map_cons, List.zipIdx_cons, forEach, run_bind, each s _ t found, proceed_ok, others,
      List.map_cons, List.append_assoc]
    rfl

theorem run_indexPlaces :
    indexPlaces.run s = (.ok (s.store.tables.map (·.index)).zipIdx, s) := rfl

theorem run_unfileAll (s : SharedStore) (id : String) : (unfileAll id).run s
    = (.ok (), { s with store := { s.store with tables := s.store.tables.remove id } }) := by
  rw [unfileAll, run_then, run_indexPlaces, proceed_ok]
  exact run_forEach_places (fun s i t found => run_unfile found) [] _ s rfl

theorem run_refileAll (s : SharedStore) (id : String) (descriptions : List Entity) :
    (refileAll (.plain number) id descriptions).run s = (.ok (), { s with
      store := { s.store with tables := s.store.tables.refile id descriptions } }) := by
  rw [refileAll, run_then, run_indexPlaces, proceed_ok]
  refine run_forEach_places (fun s i t found => ?_) [] _ s rfl
  rw [run_then, run_unfile found, proceed_ok, run_file (getElem?_setTable found _),
    setTable_setTable]
  rfl

/-! ## Calls -/

/-- What was held for a while is as free as it was. -/
theorem erase_insert_of_free {held : Keyed String Nat} (free : held.get? id = none) :
    (held.insert id number).erase id = held := by
  rw [Keyed.erase_insert, Keyed.erase_of_absent free]

theorem run_hold : (hold number id).run s
    = (.ok (s.store.records.get? id), { s with held := s.held.insert id number }) := rfl

theorem run_release : (release id).run s = (.ok (), { s with held := s.held.erase id }) := rfl

theorem run_discard : (discard id).run s = (.ok (),
    { store := { s.store with records := s.store.records.erase id }, held := s.held.erase id }) :=
  rfl

theorem run_put (records : List CacheRecord) : (put id records).run s = (.ok (), { s with
    store := { s.store with records := s.store.records.insert id records } }) := rfl

theorem run_remove (free : s.held.get? id = none) (number : Nat) :
    (remove number id).run s
      = (.ok (s.store.records.get? id), { s with store := s.store.remove id }) := by
  rw [remove, run_then, run_hold, proceed_ok, BackingStore.remove]
  cases s.store.records.get? id with
  | none =>
    dsimp only
    rw [run_then, run_release, proceed_ok, erase_insert_of_free free]
    rfl
  | some records =>
    dsimp only
    rw [run_then, run_unfileAll, proceed_ok, run_then, run_discard, proceed_ok]
    dsimp only
    rw [erase_insert_of_free free]
    rfl

theorem run_insert (free : s.held.get? id = none) (number : Nat) (records : List CacheRecord) :
    (insert (.plain number) id records).run s
      = (.ok (), { s with store := s.store.insert id records }) := by
  rw [insert, BackingStore.insert]
  split
  · rw [run_then, run_remove free, proceed_ok]
    rfl
  · rw [run_then, run_hold, proceed_ok, run_then, run_put, proceed_ok, run_then, run_refileAll,
      proceed_ok, run_release]
    dsimp only
    rw [erase_insert_of_free free]

/-- Where no entity is listed without a record, evicting is one case in three: none is left, all are
left, or some. -/
theorem run_evict (free : s.held.get? id = none) (inhabited : s.store.IsInhabited) (number : Nat) :
    (evict (.plain number) now idleLimit id).run s
      = (.ok (s.store.evict now idleLimit id).1,
          { s with store := (s.store.evict now idleLimit id).2 }) := by
  rw [evict, run_then, run_hold, proceed_ok, BackingStore.evict]
  cases found : s.store.records.get? id with
  | none =>
    dsimp only
    rw [run_then, run_release, proceed_ok]
    dsimp only
    rw [erase_insert_of_free free]
    rfl
  | some records =>
    dsimp only
    rw [run_then, run_put, proceed_ok, BackingStore.insert, BackingStore.remove, found]
    by_cases emptied : (records.filter fun r => !r.isDue now idleLimit).isEmpty
    · -- There was a record, and none is left.
      have evicted : (records.filter fun r => !r.isDue now idleLimit).length ≠ records.length := by
        rw [List.isEmpty_iff.1 emptied]
        exact fun none_ => inhabited id (found.trans
          (congrArg some (List.eq_nil_of_length_eq_zero none_.symm)))
      rw [if_pos emptied, if_neg evicted, if_pos emptied, run_then, run_unfileAll, proceed_ok,
        run_then, run_discard, proceed_ok]
      dsimp only
      rw [erase_insert_of_free free, Keyed.erase_insert]
      rfl
    · rw [if_neg emptied]
      split
      · -- None of the records was due, so the entry is let go of as it was.
        rename_i all_left
        rw [run_then, run_release, proceed_ok]
        dsimp only
        rw [erase_insert_of_free free, List.filter_sublist.eq_of_length all_left,
          Keyed.insert_of_present found, Nat.sub_self]
        rfl
      · -- Some are left, and the tables have to follow.
        rw [run_then, run_refileAll, proceed_ok, run_then, run_release, proceed_ok]
        dsimp only
        rw [erase_insert_of_free free]
        rfl

theorem run_collect_evict (number : Nat) (now : Instant) (idleLimit : Option Span)
    (ids : List String) {s : SharedStore} (free : ∀ id ∈ ids, s.held.get? id = none)
    (inhabited : s.store.IsInhabited) :
    ∃ counts store,
      (Task.collect ids (evict (.plain number) now idleLimit)).run s
        = (.ok counts, { s with store }) ∧
      ∀ evicted, ids.foldl (fun (evicted, s) id =>
          ((evicted + (BackingStore.evict now idleLimit s id).1 : Nat),
            (BackingStore.evict now idleLimit s id).2)) (evicted, s.store)
        = (counts.foldl (· + ·) evicted, store) := by
  induction ids generalizing s with
  | nil => exact ⟨[], s.store, rfl, fun evicted => rfl⟩
  | cons id rest ih =>
    obtain ⟨counts, store, others, sum⟩ := @ih
      { s with store := (s.store.evict now idleLimit id).2 }
      (fun other listed => free other (List.mem_cons_of_mem id listed)) inhabited.evict
    refine ⟨(s.store.evict now idleLimit id).1 :: counts, store, ?_, fun evicted => ?_⟩
    · rw [Task.collect, run_bind, run_evict (free id List.mem_cons_self) inhabited, proceed_ok,
        run_bind, others]
      rfl
    · rw [List.foldl_cons, sum, List.foldl_cons]

theorem run_cleanup (free : ∀ id, s.held.get? id = none) (inhabited : s.store.IsInhabited)
    (number : Nat) : (cleanup (.plain number) now idleLimit s.store.records.keys).run s
      = (.ok (s.store.cleanup now idleLimit).1,
          { s with store := (s.store.cleanup now idleLimit).2 }) := by
  obtain ⟨counts, store, ran, sum⟩ := run_collect_evict number now idleLimit
    s.store.records.keys (fun id _ => free id) inhabited
  have swept : s.store.cleanup now idleLimit = (counts.foldl (· + ·) 0, store) := sum 0
  rw [cleanup, run_then, ran, proceed_ok, swept]
  rfl

end SharedStore

end Federation
