/-
# Clearing one entity

An entity may be held in four places: its records are in the store, its ID is in the indexes, a
marker says that it is believed absent, and a copy is in the persistent cache. Clearing it empties
all four, whichever of them there are, and leaves alone what they hold of others. The next query for
it alone comes to the origin, once.

Of the persistent cache this is true where copies are kept under the standard keys of their
entities and nothing is wrong with the cache. What clearing leaves alone in it is whatever is kept
under other keys, which are the keys of other entities.

## Main definitions

- `KeepsInOrder`: the copies in a persistent cache, and that of one entity, can be dealt with.
- `dropped`: a state in which an entity was dropped from all but the persistent cache.

## Main results

- `run_clearEntity`: what clearing an entity comes to.
- `clears_completely_and_locally`: what is left of the entity, and of others.
-/

import Federation.Proofs.Cache.Removing
import Federation.Proofs.Resolver.Repeating
import Federation.Proofs.Resolver.WritingThrough
import Federation.Proofs.Store.Removal

namespace Federation

open Federation.Metadata Federation.Time Federation.Task ResolverState

/-! ## Taking out one key -/

/-- A list of one item and its repetitions, without the latter. -/
theorem eq_singleton_of_nodup {α : Type} {l : List α} {a : α} (distinct : l.Nodup)
    (some_item : l ≠ []) (same : ∀ b ∈ l, b = a) : l = [a] := by
  cases l with
  | nil => exact absurd rfl some_item
  | cons b rest =>
    obtain rfl := same b List.mem_cons_self
    cases rest with
    | nil => rfl
    | cons c others =>
      obtain rfl := same c (List.mem_cons_of_mem _ List.mem_cons_self)
      exact absurd List.mem_cons_self (List.nodup_cons.1 distinct).1

namespace Resolver

variable {ε : Type} {clock : Drift Instant} {s m : ResolverState ε} {id : String}
  {query : Criteria} {p : Persistence}

/-- The key under which records of an entity are kept is that of the entity, where keys are
standard. -/
theorem keysOf_eq_singleton (standard : p.keyOf = standardKey) {records : List CacheRecord}
    (own : ∀ record ∈ records, record.entity.entityId = id) :
    keysOf p id records = [standardKey (.ofId id)] := by
  refine eq_singleton_of_nodup ?_ ?_ fun key => eq_standardKey_of_mem_keysOf standard own
  · cases records with
    | nil => exact List.nodup_singleton _
    | cons first rest => exact nodup_eraseDups _
  · cases records with
    | nil => exact List.cons_ne_nil _ _
    | cons first rest =>
      exact List.ne_nil_of_mem (standardKey_mem_keysOf standard List.mem_cons_self)

/-! ## What clearing comes to -/

/-- Copies are kept under the standard keys of their entities in a cache with which nothing is
wrong, and no folder is in the place of the copy of one of them. -/
structure KeepsInOrder (p : Persistence) (c : PersistentCache) (id : String) : Prop where
  standard : p.keyOf = standardKey
  filed : c.IsFiled
  works : c.Works
  file : c.slot (standardKey (.ofId id)) ≠ some .folder

/-- The state in which an entity was dropped from all but the persistent cache. -/
def dropped (r : Resolver ε) (id : String) (s : ResolverState ε) : ResolverState ε :=
  { s with
    store := s.store.remove id
    negative := s.negative.erase id
    metrics := s.metrics.set (.storedEntities r.id) (s.store.remove id).size }

/-- The persistent cache after the copy of an entity was taken out, if there is such a cache. -/
def cleared (r : Resolver ε) (id : String) (c : PersistentCache) : PersistentCache :=
  match r.persistence with
  | none => c
  | some _ => (c.remove (standardKey (.ofId id))).2

/-- **Clearing an entity** succeeds, and drops it from the store, the markers and the cache. -/
theorem run_clearEntity (r : Resolver ε) (ready : s.lifecycle = .initialized)
    (own : ∀ record ∈ s.store.recordsOf id, record.entity.entityId = id)
    (order : ∀ p, r.persistence = some p → KeepsInOrder p s.cache id) :
    (r.clearEntity id).run s
      = (.ok (), { r.dropped id s with cache := r.cleared id s.cache }) := by
  rw [clearEntity, requireInitialized, run_then, run_then, run_read, ready, proceed_ok]
  dsimp only
  rw [run_pure, proceed_ok, run_then, run_read, proceed_ok, run_then, run_change, proceed_ok,
    run_then, gaugeSize, run_change, proceed_ok, cleared]
  cases persistent : r.persistence with
  | none => rfl
  | some p =>
    obtain ⟨standard, -, works, file⟩ := order p persistent
    have own : ∀ record ∈ (s.store.find? id).getD [], record.entity.entityId = id := own
    obtain ⟨there, removed⟩ := works.removes (s.cache.accepts_standardKey _) file
    dsimp only
    rw [keysOf_eq_singleton standard own, forEach, run_bind, run_then, onCache, run_then, run_read,
      proceed_ok, run_then, run_pauseIf, proceed_ok, run_then, run_perform, proceed_ok]
    dsimp only
    rw [removed]
    rfl

/-! ## What is left -/

/-- Where copies are in order, no copy is left of an entity that was cleared, and under other keys
everything is as it was. -/
theorem KeepsInOrder.remove {c : PersistentCache} (order : KeepsInOrder p c id) :
    (c.remove (standardKey (.ofId id))).2.Lacks id ∧
      (c.remove (standardKey (.ofId id))).2.slot (standardKey (.ofId id)) = none ∧
      ∀ key, key ≠ standardKey (.ofId id) →
        (c.remove (standardKey (.ofId id))).2.slot key = c.slot key := by
  have becomes :=
    PersistentCache.becomes_remove order.works (c.accepts_standardKey _) order.file
  refine ⟨order.filed.lacks_remove order.works.isFailing rfl, ?_, fun key foreign => ?_⟩
  · rw [becomes.slot, Function.update_self]
  · rw [becomes.slot, Function.update_of_ne foreign]

/-- An entity of which nothing is held is missing. -/
theorem misses_of_absent (unstored : s.store.find? id = none)
    (unmarked : s.negative.get? id = none) : Misses s id where
  expired record held := by
    rw [BackingStore.recordsOf, unstored] at held
    cases held
  unmarked until_ marked := by
    rw [unmarked] at marked
    cases marked

/-- **Clearing one entity is complete and local.** Whatever is held of it, clearing it succeeds, and
then no record of it is in the store, no index finds it and no marker says that it is absent. If
there is a persistent cache, nothing is kept under its key and no copy of it is kept under any
other, so no warm start brings it back. Records and markers of other entities are as they were, the
indexes find the same others in the same order, and the persistent cache keeps under other keys
what it kept. The origin is not asked; the next query for the entity alone, whenever it comes, asks
it exactly once. -/
theorem clears_completely_and_locally (r : Resolver ε) {s : ResolverState (Tally × ε)}
    (reached : Reachable r.watched clock s) (ready : s.lifecycle = .initialized)
    (order : ∀ p, r.persistence = some p → KeepsInOrder p s.cache id) :
    let s' := ((r.watched.clearEntity id).run s).2
    ((r.watched.clearEntity id).run s).1 = .ok () ∧
    (s'.store.find? id = none ∧ s'.negative.get? id = none ∧
      (∀ query ids, s'.store.lookup query = some ids → id ∉ ids) ∧
      (∀ name key, id ∉ s'.store.tables.entitiesFor name key) ∧
      (r.persistence.isSome = true →
        s'.cache.slot (standardKey (.ofId id)) = none ∧ Forgets id s')) ∧
    ((∀ other, other ≠ id → s'.store.find? other = s.store.find? other ∧
        s'.negative.get? other = s.negative.get? other) ∧
      (∀ query, s'.store.lookup query = (s.store.lookup query).map (List.filter (· != id))) ∧
      (∀ name key, s'.store.tables.entitiesFor name key
        = (s.store.tables.entitiesFor name key).filter (· != id)) ∧
      ∀ key, key ≠ standardKey (.ofId id) → s'.cache.slot key = s.cache.slot key) ∧
    s'.origin = s.origin ∧
    ∀ m, Elsewhere .anyhow s' m →
      ((r.watched.resolve { entityId := some id }).run m).2.origin.1.begun
        = id :: m.origin.1.begun := by
  intro s'
  -- Records are kept under the ID of what they describe, so that one key of the cache is
  -- concerned.
  have own (record : CacheRecord) (held : record ∈ s.store.recordsOf id) :
      record.entity.entityId = id := (reached.isSound.own id record held).1
  have ran := run_clearEntity r.watched ready own order
  have left : s' = { r.watched.dropped id s with cache := r.watched.cleared id s.cache } :=
    congrArg Prod.snd ran
  -- The state is known from here on, and the run that led to it is not unfolded again.
  clear_value s'
  subst left
  have filed := reached.isFiled
  have unstored : (s.store.remove id).find? id = none := by
    rw [BackingStore.find?_remove, if_pos rfl]
  have unmarked : (s.negative.erase id).get? id = none := by
    rw [Keyed.get?_erase, if_pos rfl]
  refine ⟨congrArg Prod.fst ran, ⟨unstored, unmarked, fun query ids found listed => ?_,
    fun name key listed => ?_, fun persistent => ?_⟩, ⟨fun other foreign => ⟨?_, ?_⟩,
    filed.lookup_remove id, filed.entitiesFor_remove id, fun key foreign => ?_⟩, rfl,
    fun m moved => ?_⟩
  · have found : (s.store.remove id).lookup query = some ids := found
    rw [filed.lookup_remove] at found
    obtain ⟨before, -, rfl⟩ := Option.map_eq_some_iff.1 found
    simp at listed
  · have listed : id ∈ (s.store.remove id).tables.entitiesFor name key := listed
    rw [filed.entitiesFor_remove] at listed
    simp at listed
  · -- The key of the entity is removed, and no copy is found under any other.
    obtain ⟨p, persistent⟩ := Option.isSome_iff_exists.1 persistent
    have cache : r.watched.cleared id s.cache = (s.cache.remove (standardKey (.ofId id))).2 := by
      rw [cleared]
      show (match r.persistence with | none => s.cache | some _ => _) = _
      rw [persistent]
    obtain ⟨lacks, emptied, -⟩ := (order p persistent).remove
    rw [← cache] at lacks emptied
    exact ⟨emptied, forgets_of_lacks lacks⟩
  · show (s.store.remove id).find? other = _
    rw [BackingStore.find?_remove, if_neg foreign]
  · show (s.negative.erase id).get? other = _
    rw [Keyed.get?_erase, if_neg foreign]
  · show (r.watched.cleared id s.cache).slot key = _
    rw [cleared]
    cases persistent : r.watched.persistence with
    | none => rfl
    | some p => exact (order p persistent).remove.2.2 key foreign
  · -- Neither a record nor a marker answers the next query, so that it asks the origin.
    have ready' : m.lifecycle = .initialized := moved.lifecycle.trans ready
    have vacant' : m.flights.AreVacant := by
      rw [moved.flights]
      exact reached.vacant
    refine begun_of_misses r vacant' ready' rfl (misses_of_absent ?_ ?_)
    · rw [moved.store]
      exact unstored
    · rw [moved.negative]
      exact unmarked

/-! ### At work -/

/-- The rehearsed resolver with a persistent cache, after a query for an entity. Its origin is
watched. -/
def acquired : ResolverState (Tally × Origin.Script) :=
  ((persisting.watched.resolve { entityId := some "https://idp.example.org" }).run
    (watchedRehearsal (.ok (some (.entity published))))).2

theorem reachable_acquired : Reachable persisting.watched .forward acquired := by
  have ran : (Call.prepare.task persisting.watched).Runs (elsewhere .forward)
      (.start [] (.memory (.empty false))
        (Tally.empty, answering "https://idp.example.org" (.ok (some (.entity published)))) ⟨0, 0⟩)
      (.ok ()) (watchedRehearsal (.ok (some (.entity published)))) := Task.runs_of_run_eq rfl
  have prepared : Reachable persisting.watched .forward
      (watchedRehearsal (.ok (some (.entity published)))) :=
    ⟨_, _, _, _, .single (.call .prepare _ ran (by simp))⟩
  exact prepared.next (.resolve _ _ nofun)

theorem cache_acquired : acquired.cache = afterFetch.cache := rfl

theorem keepsInOrder_acquired :
    KeepsInOrder ⟨standardKey, false, false⟩ acquired.cache "https://idp.example.org" where
  standard := rfl
  filed := by
    rw [cache_acquired]
    exact isFiled_afterFetch
  works := by
    rw [cache_acquired, cache_afterFetch]
    exact .memory _ _
  file := by
    rw [cache_acquired, cache_afterFetch]
    simp [PersistentCache.slot, TableCache.slot]

/-- The state after the entity was cleared. -/
def disowned : ResolverState (Tally × Origin.Script) :=
  ((persisting.watched.clearEntity "https://idp.example.org").run acquired).2

/-- The entity was fetched, stored and kept. Once it is cleared nothing is left of it, and the next
query for it is another fetch. -/
theorem clears_acquired :
    acquired.store.find? "https://idp.example.org" ≠ none ∧
    disowned.store.find? "https://idp.example.org" = none ∧
    Forgets "https://idp.example.org" disowned ∧
    ((persisting.watched.resolve { entityId := some "https://idp.example.org" }).run
        disowned).2.origin.1.begun
      = ["https://idp.example.org", "https://idp.example.org"] := by
  have ready : acquired.lifecycle = .initialized := rfl
  have held : acquired.store.find? "https://idp.example.org" ≠ none := nofun
  have fetched : acquired.origin.1.begun = ["https://idp.example.org"] := rfl
  have order : ∀ p, persisting.persistence = some p →
      KeepsInOrder p acquired.cache "https://idp.example.org" := by
    rintro _ ⟨⟩
    exact keepsInOrder_acquired
  obtain ⟨-, ⟨unstored, -, -, -, unkept⟩, -, unasked, once⟩ :=
    clears_completely_and_locally persisting reachable_acquired ready order
  rw [← disowned] at unstored unkept unasked once
  refine ⟨held, unstored, (unkept rfl).2, ?_⟩
  rw [once disowned ((elsewhere .anyhow).refl disowned), unasked, fetched]

end Resolver

end Federation
