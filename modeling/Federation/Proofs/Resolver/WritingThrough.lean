/-
# What queries write through

What a query fetches and stores of an entity it writes to the persistent cache, one description
after another. All of them have the same key, so it is the last one that is found there afterwards.
What the query does about other entities, before and after that, leaves this alone, as long as their
keys are others.

## Main definitions

- `Resolver.Delivers`: a query fetches descriptions of an entity and caches them.
- `ResolverState.IsOrderly`: nothing is under way, what is held is sound, and the cache is clear.
- `ResolverState.HasWritten`: descriptions of an entity are held, and the last one is written.

## Main results

- `editedAt_resolveEntityId`: what a query for an entity does to the cache.
- `exists_stored_resolveEntityId`: what it does if it delivers descriptions of the entity.
- `hasWritten_resolve`: what a query leaves behind that delivers descriptions of an entity.
-/

import Federation.Proofs.Cache.Writing
import Federation.Proofs.Resolver.Absence
import Federation.Proofs.Resolver.Lookup
import Federation.Proofs.Resolver.Repeating
import Federation.Proofs.Resolver.Settled

namespace Federation

open Federation.Metadata Federation.Time Federation.Task ResolverState PersistentCache

/-- The key of an entity depends on its ID alone. -/
theorem standardKey_of_id {id : String} {e : Entity} (own : e.entityId = id) :
    standardKey e = standardKey (.ofId id) := by
  rw [standardKey, own]
  rfl

namespace Resolver

variable {ε : Type} {r : Resolver ε} {p : Persistence} {s m : ResolverState ε} {now : Instant}
  {id other : String} {query : Criteria} {entities es L : List Entity} {records : List CacheRecord}
  {ids : List String}

/-! ## What is done to the cache for one entity -/

/-- Descriptions are written to a cache that is clear, and nothing else is done. -/
theorem run_persist (r : Resolver ε) (persistent : r.persistence = some p)
    (standard : p.keyOf = standardKey) (clear : s.cache.IsClear) (es : List Entity) :
    (r.persist es).run s = (.ok (), { s with cache := s.cache.written es }) := by
  rw [persist, persistent]
  dsimp only
  induction es generalizing s with
  | nil => rfl
  | cons e rest ih =>
    obtain ⟨saved, clear', -⟩ := clear.save e
    have one : (persistOne p e).run s
        = (.ok (), { s with cache := (s.cache.save (standardKey e) e true).2 }) := by
      rw [persistOne, run_then, run_onCache_attempt, proceed_ok, standard, saved]
      rfl
    rw [forEach, run_bind, one, proceed_ok, ih clear']
    rfl

/-- Where records are made of descriptions, they are stored and written through, whatever is done
then. -/
theorem exists_run_store {α : Type} (r : Resolver ε) (persistent : r.persistence = some p)
    (standard : p.keyOf = standardKey) (clear : s.cache.IsClear)
    (recorded : r.policy.records now entities = .ok records)
    (k : List Entity → Task (ResolverState ε) α) :
    ∃ store negative,
      (r.insertRecords id entities now >>= fun stored => r.persist stored >>= fun _ => k stored).run s
        = (k (records.map (·.entity))).run { s with
            store := store
            negative := negative
            cache := s.cache.written (records.map (·.entity)) } ∧
      (records ≠ [] → store.find? id = some records) ∧
      ∀ other, other ≠ id → store.find? other = s.store.find? other := by
  rw [run_then, run_insertRecords r recorded, proceed_ok, run_then]
  by_cases none_made : records = []
  · rw [if_pos none_made, run_persist r persistent standard clear, proceed_ok]
    exact ⟨s.store, s.negative, rfl, fun some_made => absurd none_made some_made, fun _ _ => rfl⟩
  · let stored := { s with store := s.store.insert id records, negative := s.negative.erase id }
    have clear' : stored.cache.IsClear := clear
    rw [if_neg none_made, run_persist r persistent standard clear', proceed_ok]
    refine ⟨_, _, rfl, fun _ => ?_, fun other foreign => ?_⟩
    · rw [BackingStore.find?_insert, if_pos rfl]
      simp [none_made]
    · rw [BackingStore.find?_insert, if_neg foreign]

/-- All keys under which records of an entity are kept are its own. -/
theorem eq_standardKey_of_mem_keysOf (standard : p.keyOf = standardKey)
    (own : ∀ record ∈ records, record.entity.entityId = id) {key : String}
    (listed : key ∈ keysOf p id records) : key = standardKey (.ofId id) := by
  cases records with
  | nil => simpa [keysOf, standard] using listed
  | cons first rest =>
    rw [keysOf, List.mem_eraseDups, List.mem_map] at listed
    · obtain ⟨record, among, rfl⟩ := listed
      rw [standard]
      exact standardKey_of_id (own record among)
    · simp

/-- After a failure the copies of an entity are left or taken out. -/
theorem cache_acceptFailure (r : Resolver ε) (persistent : r.persistence = some p)
    (stale : Option (List CacheRecord)) (failure : Failure) (s : ResolverState ε) :
    ((r.acceptFailure id stale now failure).run s).2.cache = s.cache ∨
      ∃ records, stale = some records ∧ ((r.acceptFailure id stale now failure).run s).2.cache
        = s.cache.without (keysOf p id records) := by
  cases stale with
  | none => exact .inl rfl
  | some records =>
    rw [acceptFailure]
    cases r.policy.onFailure with
    | retain interval =>
      refine .inl ?_
      dsimp only
      rw [run_then]
      cases now.add? interval <;> rfl
    | evict =>
      refine .inr ⟨records, rfl, ?_⟩
      dsimp only
      rw [run_then, forget, run_change, proceed_ok, run_then, gaugeSize, run_change, proceed_ok,
        run_then, run_unpersist r persistent]
      rfl

section Editing

variable (r : Resolver ε) (persistent : r.persistence = some p) (standard : p.keyOf = standardKey)

include persistent standard

/-- The copies of an entity that are taken out because it is no more are at its key. -/
theorem editedAt_acceptAbsence {stale : Option (List CacheRecord)}
    (own : ∀ records, stale = some records → ∀ record ∈ records, record.entity.entityId = id) :
    EditedAt (standardKey (.ofId id)) s.cache ((r.acceptAbsence id stale now).run s).2.cache := by
  rw [cache_acceptAbsence r persistent]
  cases stale with
  | none => exact editedAt_self _ _
  | some records =>
    exact .without _ fun key => eq_standardKey_of_mem_keysOf standard (own records rfl)

/-- So are those that are taken out after a failure. -/
theorem editedAt_acceptFailure {stale : Option (List CacheRecord)} (failure : Failure)
    (own : ∀ records, stale = some records → ∀ record ∈ records, record.entity.entityId = id) :
    EditedAt (standardKey (.ofId id)) s.cache
      ((r.acceptFailure id stale now failure).run s).2.cache := by
  rcases cache_acceptFailure r persistent stale failure s with same | ⟨records, stale, same⟩
  · rw [same]
    exact editedAt_self _ _
  · rw [same]
    exact .without _ fun key => eq_standardKey_of_mem_keysOf standard (own records stale)

/-- Descriptions of an entity are written at its key. -/
theorem editedAt_acceptDescriptions (clear : s.cache.IsClear) (id : String)
    (entities : List Entity) (now : Instant) :
    EditedAt (standardKey (.ofId id)) s.cache
      ((r.acceptDescriptions id (ownOf id entities) now).run s).2.cache := by
  cases recorded : r.policy.records now (ownOf id entities) with
  | failed failure => exact absurd recorded (CachePolicy.records_ne_failed failure)
  | overflow =>
    rw [acceptDescriptions, insertRecords, recorded]
    exact editedAt_self _ _
  | ok records =>
    obtain ⟨store, negative, ran, -⟩ := exists_run_store r persistent standard clear recorded
      fun stored => r.gaugeSize >>= fun _ => pure stored
    rw [acceptDescriptions, ran]
    refine .written _ fun e listed => standardKey_of_id ?_
    rw [CachePolicy.map_entity_records recorded] at listed
    obtain ⟨d, valid, rfl⟩ := List.mem_map.1 listed
    exact (mem_ownOf.1 (List.mem_filter.1 valid).1).2

/-- What fetching an entity does to the cache is done at the key of the entity. -/
theorem editedAt_fetchEntity (clear : s.cache.IsClear)
    (own : ∀ record ∈ s.store.recordsOf id, record.entity.entityId = id) :
    EditedAt (standardKey (.ofId id)) s.cache ((r.fetchEntity id query).run s).2.cache := by
  have stale_own (records : List CacheRecord)
      (stale : (reading s id).store.find? id = some records) :
      ∀ record ∈ records, record.entity.entityId = id := by
    intro record listed
    rw [← BackingStore.recordsOf_eq_of_find? stale, recordsOf_reading] at listed
    obtain ⟨old, held, rfl⟩ := List.mem_map.1 listed
    exact own old held
  have untouched : (r.answeredState id query s).cache = s.cache := rfl
  rw [← untouched] at clear
  rw [run_fetchEntity_answered, ← untouched]
  split
  · exact editedAt_acceptFailure r persistent standard _ stale_own
  · exact editedAt_acceptAbsence r persistent standard stale_own
  · split
    · exact editedAt_acceptAbsence r persistent standard stale_own
    · exact editedAt_acceptDescriptions r persistent standard clear id _ _
  · exact editedAt_self _ _

end Editing

/-- So is what answering a query for an entity does to it. -/
theorem editedAt_resolveEntityId (r : Resolver ε) (id : String) (query : Criteria)
    (persistent : r.persistence = some p) (standard : p.keyOf = standardKey)
    (vacant : s.flights.AreVacant) (clear : s.cache.IsClear)
    (own : s.store.Satisfies CacheRecord.IsOwn) :
    EditedAt (standardKey (.ofId id)) s.cache ((r.resolveEntityId id query).run s).2.cache := by
  by_cases missing : Misses s id
  · obtain ⟨m, flights, asking, ran⟩ := exists_isAsking_run r query vacant missing
    have clear' : m.cache.IsClear := asking.cache ▸ clear
    rw [ran, ← asking.cache]
    refine editedAt_fetchEntity r persistent standard clear' fun record listed => ?_
    rw [BackingStore.recordsOf, asking.read] at listed
    cases found : s.store.find? id with
    | none =>
      rw [found] at listed
      cases listed
    | some records =>
      rw [found] at listed
      obtain ⟨old, held, rfl⟩ := List.mem_map.1 listed
      exact (own id old (by rwa [BackingStore.recordsOf_eq_of_find? found])).1
  · obtain ⟨metrics, ran⟩ := run_resolveEntityId_of_held r query missing
    rw [ran]
    exact editedAt_self _ _

/-- So a query for an entity leaves alone what stands under any other key. -/
theorem slot_resolve_of_ne (r : Resolver ε) (persistent : r.persistence = some p)
    (standard : p.keyOf = standardKey) (vacant : s.flights.AreVacant) (clear : s.cache.IsClear)
    (own : s.store.Satisfies CacheRecord.IsOwn) (ready : s.lifecycle = .initialized)
    (asked : query.entityId = some id) {key : String} (foreign : key ≠ standardKey (.ofId id)) :
    ((r.resolve query).run s).2.cache.slot key = s.cache.slot key := by
  obtain ⟨-, -, cache⟩ := run_resolve r ready asked
  rw [cache]
  have edited := editedAt_resolveEntityId r id query persistent standard vacant clear own
  exact (clear.edited edited).2 key foreign

end Resolver

/-! ## One entity among others -/

namespace ResolverState

variable {ε : Type}

/-- Nothing is under way, what is held is sound, and nothing is in the way in the cache. -/
structure IsOrderly (s : ResolverState ε) : Prop where
  vacant : s.flights.AreVacant
  sound : s.holdings.IsSound
  clear : s.cache.IsClear

/-- Descriptions of an entity, all of them valid, are held, and the last one is found in the
cache. -/
structure HasWritten (s : ResolverState ε) (id : String) (L : List Entity) : Prop where
  clear : s.cache.IsClear
  held : s.store.descriptionsOf id = L
  valid : ∀ e ∈ L, e.isValidAt s.now = true
  written : ∀ e ∈ L.getLast?, s.cache.slot (standardKey (.ofId id)) = some (.ofText e.canonical)

/-- What is written stays written when only something was counted. -/
theorem HasWritten.counted {s : ResolverState ε} {id : String} {L : List Entity}
    (written : s.HasWritten id L) (metrics : Metrics) :
    { s with metrics := metrics }.HasWritten id L :=
  ⟨written.clear, written.held, written.valid, written.written⟩

end ResolverState

namespace Resolver

variable {ε : Type} {r : Resolver ε} {p : Persistence} {s m : ResolverState ε} {now : Instant}
  {id other : String} {query : Criteria} {entities es L : List Entity} {records : List CacheRecord}
  {ids : List String}

/-- A query for an entity leaves things orderly. -/
theorem isOrderly_resolveEntityId (r : Resolver ε) (persistent : r.persistence = some p)
    (standard : p.keyOf = standardKey) (orderly : s.IsOrderly)
    (ends : ((r.resolveEntityId id query).run s).1 ≠ .overflow) :
    ((r.resolveEntityId id query).run s).2.IsOrderly := by
  have ran := runs_run (elsewhere .stopped) (r.resolveEntityId id query) s
  have moved := (ensures_resolveEntityId r orderly.vacant _ _ ran).1
  have vacant := vacating_resolveEntityId r s _ _ ran ends orderly.vacant
  have edited := editedAt_resolveEntityId r id query persistent standard
    orderly.vacant orderly.clear orderly.sound.own
  exact ⟨vacant, orderly.sound.course moved.course, (orderly.clear.edited edited).1⟩

/-- What is written of an entity stays written while another one is asked for. -/
theorem hasWritten_resolveEntityId_of_ne (r : Resolver ε) (persistent : r.persistence = some p)
    (standard : p.keyOf = standardKey) (orderly : s.IsOrderly) (written : s.HasWritten id L)
    (foreign : other ≠ id) (distinct : standardKey (.ofId other) ≠ standardKey (.ofId id)) :
    ((r.resolveEntityId other query).run s).2.HasWritten id L := by
  have ran := runs_run (elsewhere .stopped) (r.resolveEntityId other query) s
  have held := outside_resolveEntityId r s _ _ ran id foreign.symm
  have still : s.now = ((r.resolveEntityId other query).run s).2.now :=
    ((settled_allows other).keeps_resolveEntityId r s _ _ ran).now
  have edited := editedAt_resolveEntityId r other query persistent standard
    orderly.vacant orderly.clear orderly.sound.own
  obtain ⟨clear, others⟩ := orderly.clear.edited edited
  refine ⟨clear, ?_, fun e listed => still ▸ written.valid e listed, fun e last => ?_⟩
  · rw [← written.held, BackingStore.descriptionsOf, BackingStore.recordsOf, held]
    rfl
  · rw [others _ distinct.symm]
    exact written.written e last

/-- Descriptions that were stored and written to a cache that was clear. -/
theorem hasWritten_of_stored {c : PersistentCache} (clear : c.IsClear)
    (found : s.store.find? id = some records) (cache : s.cache = c.written (records.map (·.entity)))
    (own : ∀ record ∈ records, record.entity.entityId = id ∧ record.entity.isValidAt s.now = true) :
    s.HasWritten id (records.map (·.entity)) where
  clear := cache ▸ clear.written _
  held := by rw [BackingStore.descriptionsOf, BackingStore.recordsOf_eq_of_find? found]
  valid e listed := by
    obtain ⟨record, among, rfl⟩ := List.mem_map.1 listed
    exact (own record among).2
  written e last := by
    obtain ⟨before, split⟩ := List.getLast?_eq_some_iff.1 last
    have listed : e ∈ records.map (·.entity) := by simp [split]
    obtain ⟨record, among, rfl⟩ := List.mem_map.1 listed
    rw [cache, split, ← standardKey_of_id (own record among).1]
    exact slot_written_concat clear before record.entity

/-- The records of an entity are of descriptions that are its own and valid. -/
theorem own_of_mem_records {policy : CachePolicy}
    (recorded : policy.records now (ownOf id entities) = .ok records) :
    ∀ record ∈ records, record.entity.entityId = id ∧ record.entity.isValidAt now = true := by
  intro record made
  obtain ⟨e, listed, valid, same, -⟩ := CachePolicy.mem_records recorded made
  rw [same]
  exact ⟨(mem_ownOf.1 listed).2, valid⟩

/-- A query for an entity that delivers descriptions of it comes down to caching them. -/
theorem exists_run_acceptDescriptions (r : Resolver ε) (vacant : s.flights.AreVacant)
    (missing : Misses s id) (answered : r.answer query (r.counted s) = .ok (some entities))
    (described : ownOf id entities ≠ []) :
    ∃ m flights, m.now = s.now ∧ m.cache = s.cache ∧
      (r.resolveEntityId id query).run s
        = (((r.acceptDescriptions id (ownOf id entities) s.now).run m).1,
          { ((r.acceptDescriptions id (ownOf id entities) s.now).run m).2 with
            flights := flights }) := by
  obtain ⟨m, flights, asking, ran⟩ := exists_isAsking_run r query vacant missing
  have fetched := run_fetchEntity_answered r id query m
  rw [asking.answer, answered] at fetched
  dsimp only at fetched
  rw [if_neg described, asking.now] at fetched
  rw [fetched] at ran
  exact ⟨r.answeredState id query m, flights, asking.now, asking.cache, ran⟩

/-- Then they are stored and written. -/
theorem exists_stored_resolveEntityId (r : Resolver ε) (persistent : r.persistence = some p)
    (standard : p.keyOf = standardKey) (vacant : s.flights.AreVacant) (clear : s.cache.IsClear)
    (missing : Misses s id) (answered : r.answer query (r.counted s) = .ok (some entities))
    (recorded : r.policy.records s.now (ownOf id entities) = .ok records)
    (some_made : records ≠ []) :
    ∃ s', (r.resolveEntityId id query).run s = (.ok (records.map (·.entity)), s') ∧
      s'.now = s.now ∧ s'.store.find? id = some records ∧
      s'.cache = s.cache.written (records.map (·.entity)) := by
  have described : ownOf id entities ≠ [] := by
    intro foreign
    rw [foreign] at recorded
    exact some_made (Outcome.ok.inj recorded).symm
  obtain ⟨m, flights, now_m, cache_m, ran⟩ :=
    exists_run_acceptDescriptions r vacant missing answered described
  obtain ⟨store, negative, stored, found, -⟩ := exists_run_store r persistent standard
    (cache_m ▸ clear) recorded fun stored => r.gaugeSize >>= fun _ => pure stored
  rw [ran, acceptDescriptions, stored]
  exact ⟨_, rfl, now_m, found some_made, by rw [← cache_m]; rfl⟩

/-- So the last of them is written. -/
theorem hasWritten_resolveEntityId (r : Resolver ε) (persistent : r.persistence = some p)
    (standard : p.keyOf = standardKey) (vacant : s.flights.AreVacant) (clear : s.cache.IsClear)
    (missing : Misses s id) (answered : r.answer query (r.counted s) = .ok (some entities))
    (some_valid : validOf id entities s.now ≠ [])
    (ends : ((r.resolveEntityId id query).run s).1 ≠ .overflow) :
    ((r.resolveEntityId id query).run s).2.HasWritten id (validOf id entities s.now) := by
  cases recorded : r.policy.records s.now (ownOf id entities) with
  | failed failure => exact absurd recorded (CachePolicy.records_ne_failed failure)
  | overflow =>
    -- Without a record of what is valid the call would not end.
    have described : ownOf id entities ≠ [] := by
      intro foreign
      rw [validOf, foreign] at some_valid
      exact some_valid rfl
    obtain ⟨m, flights, -, -, ran⟩ :=
      exists_run_acceptDescriptions r vacant missing answered described
    rw [ran, acceptDescriptions, insertRecords, recorded] at ends
    exact absurd rfl ends
  | ok records =>
    have made : records.map (·.entity) = validOf id entities s.now :=
      CachePolicy.map_entity_records recorded
    have some_made : records ≠ [] := by
      rintro rfl
      exact some_valid made.symm
    obtain ⟨s', ran, still, found, cache⟩ := exists_stored_resolveEntityId r persistent standard
      vacant clear missing answered recorded some_made
    have own := own_of_mem_records recorded
    rw [← still] at own
    rw [ran, ← made]
    exact hasWritten_of_stored clear found cache own

/-! ## One query after another -/

/-- Queries for entities, one after another. -/
def resolveAll (r : Resolver ε) (query : Criteria) (ids : List String) :
    Task (ResolverState ε) (List (List Entity)) :=
  Task.collect ids fun id => r.resolveEntityId id (query.add (.entityId id))

theorem run_resolveEach (r : Resolver ε) (query : Criteria) (ids : List String)
    (s : ResolverState ε) :
    (r.resolveEach query ids).run s
      = (((r.resolveAll query ids).run s).1.map List.flatten, ((r.resolveAll query ids).run s).2) := by
  have parts : (r.resolveEach query ids).run s
      = proceed (fun found => pure found.flatten) ((r.resolveAll query ids).run s) := run_then _ _ _
  rw [parts]
  generalize (r.resolveAll query ids).run s = ran
  obtain ⟨outcome, m⟩ := ran
  cases outcome <;> rfl

/-- Queries leave things orderly. -/
theorem isOrderly_resolveAll (r : Resolver ε) (query : Criteria) (ids : List String)
    (persistent : r.persistence = some p) (standard : p.keyOf = standardKey)
    (orderly : s.IsOrderly) (ends : ((r.resolveAll query ids).run s).1 ≠ .overflow) :
    ((r.resolveAll query ids).run s).2.IsOrderly :=
  run_collect_induction
    (fun _ _ _ orderly ends => isOrderly_resolveEntityId r persistent standard orderly ends)
    orderly ends

/-- What is written of an entity stays written while others are asked for. -/
theorem hasWritten_resolveAll (r : Resolver ε) (query : Criteria)
    (persistent : r.persistence = some p) (standard : p.keyOf = standardKey)
    (orderly : s.IsOrderly) (written : s.HasWritten id L)
    (distinct : ∀ other ∈ ids, other ≠ id ∧ standardKey (.ofId other) ≠ standardKey (.ofId id))
    (ends : ((r.resolveAll query ids).run s).1 ≠ .overflow) :
    ((r.resolveAll query ids).run s).2.HasWritten id L := by
  have each (other : String) (listed : other ∈ ids) (m : ResolverState ε)
      (before : m.IsOrderly ∧ m.HasWritten id L)
      (ends : ((r.resolveEntityId other (query.add (.entityId other))).run m).1 ≠ .overflow) :
      ((r.resolveEntityId other (query.add (.entityId other))).run m).2.IsOrderly ∧
        ((r.resolveEntityId other (query.add (.entityId other))).run m).2.HasWritten id L := by
    obtain ⟨foreign, keyed⟩ := distinct other listed
    exact ⟨isOrderly_resolveEntityId r persistent standard before.1 ends,
      hasWritten_resolveEntityId_of_ne r persistent standard before.1 before.2 foreign keyed⟩
  exact (run_collect_induction each ⟨orderly, written⟩ ends).2

/-- What a query delivers of an entity is written, and stays written while others are asked for. -/
theorem hasWritten_resolveAll_cons (r : Resolver ε) (persistent : r.persistence = some p)
    (standard : p.keyOf = standardKey) (orderly : s.IsOrderly) (missing : Misses s id)
    (answered : r.answer (query.add (.entityId id)) (r.counted s) = .ok (some entities))
    (some_valid : validOf id entities s.now ≠ [])
    (distinct : ∀ other ∈ ids, other ≠ id ∧ standardKey (.ofId other) ≠ standardKey (.ofId id))
    (ends : ((r.resolveAll query (id :: ids)).run s).1 ≠ .overflow) :
    ((r.resolveAll query (id :: ids)).run s).2.HasWritten id (validOf id entities s.now) := by
  rw [resolveAll, Task.collect, run_bind] at ends ⊢
  have written := hasWritten_resolveEntityId r persistent standard orderly.vacant orderly.clear missing
    answered some_valid (ends_of_proceed ends)
  have orderly' := isOrderly_resolveEntityId r persistent standard orderly (ends_of_proceed ends)
  generalize (r.resolveEntityId id (query.add (.entityId id))).run s = ran at ends written orderly' ⊢
  obtain ⟨outcome, m⟩ := ran
  cases outcome with
  | failed failure => exact written
  | overflow => exact written
  | ok es =>
    rw [proceed_ok, run_bind] at ends ⊢
    have later := hasWritten_resolveAll r query persistent standard orderly' written distinct
      (ends_of_proceed ends)
    rw [resolveAll] at later
    generalize (Task.collect ids fun id => r.resolveEntityId id (query.add (.entityId id))).run m = ran
      at later ⊢
    obtain ⟨outcome, m'⟩ := ran
    cases outcome <;> exact later

/-! ## One group after another -/

/-- Caches the descriptions of one entity and writes them through. -/
def storeGroup (r : Resolver ε) (now : Instant) (group : String × List Entity) :
    Task (ResolverState ε) (List Entity) :=
  r.insertRecords group.1 group.2 now >>= fun stored => r.persist stored >>= fun _ => pure stored

/-- The group of an entity, all descriptions of which are its own, is stored and written. -/
theorem exists_run_storeGroup (r : Resolver ε) (persistent : r.persistence = some p)
    (standard : p.keyOf = standardKey) (clear : s.cache.IsClear)
    (ends : ((r.storeGroup now (id, ownOf id entities)).run s).1 ≠ .overflow) :
    ∃ records m, (r.storeGroup now (id, ownOf id entities)).run s
        = (.ok (records.map (·.entity)), m) ∧
      m.now = s.now ∧ m.cache = s.cache.written (records.map (·.entity)) ∧
      records.map (·.entity) = validOf id entities now ∧
      (∀ record ∈ records,
        record.entity.entityId = id ∧ record.entity.isValidAt now = true) ∧
      (records ≠ [] → m.store.find? id = some records) ∧
      ∀ other, other ≠ id → m.store.find? other = s.store.find? other := by
  cases recorded : r.policy.records now (ownOf id entities) with
  | failed failure => exact absurd recorded (CachePolicy.records_ne_failed failure)
  | overflow =>
    rw [storeGroup, insertRecords, recorded] at ends
    exact absurd rfl ends
  | ok records =>
    obtain ⟨store, negative, stored, found, others⟩ :=
      exists_run_store r persistent standard clear recorded pure
    exact ⟨records, _, stored, rfl, rfl, CachePolicy.map_entity_records recorded,
      own_of_mem_records recorded, found, others⟩

/-- What is valid in the group of an entity is written. -/
theorem hasWritten_storeGroup (r : Resolver ε) (persistent : r.persistence = some p)
    (standard : p.keyOf = standardKey) (clear : s.cache.IsClear)
    (some_valid : validOf id entities s.now ≠ [])
    (ends : ((r.storeGroup s.now (id, ownOf id entities)).run s).1 ≠ .overflow) :
    ((r.storeGroup s.now (id, ownOf id entities)).run s).2.HasWritten id
      (validOf id entities s.now) := by
  obtain ⟨records, m, ran, still, cache, valid, own, found, -⟩ :=
    exists_run_storeGroup r persistent standard clear ends
  have some_made : records ≠ [] := by
    rintro rfl
    exact some_valid valid.symm
  rw [ran, ← valid]
  exact hasWritten_of_stored clear (found some_made) cache (still ▸ own)

/-- It stays written when the group of another entity is stored. -/
theorem hasWritten_storeGroup_of_ne (r : Resolver ε) (persistent : r.persistence = some p)
    (standard : p.keyOf = standardKey) (written : s.HasWritten id L) (foreign : other ≠ id)
    (distinct : standardKey (.ofId other) ≠ standardKey (.ofId id))
    (ends : ((r.storeGroup now (other, ownOf other entities)).run s).1 ≠ .overflow) :
    ((r.storeGroup now (other, ownOf other entities)).run s).2.HasWritten id L := by
  obtain ⟨records, m, ran, still, cache, -, own, -, others⟩ :=
    exists_run_storeGroup r persistent standard written.clear ends
  have keyed : ∀ e ∈ records.map (·.entity), standardKey e ≠ standardKey (.ofId id) := by
    intro e listed
    obtain ⟨record, among, rfl⟩ := List.mem_map.1 listed
    rw [standardKey_of_id (own record among).1]
    exact distinct
  rw [ran]
  refine ⟨cache ▸ written.clear.written _, ?_, still ▸ written.valid, fun e last => ?_⟩
  · rw [← written.held, BackingStore.descriptionsOf, BackingStore.recordsOf, others id foreign.symm]
    rfl
  · rw [← written.written e last, cache]
    exact slot_written_of_ne written.clear keyed

/-- **Groups are stored one after another**: what is written of an entity is written when its group
has its turn, and stays written after that. -/
theorem hasWritten_storeGroups (r : Resolver ε) (persistent : r.persistence = some p)
    (standard : p.keyOf = standardKey) (some_valid : validOf id entities now ≠ [])
    {groups : List (String × List Entity)} (own : ∀ group ∈ groups, group.2 = ownOf group.1 entities)
    (unique : (groups.map (·.1)).Nodup)
    (distinct : ∀ group ∈ groups,
      standardKey (.ofId group.1) = standardKey (.ofId id) → group.1 = id)
    (clear : s.cache.IsClear) (still : s.now = now)
    (ahead : id ∈ groups.map (·.1) ∨ s.HasWritten id (validOf id entities now))
    (ends : ((Task.collect groups (r.storeGroup now)).run s).1 ≠ .overflow) :
    ((Task.collect groups (r.storeGroup now)).run s).2.HasWritten id (validOf id entities now) := by
  -- The induction is on the groups; the entity is either still to come or written already.
  induction groups generalizing s with
  | nil => exact ahead.resolve_left (by simp)
  | cons group rest ih =>
    obtain ⟨other, group⟩ := group
    obtain rfl : group = ownOf other entities := own (other, group) List.mem_cons_self
    rw [Task.collect, run_bind] at ends ⊢
    have ended := ends_of_proceed ends
    obtain ⟨records, m, stored, still', cache, -⟩ :=
      exists_run_storeGroup r persistent standard clear ended
    rw [List.map_cons, List.nodup_cons] at unique
    have ahead' : id ∈ rest.map (·.1) ∨ m.HasWritten id (validOf id entities now) := by
      by_cases same : other = id
      · subst same still
        have written := hasWritten_storeGroup r persistent standard clear some_valid ended
        rw [stored] at written
        exact .inr written
      · refine ahead.imp (fun listed => (List.mem_cons.1 listed).resolve_left (Ne.symm same))
          fun written => ?_
        have keyed := mt (distinct (other, ownOf other entities) List.mem_cons_self) same
        have stays := hasWritten_storeGroup_of_ne r persistent standard written same keyed ended
        rwa [stored] at stays
    rw [stored, proceed_ok, run_bind] at ends ⊢
    have later := ih (fun g listed => own g (List.mem_cons_of_mem _ listed)) unique.2
      (fun g listed => distinct g (List.mem_cons_of_mem _ listed)) (cache ▸ clear.written _)
      (still'.trans still) ahead' (ends_of_proceed ends)
    generalize (Task.collect rest (r.storeGroup now)).run m = ran at later ⊢
    obtain ⟨outcome, m'⟩ := ran
    cases outcome <;> exact later

/-- What is made of an answer is stored group by group, and then the size of the store is noted. -/
theorem exists_run_acceptAnswer (r : Resolver ε) (entities : List Entity)
    (ends : ((r.acceptAnswer entities now).run s).1 ≠ .overflow) :
    ((Task.collect (groupById entities) (r.storeGroup now)).run s).1 ≠ .overflow ∧
      ∃ metrics, ((r.acceptAnswer entities now).run s).2
        = { ((Task.collect (groupById entities) (r.storeGroup now)).run s).2 with
            metrics := metrics } := by
  have parts : (r.acceptAnswer entities now).run s
      = proceed (fun stored => r.gaugeSize >>= fun _ => pure stored.flatten)
          ((Task.collect (groupById entities) (r.storeGroup now)).run s) := run_then _ _ _
  rw [parts] at ends ⊢
  refine ⟨ends_of_proceed ends, ?_⟩
  generalize (Task.collect (groupById entities) (r.storeGroup now)).run s = ran
  obtain ⟨outcome, m⟩ := ran
  cases outcome <;> exact ⟨_, rfl⟩

/-- An answer that describes an entity validly is written. -/
theorem hasWritten_acceptAnswer (r : Resolver ε) (persistent : r.persistence = some p)
    (standard : p.keyOf = standardKey) (clear : s.cache.IsClear)
    (some_valid : validOf id entities s.now ≠ [])
    (distinct : ∀ other ∈ entities.map (·.entityId),
      standardKey (.ofId other) = standardKey (.ofId id) → other = id)
    (ends : ((r.acceptAnswer entities s.now).run s).1 ≠ .overflow) :
    ((r.acceptAnswer entities s.now).run s).2.HasWritten id (validOf id entities s.now) := by
  obtain ⟨finished, metrics, ran⟩ := exists_run_acceptAnswer r entities ends
  rw [ran]
  refine ResolverState.HasWritten.counted ?_ metrics
  refine hasWritten_storeGroups r persistent standard some_valid ?_ nodup_ids_groupById ?_ clear rfl
    (.inl ?_) finished
  · rintro ⟨other, group⟩ listed
    exact eq_ownOf_of_mem_groupById listed
  · intro group listed
    obtain ⟨e, described, same⟩ := mem_ids_groupById.1 (List.mem_map_of_mem listed)
    exact distinct group.1 (List.mem_map.2 ⟨e, described, same⟩)
  · obtain ⟨e, described, own, -⟩ := validOf_ne_nil_iff.1 some_valid
    exact mem_ids_groupById.2 ⟨e, described, own⟩

/-- A query without an ID that the origin answers comes down to what is made of the answer. -/
theorem exists_run_fetchSecondary (r : Resolver ε) (asks : r.asksSecondary = true)
    (answered : r.answer query s = .ok (some entities)) :
    ∃ m, m.now = s.now ∧ m.cache = s.cache ∧
      (r.fetchSecondary query).run s = (r.acceptAnswer entities s.now).run m := by
  let m := originPart.put s ((r.origin.fetch query).run (originPart.get s)).2
  have asked : (r.fetchAndFilter query s.now).run s = (.ok (some entities), m) :=
    Prod.ext answered (run_fetchAndFilter_snd r query s.now s)
  refine ⟨m, rfl, rfl, ?_⟩
  rw [asksSecondary] at asks
  rw [fetchSecondary, asks]
  show (Task.read (·.now) >>= fun now => r.fetchAndFilter query now >>= _).run s = _
  rw [run_then, run_read, proceed_ok, run_then, asked]
  rfl

/-! ## Any query -/

/-- The origin is asked for an entity and describes it, among others maybe. -/
structure Fetches (r : Resolver ε) (query : Criteria) (id : String) (s : ResolverState ε)
    (entities : List Entity) : Prop where
  missing : Misses s id
  answered : r.answer query (r.counted s) = .ok (some entities)

/-- What a query fetches and caches of an entity, and the entities that it asks the origin for or
that the answer describes. -/
inductive Delivers (r : Resolver ε) (query : Criteria) (s : ResolverState ε) (id : String) :
    List Entity → List String → Prop
  /-- A query for the entity. -/
  | asked {entities : List Entity} (asked : query.entityId = some id)
    (fetches : r.Fetches query id s entities) :
    Delivers r query s id (validOf id entities s.now) [id]
  /-- A query without an ID, for which the indexes find the entity. -/
  | found {entities : List Entity} {es : List (List Entity)} {before after : List String}
    {m : ResolverState ε}
    (unasked : query.entityId = none) (found : s.store.found query = before ++ id :: after)
    (past : (r.resolveAll query before).run s = (.ok es, m))
    (fetches : r.Fetches (query.add (.entityId id)) id m entities) :
    Delivers r query s id (validOf id entities m.now) (before ++ id :: after)
  /-- A query without an ID that the origin is asked, since the indexes find nothing. -/
  | searched {entities : List Entity} (unasked : query.entityId = none)
    (unfound : s.store.found query = []) (asks : r.asksSecondary = true)
    (answered : r.answer query s = .ok (some entities)) :
    Delivers r query s id (validOf id entities s.now) (entities.map (·.entityId))

/-- The entities that are found after one of them are others, and have other keys. -/
theorem foreign_of_nodup {before after : List String} (each_once : (before ++ id :: after).Nodup)
    (distinct : ∀ other ∈ before ++ id :: after,
      standardKey (.ofId other) = standardKey (.ofId id) → other = id) :
    ∀ other ∈ after, other ≠ id ∧ standardKey (.ofId other) ≠ standardKey (.ofId id) := by
  intro other listed
  have foreign : other ≠ id := by
    rintro rfl
    exact (List.nodup_cons.1 (List.nodup_append.1 each_once).2.1).1 listed
  exact ⟨foreign, fun clash => foreign (distinct other (by simp [listed]) clash)⟩

/-- **What a query leaves behind that delivers descriptions of an entity**: they are held, all of
them valid, and the last of them stands under the key of the entity in the cache. -/
theorem hasWritten_resolve (r : Resolver ε) (persistent : r.persistence = some p)
    (standard : p.keyOf = standardKey) (orderly : s.IsOrderly) (ready : s.lifecycle = .initialized)
    (delivers : r.Delivers query s id L ids) (some_delivered : L ≠ [])
    (distinct : ∀ other ∈ ids, standardKey (.ofId other) = standardKey (.ofId id) → other = id)
    (ends : ((r.resolve query).run s).1 ≠ .overflow) :
    ((r.resolve query).run s).2.HasWritten id L := by
  cases delivers with
  | asked asked fetches =>
    obtain ⟨metrics, ran⟩ := exists_run_resolve r ready asked
    rw [ran] at ends ⊢
    have finished := mt Outcome.map_eq_overflow.2 ends
    exact (hasWritten_resolveEntityId r persistent standard orderly.vacant orderly.clear
      fetches.missing fetches.answered some_delivered finished).counted metrics
  | @found entities es before after m unasked found past fetches =>
    obtain ⟨metrics, ran⟩ := exists_run_resolve_of_no_id r ready unasked
    have some_found : s.store.found query ≠ [] := by simp [found]
    have each_once : (s.store.found query).Nodup := BackingStore.nodup_found
    rw [found] at each_once
    -- No entity that is asked for later has the key of this one.
    have others := foreign_of_nodup each_once distinct
    -- The entities before were resolved without overflow, and left the state in order.
    have orderly' : m.IsOrderly := by
      have kept := isOrderly_resolveAll r query before persistent standard orderly
      rw [past] at kept
      exact kept (by simp)
    have split : (r.resolveAll query (before ++ id :: after)).run s = _ :=
      run_collect_append past (id :: after)
    rw [ran, run_resolveSecondary, if_neg some_found, found, run_resolveEach, split] at ends ⊢
    have finished : ((r.resolveAll query (id :: after)).run m).1 ≠ .overflow := by
      simpa only [resolveAll, ne_eq, Outcome.map_eq_overflow] using ends
    exact (hasWritten_resolveAll_cons r persistent standard orderly' fetches.missing
      fetches.answered some_delivered others finished).counted metrics
  | @searched entities unasked unfound asks answered =>
    obtain ⟨metrics, ran⟩ := exists_run_resolve_of_no_id r ready unasked
    rw [ran, run_resolveSecondary, if_pos unfound] at ends ⊢
    have finished := mt Outcome.map_eq_overflow.2 ends
    obtain ⟨m, now_m, cache_m, searching⟩ := exists_run_fetchSecondary r asks answered
    rw [← now_m] at some_delivered searching ⊢
    rw [searching] at finished ⊢
    exact (hasWritten_acceptAnswer r persistent standard (cache_m ▸ orderly.clear) some_delivered
      distinct finished).counted metrics

end Resolver

end Federation
