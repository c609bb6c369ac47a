/-
# Entities that are gone at the origin

When the origin is asked for an entity and does not describe it, the copy in the persistent
cache goes with the records in the store. There is one exception: of an entity that is not in
the store any longer, because its records were evicted, the copy stays, and the next warm start
brings back an entity that the origin has withdrawn.

## Main definitions

- `Resolver.Denies`: the origin is asked for an entity and does not describe it.
- `Resolver.Forgets`: an entity is not in the persistent cache, and no warm start brings it
  back.

## Main results

- `cache_of_denial`: the persistent cache after a query that is denied.
- `forgets_denied_iff`: when an entity is forgotten that is gone at the origin.
- `evicted_entity_returns`: the exception, at work.
-/

import Federation.Proofs.Metadata.Canonical
import Federation.Proofs.Resolver.Fetching
import Federation.Proofs.Resolver.Loading
import Federation.Proofs.Resolver.Soundness

namespace Federation.Resolver

open Federation.Metadata Federation.Time Federation.Task ResolverState

variable {ε α : Type} {clock : Drift Instant} {s : ResolverState ε} {now : Instant} {id : String}
  {query : Criteria} {p : Persistence}

/-! ## Taking copies out -/

/-- Running alone, an operation on the persistent cache is that operation. -/
theorem run_onCache (f : PersistentCache → Except Failure α × PersistentCache)
    (s : ResolverState ε) :
    (onCache f).run s = (.ofExcept (f s.cache).1, { s with cache := (f s.cache).2 }) := by
  rw [onCache, run_then, run_read, proceed_ok, run_then, run_pauseIf, proceed_ok, run_then,
    run_perform, proceed_ok, run_ofExcept]

theorem run_onCache_attempt (f : PersistentCache → Except Failure α × PersistentCache)
    (s : ResolverState ε) :
    (onCache f).attempt.run s = (.ok (f s.cache).1, { s with cache := (f s.cache).2 }) := by
  rw [run_attempt, run_onCache]
  cases (f s.cache).1 <;> rfl

theorem run_unpersist (r : Resolver ε) (persistent : r.persistence = some p)
    (records : List CacheRecord) (s : ResolverState ε) :
    (r.unpersist id records).run s
      = (.ok (), { s with cache := s.cache.without (keysOf p id records) }) := by
  rw [unpersist, persistent]
  dsimp only
  generalize keysOf p id records = keys
  induction keys generalizing s with
  | nil => rfl
  | cons key rest ih =>
    rw [forEach, run_bind, run_then, run_onCache_attempt, proceed_ok, run_pure, proceed_ok, ih]
    rfl

/-- The copies of an entity that is absent are taken out if there are records of it. -/
theorem cache_acceptAbsence (r : Resolver ε) (persistent : r.persistence = some p)
    (stale : Option (List CacheRecord)) (s : ResolverState ε) :
    ((r.acceptAbsence id stale now).run s).2.cache =
      match stale with
      | none => s.cache
      | some records => s.cache.without (keysOf p id records) := by
  -- The marker is set, or the end of its time is out of range, after the copies were taken out.
  have marked (m : ResolverState ε) : ((r.acceptAbsence id none now).run m).2.cache = m.cache := by
    rw [acceptAbsence]
    cases r.policy.negative with
    | none => rfl
    | some duration => cases reached : now.add? duration <;> simp [reached, run_then] <;> rfl
  cases stale with
  | none => exact marked s
  | some records =>
    have ran : (r.acceptAbsence id (some records) now).run s =
        proceed (fun _ => r.acceptAbsence id none now) ((forget id >>= fun _ =>
          r.gaugeSize >>= fun _ => r.unpersist id records).run s) := by
      rw [← run_then]
      rfl
    rw [ran, run_then, forget, run_change, proceed_ok, run_then, gaugeSize, run_change, proceed_ok,
      run_unpersist r persistent, proceed_ok, marked]

/-! ## Queries for an entity that is gone -/

/-- The origin is asked for an entity and does not describe it: it has no document, or one in
which the entity does not occur. -/
def Denies (r : Resolver ε) (query : Criteria) (id : String) (s : ResolverState ε) : Prop :=
  ∃ found, r.answer query (r.counted s) = .ok found ∧ ownOf id (found.getD []) = []

/-- The keys of an entity do not depend on when its records were used. -/
theorem keysOf_touch (p : Persistence) (records : List CacheRecord) :
    keysOf p id (records.map (.touch now)) = keysOf p id records := by
  cases records with
  | nil => rfl
  | cons record rest =>
    rw [List.map_cons, keysOf, keysOf, List.map_cons, List.map_map, List.map_cons]
    · rfl
    · simp
    · simp

/-- **The persistent cache after a query that is denied**: the keys of the records that are held
of the entity are taken out of it, and if none is held nothing changes. -/
theorem cache_of_denial (r : Resolver ε) (vacant : s.flights.AreVacant)
    (ready : s.lifecycle = .initialized) (persistent : r.persistence = some p)
    (asked : query.entityId = some id) (missing : Misses s id) (denied : r.Denies query id s) :
    ((r.resolve query).run s).2.cache =
      match s.store.find? id with
      | none => s.cache
      | some records => s.cache.without (keysOf p id records) := by
  obtain ⟨found, answered, foreign⟩ := denied
  obtain ⟨-, -, kept⟩ := run_resolve r ready asked
  obtain ⟨m, asking, -, -, fetched⟩ := exists_isAsking r query vacant missing
  have answered := asking.answer.trans answered
  obtain ⟨m', -, uncached, ran⟩ := run_fetchEntity r id query m
  have absent : (r.fetchEntity id query).run m
      = (r.acceptAbsence id ((reading m id).store.find? id) m.now).run m' := by
    rw [ran, answered]
    cases found with
    | none => rfl
    | some entities => exact if_pos foreign
  rw [kept, fetched, absent, cache_acceptAbsence r persistent, find?_reading, asking.read,
    uncached, asking.cache]
  cases s.store.find? id with
  | none => rfl
  | some records => simp only [Option.map_some, keysOf_touch]

/-- No copy of an entity is kept, so that no warm start brings it back: not that of this resolver
nor that of another one with the same cache, if the filters of its warm start give no entity another
ID, as those of this library do not. Whatever may happen during it but that the entity is brought
back by other means, it is not in the store after the pass, however that comes to an end. -/
structure Forgets (id : String) (s : ResolverState ε) : Prop where
  unkept : s.cache.Lacks id
  never : ∀ (r : Resolver ε) (t t' : ResolverState ε) (outcome : Outcome Nat),
    r.warmFilters.KeepsIds → t.cache = s.cache → t.store.find? id = none →
      r.loadCache.Runs (unreturning id) t outcome t' → t'.store.find? id = none

/-- What is not kept is not brought back. -/
theorem forgets_of_lacks (unkept : s.cache.Lacks id) : Forgets id s where
  unkept := unkept
  never r t t' outcome honest same absent ran := by
    have gone : t.IsGone id := ⟨absent, same ▸ unkept⟩
    exact (ensures_gone_loadCache r honest gone outcome t' ran).1.unstored

/-- The keys of records of an entity are that of the entity, where keys are standard. -/
theorem standardKey_mem_keysOf (standard : p.keyOf = standardKey) {records : List CacheRecord}
    {record : CacheRecord} (listed : record ∈ records) :
    standardKey record.entity ∈ keysOf p id records := by
  cases records with
  | nil => cases listed
  | cons first rest =>
    have own : standardKey record.entity ∈ (first :: rest).map fun r => p.keyOf r.entity :=
      List.mem_map.2 ⟨record, listed, by rw [standard]⟩
    exact List.mem_eraseDups.2 own

/-- **When an entity is forgotten that is gone at the origin.** After a query for an entity on
which the origin was asked and did not describe it, no copy of the entity is left and no warm
start brings it back, if and only if something was held of the entity before the query, or no
copy of it was kept in the first place. -/
theorem forgets_denied_iff (r : Resolver ε) (reached : Reachable r clock s)
    (ready : s.lifecycle = .initialized) (persistent : r.persistence = some p)
    (standard : p.keyOf = standardKey) (working : s.cache.isFailing = false)
    (filed : s.cache.IsFiled) (asked : query.entityId = some id) (missing : Misses s id)
    (denied : r.Denies query id s) :
    Forgets id ((r.resolve query).run s).2 ↔
      s.store.descriptionsOf id ≠ [] ∨ s.cache.Lacks id := by
  have cached := cache_of_denial r reached.vacant ready persistent asked missing denied
  have sound := reached.isSound
  constructor
  · intro forgotten
    have unkept := forgotten.unkept
    cases found : s.store.find? id with
    | none =>
      rw [cached, found] at unkept
      exact .inr unkept
    | some records =>
      -- No entity is in the store without a record.
      refine .inl fun none_held => ?_
      rw [BackingStore.descriptionsOf, BackingStore.recordsOf_eq_of_find? found,
        List.map_eq_nil_iff] at none_held
      exact sound.inhabited id (none_held ▸ found)
  · intro held_or_lacking
    refine forgets_of_lacks ?_
    rw [cached]
    cases found : s.store.find? id with
    | none =>
      rcases held_or_lacking with held | lacking
      · rw [BackingStore.descriptionsOf, BackingStore.recordsOf, found] at held
        exact absurd rfl held
      · exact lacking
    | some records =>
      cases records with
      | nil => exact absurd found (sound.inhabited id)
      | cons record rest =>
        -- What is held of the entity describes it, so that its key is taken out.
        have own : record.entity.entityId = id := by
          refine (sound.own id record ?_).1
          rw [holdings, BackingStore.recordsOf_eq_of_find? found]
          exact List.mem_cons_self
        have among : standardKey record.entity ∈ keysOf p id (record :: rest) :=
          standardKey_mem_keysOf standard List.mem_cons_self
        exact filed.lacks_without working own among

/-! ### At work -/

/-- The rehearsed resolver with a persistent cache. -/
def persisting : Resolver Origin.Script :=
  { rehearsed .standard with persistence := some ⟨standardKey, false, false⟩ }

/-- An entity of which nothing but its ID is known. -/
def published : Entity := .ofId "https://idp.example.org"

/-- The same with a cache duration of more seconds than there are in any span. -/
def overlong : Entity := { published with cacheSeconds := some 10000000000000000 }

/-- The rehearsal after the entity was fetched, of which a copy is kept. -/
def afterFetch : ResolverState Origin.Script :=
  ((persisting.resolve { entityId := some "https://idp.example.org" }).run
    (rehearsal "https://idp.example.org" (.ok (some (.entity published))) ⟨0, 0⟩)).2

/-- The same nine hours later. The record has expired, and the origin has no such entity. -/
def afterWithdrawal : ResolverState Origin.Script :=
  later afterFetch "https://idp.example.org" (.ok none) ⟨32400, 0⟩

/-- The same after a cleanup. -/
def afterEviction : ResolverState Origin.Script := (persisting.cleanup.run afterWithdrawal).2

theorem reachable_persisting (answer : Except Failure (Option Document)) :
    Reachable persisting .forward (rehearsal "https://idp.example.org" answer ⟨0, 0⟩) := by
  have ran : (Call.prepare.task persisting).Runs (elsewhere .forward)
      (.start [] (.memory (.empty false)) (answering "https://idp.example.org" answer) ⟨0, 0⟩)
      (.ok ()) (rehearsal "https://idp.example.org" answer ⟨0, 0⟩) := Task.runs_of_run_eq rfl
  exact ⟨_, _, _, _, .single (.call .prepare _ ran (by simp))⟩

theorem reachable_afterFetch : Reachable persisting .forward afterFetch :=
  (reachable_persisting _).next (.resolve _ _ nofun)

theorem reachable_afterWithdrawal : Reachable persisting .forward afterWithdrawal := by
  have ticked : (⟨0, 0⟩ : Instant) ≤ ⟨32400, 0⟩ := by decide
  exact reachable_afterFetch.next (.elsewhere ⟨ticked, rfl, rfl, rfl, rfl, rfl, rfl⟩)

theorem cache_afterFetch : afterFetch.cache
    = .memory ⟨⟨some (Keyed.empty.insert (standardKey published) published.canonical)⟩, false, []⟩ :=
  rfl

theorem load_published : Entity.load published.canonical = .ok published :=
  Entity.load_canonical (e := published) ⟨nofun, nofun, nofun⟩

theorem isFiled_afterFetch : afterFetch.cache.IsFiled := by
  intro key e kept
  rw [cache_afterFetch, PersistentCache.keeps_memory_iff] at kept
  obtain ⟨rows, text, stored, found, read⟩ := TableCache.load_eq_some_iff.1 kept.2
  obtain rfl := Option.some_inj.1 stored
  rw [Keyed.get?_insert] at found
  split at found
  · rename_i same
    obtain rfl := Option.some_inj.1 found
    rw [load_published] at read
    obtain rfl := Except.ok.inj read
    exact same
  · cases found

theorem denies_afterWithdrawal :
    persisting.Denies { entityId := some "https://idp.example.org" } "https://idp.example.org"
      afterWithdrawal :=
  ⟨none, rfl, rfl⟩

theorem misses_afterWithdrawal : Misses afterWithdrawal "https://idp.example.org" := by
  refine ⟨?_, fun until_ marked => by cases marked⟩
  show ∀ record ∈ [CacheRecord.mk published ⟨28800, 0⟩ ⟨0, 0⟩], record.expiration ≤ ⟨32400, 0⟩
  decide

/-- Where the expired record is still in the store, the copy goes with it. -/
theorem forgets_denied_afterWithdrawal :
    Forgets "https://idp.example.org"
      ((persisting.resolve { entityId := some "https://idp.example.org" }).run
        afterWithdrawal).2 := by
  refine (forgets_denied_iff persisting reachable_afterWithdrawal rfl rfl rfl rfl
    isFiled_afterFetch rfl misses_afterWithdrawal denies_afterWithdrawal).2 (.inl ?_)
  show [published] ≠ []
  simp

/-- Where the expired record was evicted before, the copy stays, and the next warm start brings
the entity back. -/
theorem evicted_entity_returns :
    let query : Criteria := { entityId := some "https://idp.example.org" }
    let s' := ((persisting.resolve query).run afterEviction).2
    Reachable persisting .forward afterEviction ∧ afterEviction.lifecycle = .initialized ∧
      afterEviction.cache.IsFiled ∧ afterEviction.cache.isFailing = false ∧
      Misses afterEviction "https://idp.example.org" ∧
      persisting.Denies query "https://idp.example.org" afterEviction ∧
      ((persisting.resolve query).run afterEviction).1 = .ok [] ∧
      s'.cache.Keeps (standardKey published) published ∧
      s'.store.descriptionsOf "https://idp.example.org" = [] ∧
      (persisting.loadCache.run s').2.store.descriptionsOf "https://idp.example.org"
        = [published] := by
  intro query s'
  have reached : Reachable persisting .forward afterEviction := by
    have next : Next persisting .forward afterWithdrawal
        ((Call.cleanup.task persisting).run afterWithdrawal).2 := .run _ _ nofun
    exact reachable_afterWithdrawal.next next
  have emptied : afterEviction.store.recordsOf "https://idp.example.org" = [] := rfl
  have missing : Misses afterEviction "https://idp.example.org" := by
    refine ⟨?_, fun until_ marked => by cases marked⟩
    rw [emptied]
    exact fun record held => by cases held
  have denied : persisting.Denies { entityId := some "https://idp.example.org" }
      "https://idp.example.org" afterEviction := ⟨none, rfl, rfl⟩
  have answered : ((persisting.resolve { entityId := some "https://idp.example.org" }).run
      afterEviction).1 = .ok [] := rfl
  -- Nothing was held of the entity, so its copy is where it was.
  have kept : s'.cache = afterEviction.cache :=
    cache_of_denial persisting reached.vacant rfl rfl rfl missing denied
  have copied : afterFetch.cache.Keeps (standardKey published) published := by
    rw [cache_afterFetch, PersistentCache.keeps_memory_iff]
    exact ⟨rfl, TableCache.load_eq_some_iff.2
      ⟨_, _, rfl, by rw [Keyed.get?_insert, if_pos rfl], load_published⟩⟩
  refine ⟨reached, rfl, isFiled_afterFetch, rfl, missing, denied, answered, ?_,
    by decide +kernel, by decide +kernel⟩
  rw [kept]
  exact copied

end Federation.Resolver
