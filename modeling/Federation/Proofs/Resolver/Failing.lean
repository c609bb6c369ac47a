/-
# Queries that fail

A query for an entity fails if the origin fails or a filter does. The failure is met before anything
is done about the entity, so nothing is undone then, with one exception: under a policy that evicts,
expired records of the entity go, from the store, from the indexes and from the persistent cache.
Under a policy that retains, expired records are served instead and the query does not fail.

What goes from the persistent cache is what stands under the keys of the expired records. If the
cache refuses to take such a key out that is passed over. And if the keys of another entity are the
same, its copy goes too. What else goes is a flight for the entity that nobody is aboard of any
longer, since the call was cut short that was. All this is so by design, and all is shown here.

## Main results

- `exists_flights_run`: a query that misses, told exactly.
- `run_acceptFailure_of_evict`: what a failure does under a policy that evicts.
- `failure_leaves_others`: all that a query that fails leaves as it was, and what it does not.
- `failure_may_leave_or_take_more`: a copy that is left, a copy of another entity that goes, and a
  flight that goes.
-/

import Federation.Proofs.Cache.Removing
import Federation.Proofs.Resolver.Absence
import Federation.Proofs.Store.Removal
import Federation.Proofs.Task.Conduct

namespace Federation

open Federation.Metadata Federation.Time Federation.Task ResolverState

/-- A task that may not fail does not. -/
theorem Task.Within.run_ne_failed {σ α : Type} {allowed : σ → σ → Prop} {leeway : Prop}
    {t : Task σ α} (h : t.Within allowed False leeway) (s : σ) (failure : Failure) :
    (t.run s).1 ≠ .failed failure :=
  h.runs_ne_failed (runs_run Drift.free t s) failure

namespace Resolver

variable {ε : Type} {clock : Drift Instant} {s : ResolverState ε} {now : Instant} {id : String}
  {query : Criteria} {p : Persistence} {records : List CacheRecord} {leeway : Prop}

/-! ## What cannot fail -/

/-- Anything may change. -/
abbrev Anything (_ _ : ResolverState ε) : Prop := True

theorem unfailing_ofOutcome {α : Type} {x : Outcome α} (sure : ∀ failure, x ≠ .failed failure) :
    (ofOutcome x : Task (ResolverState ε) α).Within Anything False True := by
  cases x with
  | ok a => exact trivial
  | failed failure => exact absurd rfl (sure failure)
  | overflow => exact trivial

theorem unfailing_attempt {α : Type} (t : Task (ResolverState ε) α) :
    t.attempt.Within Anything False True :=
  (within_free t).attempt

/-- An access to the persistent cache that may fail does not meet anything out of range. -/
theorem unfailing_onCache {α : Type} (f : PersistentCache → Except Failure α × PersistentCache) :
    (onCache f : Task (ResolverState ε) α).attempt.Within Anything False leeway := by
  refine Within.attempt ((within_read (fun _ => trivial) _).bind fun pausing => ?_)
  refine (within_pauseIf pausing).bind fun _ => ?_
  exact (within_perform fun _ => trivial).bind within_ofExcept

theorem unfailing_gaugeSize (r : Resolver ε) : r.gaugeSize.Within Anything False leeway :=
  within_change fun _ => trivial

theorem unfailing_persist (r : Resolver ε) (entities : List Entity) :
    (r.persist entities).Within Anything False leeway := by
  rw [persist]
  cases r.persistence with
  | none => exact within_pure ()
  | some p =>
    refine within_forEach (fun e => (unfailing_onCache _).bind fun answer => ?_) entities
    cases answer with
    | ok => exact within_pure ()
    | error failure => exact within_change fun _ => trivial

theorem unfailing_unpersist (r : Resolver ε) (records : List CacheRecord) :
    (r.unpersist id records).Within Anything False True := by
  rw [unpersist]
  cases r.persistence with
  | none => exact within_pure ()
  | some p => exact within_forEach (fun _ => (unfailing_attempt _).bind fun _ => within_pure ()) _

/-- That an entity is absent is no failure. -/
theorem unfailing_acceptAbsence (r : Resolver ε) (stale : Option (List CacheRecord)) :
    (r.acceptAbsence id stale now).Within Anything False True := by
  have marked : (r.acceptAbsence id none now).Within Anything False True := by
    rw [acceptAbsence]
    cases r.policy.negative with
    | none => exact within_pure []
    | some duration =>
      have sure (failure : Failure) : Outcome.ofOption (now.add? duration) ≠ .failed failure := by
        cases now.add? duration <;> intro same <;> cases same
      refine (unfailing_ofOutcome sure).bind fun until_ => ?_
      exact (within_change fun _ => trivial).bind fun _ => within_pure []
  cases stale with
  | none => exact marked
  | some records =>
    have forgotten : (forget id : Task (ResolverState ε) Unit).Within Anything False True :=
      within_change fun _ => trivial
    refine forgotten.bind fun _ => ?_
    refine (unfailing_gaugeSize r).bind fun _ => ?_
    exact (unfailing_unpersist r records).bind fun _ => marked

/-- Neither is that descriptions are not valid any longer. -/
theorem unfailing_insertRecords (r : Resolver ε) (entities : List Entity) :
    (r.insertRecords id entities now).Within Anything False True := by
  refine (unfailing_ofOutcome CachePolicy.records_ne_failed).bind fun records => ?_
  split
  · exact within_pure []
  · exact (within_change fun _ => trivial).bind fun _ => within_pure _

/-- Descriptions are taken in whatever the persistent cache says. -/
theorem unfailing_acceptDescriptions (r : Resolver ε) (entities : List Entity) :
    (r.acceptDescriptions id entities now).Within Anything False True := by
  refine (unfailing_insertRecords r entities).bind fun stored => ?_
  refine (unfailing_persist r stored).bind fun _ => ?_
  exact (unfailing_gaugeSize r).bind fun _ => within_pure stored

/-! ## A query that misses -/

/-- A query that misses comes down to fetching the entity in the state before it, but for what was
counted and read and for the flight that is under way. -/
theorem exists_flights_run (r : Resolver ε) (query : Criteria) (vacant : s.flights.AreVacant)
    (missing : Misses s id) :
    ∃ m flights, m.store.remove id = s.store.remove id ∧
      (s.store.find? id = none → m.store = s.store) ∧
      m.store.find? id = (s.store.find? id).map (List.map (.touch s.now)) ∧
      m.negative = s.negative ∧ m.cache = s.cache ∧
      (r.resolveEntityId id query).run s
        = (((r.fetchEntity id query).run m).1,
            { ((r.fetchEntity id query).run m).2 with flights := flights }) := by
  obtain ⟨m, flights, rfl | rfl, ran⟩ := exists_run_of_misses r query vacant missing
  · exact ⟨_, flights, BackingStore.remove_get s.store id s.now,
      fun absent => BackingStore.get_of_absent absent s.now, (isAsking_missed r).read, rfl, rfl, ran⟩
  · have twice : (reading (r.flying s id) id).store = ((s.store.get id s.now).2.get id s.now).2 :=
      rfl
    refine ⟨_, flights, ?_, fun absent => ?_, (isAsking_flying r).read, rfl, rfl, ran⟩
    · rw [twice, BackingStore.remove_get, BackingStore.remove_get]
    · rw [twice, BackingStore.get_of_absent absent, BackingStore.get_of_absent absent]

/-- It takes out a flight for the entity that was left behind, if calls take turns. -/
theorem flights_resolveEntityId_of_miss (r : Resolver ε) (vacant : s.flights.AreVacant)
    (missing : Misses s id) (ends : ((r.resolveEntityId id query).run s).1 ≠ .overflow) :
    ((r.resolveEntityId id query).run s).2.flights.all =
      if r.policy.singleFlight then s.flights.all.filter (·.entityId != id) else s.flights.all := by
  rw [run_resolveEntityId_of_miss r missing] at ends ⊢
  cases turns : r.policy.singleFlight with
  | false =>
    have ran := runs_run (elsewhere .anyhow) (r.fetchEntity id query) (r.missed s id)
    have grounded := (grounded_allows id).keeps_fetchEntity r _ _ _ ran
    exact congrArg Flights.all grounded
  | true =>
    rw [turns] at ends
    have ran := runs_run (elsewhere .anyhow) (r.fetchInTurn id query s.now) (r.missed s id)
    have landed := flights_fetchInTurn (s := r.missed s id) r vacant ran ends
    exact landed

/-! ## A failure -/

/-- The persistent cache without the copies of some records, if there is such a cache. -/
def withdrawn (r : Resolver ε) (id : String) (records : List CacheRecord) (c : PersistentCache) :
    PersistentCache :=
  match r.persistence with
  | none => c
  | some p => c.without (keysOf p id records)

/-- Without expired records, a failure changes nothing. -/
theorem run_acceptFailure_of_none (r : Resolver ε) (failure : Failure) :
    (r.acceptFailure id none now failure).run s = (.failed failure, s) := rfl

/-- Under a policy that evicts, a failure takes out expired records. -/
theorem run_acceptFailure_of_evict (r : Resolver ε) (evicts : r.policy.onFailure = .evict)
    (failure : Failure) :
    (r.acceptFailure id (some records) now failure).run s
      = (.failed failure,
          { s with
            store := s.store.remove id
            metrics := s.metrics.set (.storedEntities r.id) (s.store.remove id).size
            cache := r.withdrawn id records s.cache }) := by
  rw [acceptFailure, evicts, withdrawn]
  dsimp only
  rw [run_then, forget, run_change, proceed_ok, run_then, gaugeSize, run_change, proceed_ok,
    run_then]
  cases persistent : r.persistence with
  | none =>
    rw [unpersist, persistent]
    rfl
  | some p =>
    rw [run_unpersist r persistent]
    rfl

/-- Under a policy that retains, expired records prevent a failure. -/
theorem acceptFailure_of_retain (r : Resolver ε) {interval : Span}
    (retains : r.policy.onFailure = .retain interval) (failure other : Failure) :
    ((r.acceptFailure id (some records) now failure).run s).1 ≠ .failed other := by
  rw [acceptFailure, retains]
  dsimp only
  cases now.add? interval <;> intro same <;> cases same

/-- What a fetch that fails leaves behind. -/
theorem fetchEntity_of_failed (r : Resolver ε) {failure : Failure}
    (failed : ((r.fetchEntity id query).run s).1 = .failed failure) :
    let s' := ((r.fetchEntity id query).run s).2
    s'.negative = s.negative ∧
      match s.store.find? id with
      | none => s'.store = s.store ∧ s'.cache = s.cache
      | some records => r.policy.onFailure = .evict ∧ s'.store = s.store.remove id ∧
          s'.cache = r.withdrawn id records s.cache := by
  rw [run_fetchEntity_answered] at failed ⊢
  generalize r.answer query s = answered at failed ⊢
  rcases answered with found | unanswered | _
  · -- What the origin answers is taken in without a failure.
    cases found with
    | none => exact absurd failed ((unfailing_acceptAbsence r _).run_ne_failed _ _)
    | some entities =>
      dsimp only at failed
      split at failed
      · exact absurd failed ((unfailing_acceptAbsence r _).run_ne_failed _ _)
      · exact absurd failed ((unfailing_acceptDescriptions r _).run_ne_failed _ _)
  · dsimp only at failed ⊢
    rw [find?_reading] at failed ⊢
    cases held : s.store.find? id with
    | none =>
      rw [Option.map_none, run_acceptFailure_of_none]
      exact ⟨rfl, BackingStore.get_of_absent held s.now, rfl⟩
    | some records =>
      rw [held] at failed
      rw [Option.map_some] at failed ⊢
      -- Stale descriptions are returned where they are retained, so that the call has not failed.
      cases policy : r.policy.onFailure with
      | retain interval => exact absurd failed (acceptFailure_of_retain r policy _ _)
      | evict =>
        rw [run_acceptFailure_of_evict r policy]
        refine ⟨rfl, rfl, BackingStore.remove_get s.store id s.now, ?_⟩
        show r.withdrawn id (records.map (.touch s.now)) s.cache = _
        rw [withdrawn, withdrawn]
        simp only [keysOf_touch]
  · cases failed

/-- What a query that fails leaves, told by the store and the persistent cache as they were. -/
theorem left_of_failed (r : Resolver ε) (reached : Reachable r clock s)
    (ready : s.lifecycle = .initialized) (asked : query.entityId = some id) {failure : Failure}
    (failed : ((r.resolve query).run s).1 = .failed failure) :
    let ran := (r.resolve query).run s
    ran.2.negative = s.negative ∧
      ran.2.flights.all = (if r.policy.singleFlight then s.flights.all.filter (·.entityId != id)
        else s.flights.all) ∧
      match s.store.find? id with
      | none => ran.2.store = s.store ∧ ran.2.cache = s.cache
      | some records => r.policy.onFailure = .evict ∧ ran.2.store = s.store.remove id ∧
          ran.2.cache = r.withdrawn id records s.cache := by
  intro ran
  obtain ⟨metrics, resolved⟩ := exists_run_resolve r ready asked
  -- A query that is answered from the store does not fail.
  have missing : Misses s id := by
    by_contra held
    obtain ⟨metrics', answered⟩ := run_resolveEntityId_of_held r query held
    rw [resolved, answered] at failed
    cases failed
  have ends : ((r.resolveEntityId id query).run s).1 ≠ .overflow := by
    intro overflowed
    rw [resolved, overflowed] at failed
    cases failed
  have landed := flights_resolveEntityId_of_miss r reached.vacant missing ends
  obtain ⟨m, flights, removed, absent, found, negative, cache, fetched⟩ :=
    exists_flights_run r query reached.vacant missing
  refine ⟨?_, (congrArg (·.2.flights.all) resolved).trans landed, ?_⟩
  -- The flight changes nothing but the flights and times of use, and the fetch in it has failed.
  all_goals
    rw [resolved, fetched] at failed
    rw [show ran = _ from resolved, fetched]
    have failed := Outcome.map_eq_failed.1 failed
    obtain ⟨negative', rest⟩ := fetchEntity_of_failed r failed
  · exact negative'.trans negative
  · rw [found] at rest
    cases held : s.store.find? id with
    | none =>
      rw [held] at rest
      exact ⟨rest.1.trans (absent held), rest.2.trans cache⟩
    | some records =>
      rw [held] at rest
      refine ⟨rest.1, rest.2.1.trans removed, rest.2.2.trans ?_⟩
      rw [withdrawn, withdrawn, cache]
      simp only [keysOf_touch]

/-- **What a query that fails leaves as it was.** A query for an entity that fails leaves all
markers as they were, and all flights but that of the entity: if there is one, a call was cut short
that was aboard, and it goes where calls take turns. If no record of the entity was in the store, the
store and the persistent cache are as they were, down to the instants of last use. Otherwise the
policy evicts: the records of the entity are gone, the indexes find what they found without it, and
all other records are as they were; and of the persistent cache, if there is one, all that stood
under the keys of the records is gone that the cache does not refuse to take out, and all else
stands where it stood. Under a policy that retains, a query for an entity of which there are records
does not fail. -/
theorem failure_leaves_others (r : Resolver ε) (reached : Reachable r clock s)
    (ready : s.lifecycle = .initialized) (asked : query.entityId = some id) :
    let ran := (r.resolve query).run s
    (∀ failure, ran.1 = .failed failure →
      ran.2.negative = s.negative ∧
      ran.2.flights.all = (if r.policy.singleFlight then s.flights.all.filter (·.entityId != id)
        else s.flights.all) ∧
      (s.store.find? id = none → ran.2.store = s.store ∧ ran.2.cache = s.cache) ∧
      ∀ records, s.store.find? id = some records →
        r.policy.onFailure = .evict ∧
        (∀ other, ran.2.store.find? other
          = if other = id then none else s.store.find? other) ∧
        (∀ query, ran.2.store.lookup query
          = (s.store.lookup query).map (List.filter (· != id))) ∧
        (∀ name key, ran.2.store.tables.entitiesFor name key
          = (s.store.tables.entitiesFor name key).filter (· != id)) ∧
        (r.persistence = none → ran.2.cache = s.cache) ∧
        ∀ p, r.persistence = some p → ∀ key,
          (key ∈ keysOf p id records ∧ s.cache.Removes key → ran.2.cache.slot key = none) ∧
          (¬ (key ∈ keysOf p id records ∧ s.cache.Removes key) →
            ran.2.cache.slot key = s.cache.slot key)) ∧
    ∀ interval, r.policy.onFailure = .retain interval → s.store.find? id ≠ none →
      ∀ failure, ran.1 ≠ .failed failure := by
  intro ran
  constructor
  · intro failure failed
    obtain ⟨negative, flights, rest⟩ := left_of_failed r reached ready asked failed
    refine ⟨negative, flights, fun absent => ?_, fun records held => ?_⟩
    · rw [absent] at rest
      exact rest
    · rw [held] at rest
      obtain ⟨evicts, store, cache⟩ := rest
      rw [store, cache]
      refine ⟨evicts, fun other => ?_, reached.isFiled.lookup_remove id,
        reached.isFiled.entitiesFor_remove id, fun none_ => ?_, fun p persistent key => ?_⟩
      · rw [BackingStore.find?_remove]
      · rw [withdrawn, none_]
      · rw [withdrawn, persistent]
        exact PersistentCache.slot_without
  · intro interval retains held failure failed
    obtain ⟨records, found⟩ := Option.ne_none_iff_exists'.1 held
    obtain ⟨-, -, rest⟩ := left_of_failed r reached ready asked failed
    rw [found] at rest
    rw [retains] at rest
    cases rest.1

/-- Under a policy that evicts, a query that misses fails whenever the origin or a filter does. -/
theorem run_resolve_of_failure_of_evict (r : Resolver ε) (vacant : s.flights.AreVacant)
    (ready : s.lifecycle = .initialized) (asked : query.entityId = some id)
    (missing : Misses s id) (evicts : r.policy.onFailure = .evict) {failure : Failure}
    (unanswered : r.answer query (r.counted s) = .failed failure) :
    ((r.resolve query).run s).1 = .failed failure := by
  obtain ⟨resolved, -, -⟩ := run_resolve r ready asked
  obtain ⟨m, asking, fetched, -, -⟩ := exists_isAsking r query vacant missing
  have unanswered := asking.answer.trans unanswered
  rw [resolved, fetched, run_fetchEntity_answered, unanswered]
  dsimp only
  cases (reading m id).store.find? id with
  | none => rw [run_acceptFailure_of_none, Outcome.map_eq_failed]
  | some records => rw [run_acceptFailure_of_evict r evicts, Outcome.map_eq_failed]

/-! ### At work -/

/-- A persisting resolver that evicts what expired when it cannot be fetched again. -/
def evicting (keyOf : Entity → String) : Resolver Origin.Script :=
  { rehearsed { CachePolicy.standard with onFailure := .evict } with
    persistence := some ⟨keyOf, false, false⟩ }

/-- The rehearsal after the entity was fetched, of which a copy is kept. -/
def kept (keyOf : Entity → String) : ResolverState Origin.Script :=
  (((evicting keyOf).resolve { entityId := some "https://idp.example.org" }).run
    (rehearsal "https://idp.example.org" (.ok (some (.entity published))) ⟨0, 0⟩)).2

/-- A state nine hours after the start. The record has expired, and the origin fails. -/
def unreachable (s : ResolverState Origin.Script) : ResolverState Origin.Script :=
  later s "https://idp.example.org" (.error (.fetchFailed "no answer")) ⟨32400, 0⟩

/-- A state after the entity was asked for. -/
def askedFor (keyOf : Entity → String) (s : ResolverState Origin.Script) :
    ResolverState Origin.Script :=
  (((evicting keyOf).resolve { entityId := some "https://idp.example.org" }).run s).2

theorem reachable_evicting (keyOf : Entity → String) (answer : Except Failure (Option Document)) :
    Reachable (evicting keyOf) .forward (rehearsal "https://idp.example.org" answer ⟨0, 0⟩) := by
  have ran : (Call.prepare.task (evicting keyOf)).Runs (elsewhere .forward)
      (.start [] (.memory (.empty false)) (answering "https://idp.example.org" answer) ⟨0, 0⟩)
      (.ok ()) (rehearsal "https://idp.example.org" answer ⟨0, 0⟩) := Task.runs_of_run_eq rfl
  exact ⟨_, _, _, _, .single (.call .prepare _ ran (by simp))⟩

theorem reachable_kept : Reachable (evicting standardKey) .forward (kept standardKey) :=
  (reachable_evicting _ _).next (.resolve _ _ nofun)

theorem reachable_unreachable : Reachable (evicting standardKey) .forward
    (unreachable (kept standardKey)) := by
  have ticked : (⟨0, 0⟩ : Instant) ≤ ⟨32400, 0⟩ := by decide
  exact reachable_kept.next (.elsewhere ⟨ticked, rfl, rfl, rfl, rfl, rfl, rfl⟩)

theorem cache_unreachable : (unreachable (kept standardKey)).cache = .memory
    ⟨⟨some (Keyed.empty.insert (standardKey published) published.canonical)⟩, false, []⟩ :=
  rfl

theorem store_unreachable :
    (unreachable (kept standardKey)).store.find? "https://idp.example.org"
      = some [⟨published, ⟨28800, 0⟩, ⟨0, 0⟩⟩] :=
  rfl

theorem misses_unreachable :
    Misses (unreachable (kept standardKey)) "https://idp.example.org" := by
  refine ⟨?_, fun until_ marked => by cases marked⟩
  rw [BackingStore.recordsOf_eq_of_find? store_unreachable]
  show ∀ record ∈ [CacheRecord.mk published ⟨28800, 0⟩ ⟨0, 0⟩], record.expiration ≤ ⟨32400, 0⟩
  decide

/-- Whatever the cache holds and refuses, the query fails. -/
theorem run_unreachable (cache : PersistentCache) :
    (((evicting standardKey).resolve { entityId := some "https://idp.example.org" }).run
      { unreachable (kept standardKey) with cache := cache }).1
      = .failed (.resolutionFailed "{entityID=https://idp.example.org}"
          (.fetchFailed "no answer")) := by
  let m : ResolverState Origin.Script := { unreachable (kept standardKey) with cache := cache }
  have missing : Misses m "https://idp.example.org" :=
    ⟨misses_unreachable.expired, misses_unreachable.unmarked⟩
  have unanswered : (evicting standardKey).answer { entityId := some "https://idp.example.org" }
      ((evicting standardKey).counted m)
      = .failed (.resolutionFailed "{entityID=https://idp.example.org}"
          (.fetchFailed "no answer")) := rfl
  have vacant : m.flights.AreVacant := reachable_unreachable.vacant
  have ready : m.lifecycle = .initialized := rfl
  exact run_resolve_of_failure_of_evict _ vacant ready rfl missing rfl unanswered

/-- The expired record goes, and so does its copy. -/
theorem failure_evicts_unreachable :
    let s' := askedFor standardKey (unreachable (kept standardKey))
    s'.store.find? "https://idp.example.org" = none ∧
      s'.cache.slot (standardKey published) = none := by
  dsimp only
  have failed : (((evicting standardKey).resolve
      { entityId := some "https://idp.example.org" }).run (unreachable (kept standardKey))).1
      = .failed _ := run_unreachable _
  obtain ⟨-, -, -, left⟩ := (failure_leaves_others (evicting standardKey) reachable_unreachable
    rfl rfl).1 _ failed
  obtain ⟨-, unstored, -, -, -, unkept⟩ := left _ store_unreachable
  rw [← askedFor] at unstored unkept
  have removes : (unreachable (kept standardKey)).cache.Removes (standardKey published) := by
    rw [cache_unreachable]
    exact PersistentCache.removes_memory_iff.2 ⟨rfl, TableCache.removes_iff.2 nofun⟩
  exact ⟨unstored _, (unkept _ rfl _).1 ⟨List.mem_cons_self, removes⟩⟩

/-! A cache may refuse to take a copy out. -/

/-- The expired record again, with a cache that takes nothing out. -/
def refusing : ResolverState Origin.Script :=
  let s := unreachable (kept standardKey)
  { s with cache := s.cache.setFailing [.remove] }

theorem reachable_refusing : Reachable (evicting standardKey) .forward refusing :=
  reachable_unreachable.next (.elsewhere ⟨Instant.le_refl _, rfl, rfl, rfl, rfl, rfl, rfl⟩)

theorem cache_refusing : refusing.cache = .memory
    ⟨⟨some (Keyed.empty.insert (standardKey published) published.canonical)⟩, false, [.remove]⟩ :=
  rfl

theorem cache_askedFor_refusing : (askedFor standardKey refusing).cache = refusing.cache := rfl

/-! Copies of several entities may have one key. -/

/-- A key that all entities have in common. -/
def commonKey (_ : Entity) : String := "federation"

/-- A service provider of which nothing but its ID is known. -/
def partner : Entity := .ofId "https://sp.example.org"

/-- A state nine hours after the start, when the origin answers for the service provider. -/
def partnered : ResolverState Origin.Script :=
  later (kept commonKey) "https://sp.example.org" (.ok (some (.entity partner))) ⟨32400, 0⟩

/-- The expired record of one entity, with a cache in which a copy of the other has replaced its
copy. -/
def sharing : ResolverState Origin.Script :=
  unreachable
    (((evicting commonKey).resolve { entityId := some "https://sp.example.org" }).run partnered).2

theorem reachable_sharing : Reachable (evicting commonKey) .forward sharing := by
  have ticked : (⟨0, 0⟩ : Instant) ≤ ⟨32400, 0⟩ := by decide
  have held : Reachable (evicting commonKey) .forward (kept commonKey) :=
    (reachable_evicting _ _).next (.resolve _ _ nofun)
  have met : Reachable (evicting commonKey) .forward partnered :=
    held.next (.elsewhere ⟨ticked, rfl, rfl, rfl, rfl, rfl, rfl⟩)
  have fetched := met.next (.resolve _ { entityId := some "https://sp.example.org" } nofun)
  exact fetched.next (.elsewhere ⟨Instant.le_refl _, rfl, rfl, rfl, rfl, rfl, rfl⟩)

theorem cache_sharing : sharing.cache
    = .memory ⟨⟨some (Keyed.empty.insert "federation" partner.canonical)⟩, false, []⟩ :=
  rfl

theorem cache_askedFor_sharing :
    (askedFor commonKey sharing).cache = .memory ⟨⟨some .empty⟩, false, []⟩ := rfl

/-! A call may be cut short and leave its flight behind. -/

/-- The rehearsal before the description is fetched. -/
def overlongAhead : ResolverState Origin.Script :=
  rehearsal "https://idp.example.org" (.ok (some (.entity overlong))) ⟨0, 0⟩

/-- The description could not be kept when it was fetched, and the origin fails now. -/
def abandoned : ResolverState Origin.Script :=
  later (askedFor standardKey overlongAhead).unwound "https://idp.example.org"
    (.error (.fetchFailed "no answer")) ⟨0, 0⟩

theorem overflow_overlongAhead : (((evicting standardKey).resolve
    { entityId := some "https://idp.example.org" }).run overlongAhead).1 = .overflow := by
  decide

theorem reachable_abandoned : Reachable (evicting standardKey) .forward abandoned := by
  have ahead : Reachable (evicting standardKey) .forward overlongAhead := reachable_evicting _ _
  have cut : Reachable (evicting standardKey) .forward
      (askedFor standardKey overlongAhead).unwound := ahead.next (.cut _ _ overflow_overlongAhead)
  exact cut.next (.elsewhere ⟨Instant.le_refl _, rfl, rfl, rfl, rfl, rfl, rfl⟩)

theorem flights_abandoned : abandoned.flights.all = [.new "https://idp.example.org"] := by decide

/-- A copy that the cache does not take out stays after the record is gone. Where entities have one
key, the copy of an entity of which there is a live record goes with the record of another. And the
flight that a call left behind goes when the next one fails. -/
theorem failure_may_leave_or_take_more :
    let query : Criteria := { entityId := some "https://idp.example.org" }
    (Reachable (evicting standardKey) .forward refusing ∧ refusing.lifecycle = .initialized ∧
      (∃ failure, (((evicting standardKey).resolve query).run refusing).1 = .failed failure) ∧
      refusing.store.find? "https://idp.example.org" ≠ none ∧
      (askedFor standardKey refusing).store.find? "https://idp.example.org" = none ∧
      (askedFor standardKey refusing).cache.slot (standardKey published)
        = some (.ofText published.canonical)) ∧
    (Reachable (evicting commonKey) .forward sharing ∧ sharing.lifecycle = .initialized ∧
      (∃ failure, (((evicting commonKey).resolve query).run sharing).1 = .failed failure) ∧
      sharing.store.find? "https://sp.example.org" ≠ none ∧
      sharing.cache.slot (commonKey partner) = some (.ofText partner.canonical) ∧
      (askedFor commonKey sharing).cache.slot (commonKey partner) = none) ∧
    Reachable (evicting standardKey) .forward abandoned ∧ abandoned.lifecycle = .initialized ∧
      (∃ failure, (((evicting standardKey).resolve query).run abandoned).1 = .failed failure) ∧
      abandoned.flights.all ≠ [] ∧ (askedFor standardKey abandoned).flights.all = [] := by
  intro query
  have held : refusing.store.find? "https://idp.example.org" ≠ none := nofun
  have gone : (askedFor standardKey refusing).store.find? "https://idp.example.org" = none := rfl
  have shared : sharing.store.find? "https://sp.example.org" ≠ none := nofun
  have unanswered : ∃ failure, (((evicting standardKey).resolve
      { entityId := some "https://idp.example.org" }).run refusing).1 = .failed failure :=
    ⟨_, run_unreachable refusing.cache⟩
  have failed : ∃ failure, (((evicting commonKey).resolve
      { entityId := some "https://idp.example.org" }).run sharing).1 = .failed failure := ⟨_, rfl⟩
  have unreached : ∃ failure, (((evicting standardKey).resolve
      { entityId := some "https://idp.example.org" }).run abandoned).1 = .failed failure := ⟨_, rfl⟩
  have left : abandoned.flights.all ≠ [] := by simp [flights_abandoned]
  have landed : (askedFor standardKey abandoned).flights.all = [] := by decide
  refine ⟨⟨reachable_refusing, rfl, unanswered, held, gone, ?_⟩,
    ⟨reachable_sharing, rfl, failed, shared, ?_, ?_⟩,
    reachable_abandoned, rfl, unreached, left, landed⟩
  · rw [cache_askedFor_refusing, cache_refusing]
    simp [PersistentCache.slot, TableCache.slot_insert]
  · rw [cache_sharing, commonKey]
    simp [PersistentCache.slot, TableCache.slot_insert]
  · rw [cache_askedFor_sharing]
    rfl

end Resolver

end Federation
