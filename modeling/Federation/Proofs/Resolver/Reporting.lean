/-
# What a resolver reports of itself

Of its own state a resolver reports two things: the number of entities in its store, as a
gauge, and what came of every query, as counters. Most of what it does changes neither the
number nor the report: it reads the store, takes turns, asks the origin, keeps copies in the
persistent cache and counts in other families. Only taking something in or out changes the
number.

So whatever may be said of how the state moves while a query is answered has to be shown for
the parts that take something in or out. If the rest is overlooked, it holds for the whole
query.

## Main definitions

* `Unreported` — neither the number of entities nor the report has changed
* `Overlooks` — a drift lets pass what is unreported
* `TakesIn` — besides, a drift lets pass whatever takes in what came of a fetch

## Main results

* `TakesIn.keeps_resolveEntityId` — such a drift is kept to by a query for an entity
* `TakesIn.restores_resolve` — and by a query of any kind that returns, if counting it is let pass
  as well
-/

import Federation.Proofs.Metrics.Recording
import Federation.Proofs.Store.Records
import Federation.Resolver.Lifecycle

namespace Federation.Resolver

open Federation.Metadata Federation.Time Federation.Task ResolverState

variable {ε α : Type} {r : Resolver ε} {s s' : ResolverState ε} {now : Instant} {id : String}
  {query : Criteria}

/-- There are as many entities in the store as before, and what is reported of the resolver is
the same. -/
structure Unreported (r : Resolver ε) (s s' : ResolverState ε) : Prop where
  size : s'.store.size = s.store.size
  gauge : s'.metrics.gauge? (.storedEntities r.id) = s.metrics.gauge? (.storedEntities r.id)
  resolutions : ∀ outcome,
    s'.metrics.value (.resolution r.id outcome) = s.metrics.value (.resolution r.id outcome)

theorem unreported_of_metrics (size : s'.store.size = s.store.size)
    (same : s'.metrics = s.metrics) : Unreported r s s' :=
  ⟨size, by rw [same], fun _ => by rw [same]⟩

/-! ## What is not reported -/

theorem unreported_read (f : ResolverState ε → α) :
    (Task.read f).Within (Unreported r) True True :=
  within_read (fun _ => unreported_of_metrics rfl rfl) f

theorem unreported_fail (failure : Failure) :
    (Task.fail failure : Task (ResolverState ε) α).Within (Unreported r) True True :=
  trivial

theorem unreported_count {c : Counter} (other : ∀ outcome, c ≠ .resolution r.id outcome) :
    (ResolverState.count c : Task (ResolverState ε) Unit).Within (Unreported r) True True := by
  apply within_change
  intro s
  refine ⟨rfl, rfl, fun outcome => ?_⟩
  exact Metrics.value_count_of_ne (Ne.symm (other outcome))

theorem unreported_stamp (kind : String) :
    (r.stamp kind now).Within (Unreported r) True True := by
  apply within_change
  intro s
  refine ⟨rfl, ?_, fun outcome => rfl⟩
  simp [Metrics.gauge?_set]

theorem unreported_requireInitialized : r.requireInitialized.Within (Unreported r) True True := by
  apply (unreported_read _).bind
  intro lifecycle
  cases lifecycle with
  | initialized => exact within_pure ()
  | fresh | destroyed => exact unreported_fail _

theorem unreported_recordsOf :
    (recordsOf id now : Task (ResolverState ε) _).Within (Unreported r) True True :=
  within_perform fun s => unreported_of_metrics (s.store.size_get id now) rfl

theorem unreported_liveDescriptions :
    (liveDescriptions id now : Task (ResolverState ε) _).Within (Unreported r) True True := by
  apply unreported_recordsOf.bind
  intro found
  split
  · exact within_pure none
  · split <;> exact within_pure _

theorem unreported_staleDescriptions :
    (staleDescriptions id now : Task (ResolverState ε) _).Within (Unreported r) True True := by
  apply unreported_recordsOf.bind
  intro found
  split <;> exact within_pure _

theorem unreported_onCache (f : PersistentCache → Except Failure α × PersistentCache) :
    (onCache f : Task (ResolverState ε) α).Within (Unreported r) True True := by
  apply (unreported_read _).bind
  intro pausing
  apply (within_pauseIf pausing).bind
  intro _
  apply Within.bind
  · exact within_perform fun s => unreported_of_metrics rfl rfl
  · exact within_ofExcept

theorem unreported_persist (entities : List Entity) :
    (r.persist entities).Within (Unreported r) True True := by
  rw [persist]
  cases r.persistence with
  | none => exact within_pure ()
  | some p =>
    refine within_forEach (fun e => (unreported_onCache _).attempt.bind fun saved => ?_) entities
    cases saved with
    | ok => exact within_pure ()
    | error failure => exact unreported_count (by simp)

theorem unreported_unpersist (records : List CacheRecord) :
    (r.unpersist id records).Within (Unreported r) True True := by
  rw [unpersist]
  cases r.persistence with
  | none => exact within_pure ()
  | some p =>
    exact within_forEach (fun _ => (unreported_onCache _).attempt.bind fun _ => within_pure ()) _

theorem unreported_of_fetches {t : Task (OriginScope ε) α}
    (fetches : t.Within Origin.Fetches True True) :
    (t.on originPart).Within (Unreported r) True True := by
  apply fetches.on originPart
  intro whole part fetched
  exact ⟨rfl, fetched.gauge _, fun outcome => fetched.value _ (by simp)⟩

theorem unreported_fetchAndFilter (records : r.origin.RecordsFetches) :
    (r.fetchAndFilter query now).Within (Unreported r) True True := by
  apply (unreported_of_fetches (records.fetch query)).attempt.bind
  intro answer
  split
  · exact unreported_fail _
  · exact within_pure none
  · split
    · exact within_pure _
    · split
      · exact unreported_fail _
      · exact within_pure _

/-- That an entity is absent is remembered without a report. -/
theorem unreported_acceptAbsence_none :
    (r.acceptAbsence id none now).Within (Unreported r) True True := by
  rw [acceptAbsence]
  cases r.policy.negative with
  | none => exact within_pure []
  | some duration =>
    apply (within_ofOutcome _).bind
    intro until_
    apply Within.bind
    · exact within_change fun s => unreported_of_metrics rfl rfl
    · exact fun _ => within_pure []

theorem unreported_retain (until_ : Instant) :
    (Task.change fun (s : ResolverState ε) =>
      { s with store := (s.store.extendExpiration id until_).2 }).Within (Unreported r) True True :=
  within_change fun s => unreported_of_metrics (s.store.size_extendExpiration id until_) rfl

/-! ## Queries in a drift

A query is answered within any drift that overlooks what is not reported, if what it takes in
and out stays within the drift as well. -/

/-- Whatever is not reported is within a drift, and so is how the world moves. -/
structure Overlooks (r : Resolver ε) (world wider : Drift (ResolverState ε)) : Prop where
  below : world.Below wider
  unreported : ∀ s s', Unreported r s s' → wider.rel s s'

variable {world wider : Drift (ResolverState ε)}

theorem Overlooks.keeps {t : Task (ResolverState ε) α} (overlooks : Overlooks r world wider)
    (h : t.Within (Unreported r) True True) : t.Keeps world wider :=
  h.keeps overlooks.below overlooks.unreported

theorem Overlooks.flights (overlooks : Overlooks r world wider) (s : ResolverState ε)
    (flights : Flights) : wider.rel s { s with flights := flights } :=
  overlooks.unreported s _ (unreported_of_metrics rfl rfl)

/-- So is taking in whatever came of asking the origin. What it answered to a query without an ID is
taken in one entity after another, so that it matters there whether all of them were. -/
structure TakesIn (r : Resolver ε) (world wider : Drift (ResolverState ε)) : Prop
    extends Overlooks r world wider where
  records : r.origin.RecordsFetches
  absence : ∀ id stale now, (r.acceptAbsence id stale now).Keeps world wider
  descriptions : ∀ id entities now, (r.acceptDescriptions id entities now).Keeps world wider
  failure : ∀ id stale now failure, (r.acceptFailure id stale now failure).Keeps world wider
  answer : ∀ entities now, (r.acceptAnswer entities now).Restores world wider

namespace TakesIn

variable (takes : TakesIn r world wider)

include takes

theorem keeps_fetchEntity : (r.fetchEntity id query).Keeps world wider := by
  apply (takes.keeps (unreported_read _)).bind
  intro now
  apply (takes.keeps unreported_recordsOf).bind
  intro stale
  apply (takes.keeps (unreported_fetchAndFilter takes.records)).attempt.bind
  intro answer
  split
  · exact takes.failure id stale now _
  · exact takes.absence id stale now
  · split
    · exact takes.absence id stale now
    · exact takes.descriptions id _ now

theorem keeps_fetchUnlessCached : (r.fetchUnlessCached id query).Keeps world wider := by
  apply (takes.keeps (unreported_read _)).bind
  intro now
  apply (takes.keeps unreported_liveDescriptions).bind
  intro live
  split
  · exact keeps_pure _
  · apply (takes.keeps (unreported_read _)).bind
    intro absent
    split
    · exact keeps_pure []
    · exact takes.keeps_fetchEntity

theorem keeps_fetchHolding (ticket : Ticket) :
    (r.fetchHolding ticket id query).Keeps world wider := by
  apply takes.keeps_fetchUnlessCached.attempt.bind
  intro result
  apply (keeps_change takes.below fun s => takes.flights s _).bind
  exact fun _ => keeps_ended _

theorem keeps_fly (ticket : Ticket) : (r.fly ticket id query now).Keeps world wider := by
  apply (keeps_perform takes.below fun s => takes.flights s _).bind
  intro isHolding
  split
  · exact takes.keeps_fetchHolding ticket
  · apply (takes.keeps unreported_staleDescriptions).bind
    intro stale
    split
    · exact keeps_pure _
    · apply (keeps_change takes.below fun s => takes.flights s _).bind
      intro _
      exact (keeps_waitFor _).bind fun _ => takes.keeps_fetchHolding ticket

theorem keeps_fetchInTurn : (r.fetchInTurn id query now).Keeps world wider := by
  apply (keeps_perform takes.below fun s => takes.flights s _).bind
  intro ticket
  apply (takes.keeps_fly ticket).attempt.bind
  intro result
  apply (keeps_change takes.below fun s => takes.flights s _).bind
  intro _
  apply (keeps_change takes.below fun s => takes.flights s _).bind
  exact fun _ => keeps_ended _

/-- A query for an entity. -/
theorem keeps_resolveEntityId : (r.resolveEntityId id query).Keeps world wider := by
  apply (takes.keeps (unreported_read _)).bind
  intro now
  apply (takes.keeps unreported_liveDescriptions).bind
  intro live
  split
  · exact (takes.keeps (unreported_count (by simp))).bind fun _ => keeps_pure _
  · apply (takes.keeps (unreported_count (by simp))).bind
    intro _
    apply (takes.keeps (unreported_read _)).bind
    intro absent
    split
    · exact keeps_pure []
    · split
      · exact takes.keeps_fetchInTurn
      · exact takes.keeps_fetchEntity

theorem restores_fetchSecondary : (r.fetchSecondary query).Restores world wider := by
  rw [fetchSecondary]
  split
  · exact (keeps_pure []).restores
  · apply (takes.keeps (unreported_read _)).restores.bind
    intro now
    apply (takes.keeps (unreported_fetchAndFilter takes.records)).restores.bind
    intro answer
    split
    · exact (keeps_pure []).restores
    · exact takes.answer _ now

theorem restores_resolveSecondary : (r.resolveSecondary query).Restores world wider := by
  apply (takes.keeps (unreported_read _)).restores.bind
  intro ids
  split
  · exact takes.restores_fetchSecondary
  · exact ((keeps_collect (fun id => takes.keeps_resolveEntityId) _).bind
      fun all => keeps_pure _).restores

theorem restores_found : (match query.entityId with
    | some id => r.resolveEntityId id query
    | none => r.resolveSecondary query).Restores world wider := by
  cases query.entityId with
  | some id => exact takes.keeps_resolveEntityId.restores
  | none => exact takes.restores_resolveSecondary

/-- What comes of a query is counted last, whatever it is. -/
theorem keeps_resolve (asked : query.entityId.isSome)
    (counts : ∀ outcome, (ResolverState.count (.resolution r.id outcome) :
      Task (ResolverState ε) Unit).Keeps world wider) :
    (r.resolve query).Keeps world wider := by
  obtain ⟨id, named⟩ := Option.isSome_iff_exists.1 asked
  apply (takes.keeps unreported_requireInitialized).bind
  intro _
  rw [named]
  apply takes.keeps_resolveEntityId.attempt.bind
  intro found
  exact (counts _).bind fun _ => keeps_ended _

/-- The same for a query of any kind. -/
theorem restores_resolve (counts : ∀ outcome, (ResolverState.count (.resolution r.id outcome) :
      Task (ResolverState ε) Unit).Keeps world wider) :
    (r.resolve query).Restores world wider := by
  apply (takes.keeps unreported_requireInitialized).restores.bind
  intro _
  apply takes.restores_found.attempt.bind
  intro found
  exact ((counts _).bind fun _ => keeps_ended _).restores

end TakesIn

end Federation.Resolver
