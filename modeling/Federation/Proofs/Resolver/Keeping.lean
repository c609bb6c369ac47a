/-
# Calls that keep to a drift

Answering a query reads, replaces, extends and drops records of the entities it is answered
from, marks entities as absent, and starts and leaves flights. A drift that allows this for an
entity is kept to by every part of answering a query for it; and a drift that allows in addition
what the other calls do as a whole is kept to by every call, and so by whatever happens to a
resolver. What becomes of its status in a refresh is left to those who ask.

## Main results

- `Allows.keeps_resolveEntityId`, `keeps_resolve`: queries keep to what allows their parts.
- `Call.keeps`: every call keeps to what allows all parts of all calls.
- `Follows.keeps`: so does whatever happens to a resolver.
-/

import Federation.Proofs.Resolver.Moves
import Federation.Proofs.Resolver.Reachable

namespace Federation

open Federation.Metadata Federation.Time Federation.Task ResolverState

namespace Resolver

variable {ε : Type} {clock : Drift Instant} {s : ResolverState ε} {now : Instant} {id : String}
  {query : Criteria} {wider : Drift (ResolverState ε)}

/-! ## What a drift may allow -/

/-- A drift allows the world to move, and the records of an entity to be read. -/
structure AllowsReading (clock : Drift Instant) (wider : Drift (ResolverState ε)) (id : String) :
    Prop where
  below : (elsewhere clock).Below wider
  read : ∀ (m : ResolverState ε) now, wider.rel m { m with store := (m.store.get id now).2 }

/-- Besides, flights may be started and left. This is what answering a query for an entity does
apart from fetching it. -/
structure AllowsFlying (clock : Drift Instant) (wider : Drift (ResolverState ε)) (id : String) :
    Prop extends AllowsReading clock wider id where
  fly : ∀ (m : ResolverState ε) flights, wider.rel m { m with flights := flights }

/-- A drift allows whatever fetching an entity does to what is held of it. -/
structure AllowsFetching (clock : Drift Instant) (wider : Drift (ResolverState ε)) (id : String) :
    Prop extends AllowsReading clock wider id where
  fill : ∀ (m : ResolverState ε) records,
    wider.rel m { m with store := m.store.insert id records, negative := m.negative.erase id }
  drop : ∀ m : ResolverState ε, wider.rel m { m with store := m.store.remove id }
  mark : ∀ (m : ResolverState ε) until_,
    wider.rel m { m with negative := m.negative.insert id until_ }
  retain : ∀ (m : ResolverState ε) until_,
    wider.rel m { m with store := (m.store.extendExpiration id until_).2 }

/-- A drift allows the world to move, and whatever answering a query does to what is held of an
entity and to what is under way. -/
structure Allows (clock : Drift Instant) (wider : Drift (ResolverState ε)) (id : String) : Prop
    extends AllowsFetching clock wider id, AllowsFlying clock wider id

namespace AllowsReading

theorem keeps_recordsOf (allows : AllowsReading clock wider id) :
    (recordsOf id now).Keeps (elsewhere clock) wider :=
  keeps_perform allows.below fun m => allows.read m now

theorem keeps_liveDescriptions (allows : AllowsReading clock wider id) :
    (liveDescriptions id now).Keeps (elsewhere clock) wider := by
  refine allows.keeps_recordsOf.bind fun found => ?_
  split
  · exact keeps_pure none
  · split <;> exact keeps_pure _

theorem keeps_staleDescriptions (allows : AllowsReading clock wider id) :
    (staleDescriptions id now).Keeps (elsewhere clock) wider := by
  refine allows.keeps_recordsOf.bind fun found => ?_
  split <;> exact keeps_pure _

/-! What follows is true of a query whose fetch keeps to the drift. -/

variable {r : Resolver ε}

theorem keeps_fetchUnlessCached (allows : AllowsReading clock wider id)
    (fetches : (r.fetchEntity id query).Keeps (elsewhere clock) wider) :
    (r.fetchUnlessCached id query).Keeps (elsewhere clock) wider := by
  refine (keeps_read allows.below _).bind fun now => ?_
  refine allows.keeps_liveDescriptions.bind fun found => ?_
  split
  · exact keeps_pure _
  · refine (keeps_read allows.below _).bind fun absent => ?_
    split
    · exact keeps_pure []
    · exact fetches

end AllowsReading

namespace AllowsFlying

variable {r : Resolver ε}

theorem keeps_fetchHolding (allows : AllowsFlying clock wider id)
    (fetches : (r.fetchEntity id query).Keeps (elsewhere clock) wider) (ticket : Ticket) :
    (r.fetchHolding ticket id query).Keeps (elsewhere clock) wider := by
  refine (allows.keeps_fetchUnlessCached fetches).attempt.bind fun result => ?_
  exact (keeps_change allows.below fun m => allows.fly m _).bind fun _ => keeps_ended _

theorem keeps_fly (allows : AllowsFlying clock wider id)
    (fetches : (r.fetchEntity id query).Keeps (elsewhere clock) wider) (ticket : Ticket) :
    (r.fly ticket id query now).Keeps (elsewhere clock) wider := by
  refine (keeps_perform allows.below fun m => allows.fly m _).bind fun holding => ?_
  split
  · exact allows.keeps_fetchHolding fetches ticket
  · refine allows.keeps_staleDescriptions.bind fun stale => ?_
    split
    · exact keeps_pure _
    · refine (keeps_change allows.below fun m => allows.fly m _).bind fun _ => ?_
      exact (keeps_waitFor _).bind fun _ => allows.keeps_fetchHolding fetches ticket

theorem keeps_fetchInTurn (allows : AllowsFlying clock wider id)
    (fetches : (r.fetchEntity id query).Keeps (elsewhere clock) wider) :
    (r.fetchInTurn id query now).Keeps (elsewhere clock) wider := by
  refine (keeps_perform allows.below fun m => allows.fly m _).bind fun ticket => ?_
  refine (allows.keeps_fly fetches ticket).attempt.bind fun result => ?_
  refine (keeps_change allows.below fun m => allows.fly m _).bind fun _ => ?_
  exact (keeps_change allows.below fun m => allows.fly m _).bind fun _ => keeps_ended _

theorem keeps_resolveEntityId (allows : AllowsFlying clock wider id)
    (fetches : (r.fetchEntity id query).Keeps (elsewhere clock) wider) :
    (r.resolveEntityId id query).Keeps (elsewhere clock) wider := by
  refine (keeps_read allows.below _).bind fun now => ?_
  refine allows.keeps_liveDescriptions.bind fun found => ?_
  split
  · exact ((keeps_count _).widen allows.below).bind fun _ => keeps_pure _
  · refine ((keeps_count _).widen allows.below).bind fun _ => ?_
    refine (keeps_read allows.below _).bind fun absent => ?_
    split
    · exact keeps_pure []
    · split
      · exact allows.keeps_fetchInTurn fetches
      · exact fetches

end AllowsFlying

namespace AllowsFetching

theorem keeps_insertRecords (allows : AllowsFetching clock wider id) (r : Resolver ε)
    (entities : List Entity) : (r.insertRecords id entities now).Keeps (elsewhere clock) wider := by
  refine (keeps_ended _).bind fun records => ?_
  split
  · exact keeps_pure []
  · exact (keeps_change allows.below fun m => allows.fill m records).bind fun _ => keeps_pure _

theorem keeps_fetchEntity (allows : AllowsFetching clock wider id) (r : Resolver ε) :
    (r.fetchEntity id query).Keeps (elsewhere clock) wider := by
  have absent (stale : Option (List CacheRecord)) (now : Instant) :
      (r.acceptAbsence id stale now).Keeps (elsewhere clock) wider :=
    keeps_acceptAbsence allows.below allows.drop allows.mark r stale
  refine (keeps_read allows.below _).bind fun now => ?_
  refine allows.keeps_recordsOf.bind fun stale => ?_
  refine ((keeps_fetchAndFilter r).widen allows.below).attempt.bind fun answer => ?_
  split
  · exact keeps_acceptFailure allows.below allows.drop allows.retain r stale _
  · exact absent stale now
  · split
    · exact absent stale now
    · exact keeps_acceptDescriptions allows.below r (allows.keeps_insertRecords r _)

end AllowsFetching

theorem Allows.keeps_resolveEntityId (allows : Allows clock wider id) (r : Resolver ε) :
    (r.resolveEntityId id query).Keeps (elsewhere clock) wider :=
  allows.toAllowsFlying.keeps_resolveEntityId (allows.keeps_fetchEntity r)

/-! ### Queries of any kind -/

theorem keeps_acceptAnswer (below : (elsewhere clock).Below wider)
    (allows : ∀ id, AllowsFetching clock wider id) (r : Resolver ε) (entities : List Entity) :
    (r.acceptAnswer entities now).Keeps (elsewhere clock) wider := by
  refine (keeps_collect (fun group => ?_) _).bind fun stored => ?_
  · refine ((allows group.1).keeps_insertRecords r group.2).bind fun stored => ?_
    exact ((keeps_persist r stored).widen below).bind fun _ => keeps_pure stored
  · exact ((keeps_gaugeSize r).widen below).bind fun _ => keeps_pure _

theorem keeps_fetchSecondary (below : (elsewhere clock).Below wider)
    (allows : ∀ id, AllowsFetching clock wider id) (r : Resolver ε) :
    (r.fetchSecondary query).Keeps (elsewhere clock) wider := by
  rw [fetchSecondary]
  split
  · exact keeps_pure []
  · refine (keeps_read below _).bind fun now => ?_
    refine ((keeps_fetchAndFilter r).widen below).bind fun answer => ?_
    split
    · exact keeps_pure []
    · exact keeps_acceptAnswer below allows r _

/-- A query without an ID keeps to what queries for entities and asking the origin keep to. -/
theorem keeps_resolveSecondary_of (below : (elsewhere clock).Below wider) {r : Resolver ε}
    (finds : ∀ id query, query.entityId = some id →
      (r.resolveEntityId id query).Keeps (elsewhere clock) wider)
    (asks : (r.fetchSecondary query).Keeps (elsewhere clock) wider) :
    (r.resolveSecondary query).Keeps (elsewhere clock) wider := by
  refine (keeps_read below _).bind fun ids => ?_
  split
  · exact asks
  · exact (keeps_collect (fun id => finds id _ rfl) _).bind fun all => keeps_pure _

/-- So does a query of any kind. -/
theorem keeps_resolve_of (below : (elsewhere clock).Below wider) {r : Resolver ε}
    (finds : ∀ id query, query.entityId = some id →
      (r.resolveEntityId id query).Keeps (elsewhere clock) wider)
    (asks : query.entityId = none → (r.fetchSecondary query).Keeps (elsewhere clock) wider) :
    (r.resolve query).Keeps (elsewhere clock) wider := by
  refine ((keeps_requireInitialized r).widen below).bind fun _ => ?_
  refine Keeps.bind ?_ fun answer => ?_
  · refine Keeps.attempt ?_
    cases asked : query.entityId with
    | some id => exact finds id query asked
    | none => exact keeps_resolveSecondary_of below finds (asks asked)
  · exact ((keeps_count _).widen below).bind fun _ => keeps_ended _

theorem keeps_resolve (below : (elsewhere clock).Below wider)
    (allows : ∀ id, Allows clock wider id) (r : Resolver ε) :
    (r.resolve query).Keeps (elsewhere clock) wider :=
  keeps_resolve_of below (fun id _ _ => (allows id).keeps_resolveEntityId r)
    fun _ => keeps_fetchSecondary below (fun id => (allows id).toAllowsFetching) r

/-! ## Other calls -/

theorem keeps_clear (below : (elsewhere clock).Below wider)
    (clears : ∀ m : ResolverState ε,
      wider.rel m { m with store := m.store.clear, negative := .empty })
    (r : Resolver ε) : r.clear.Keeps (elsewhere clock) wider := by
  refine ((keeps_requireInitialized r).widen below).bind fun _ => ?_
  refine (keeps_change below clears).bind fun _ => ?_
  refine ((keeps_gaugeSize r).widen below).bind fun _ => ?_
  split
  · exact keeps_pure ()
  · refine ((keeps_onCache _).widen below).bind fun keys => ?_
    exact keeps_forEach (fun _ => ((keeps_onCache _).widen below).bind fun _ => keeps_pure ()) keys

theorem keeps_clearEntity (below : (elsewhere clock).Below wider)
    (forgets : ∀ m : ResolverState ε,
      wider.rel m { m with store := m.store.remove id, negative := m.negative.erase id })
    (r : Resolver ε) : (r.clearEntity id).Keeps (elsewhere clock) wider := by
  refine ((keeps_requireInitialized r).widen below).bind fun _ => ?_
  refine (keeps_read below _).bind fun removed => ?_
  refine (keeps_change below forgets).bind fun _ => ?_
  refine ((keeps_gaugeSize r).widen below).bind fun _ => ?_
  split
  · exact keeps_pure ()
  · exact keeps_forEach (fun _ => ((keeps_onCache _).widen below).bind fun _ => keeps_pure ()) _

theorem keeps_cleanup (below : (elsewhere clock).Below wider)
    (sweeps : ∀ (m : ResolverState ε) limit,
      wider.rel m { m with
        store := (m.store.cleanup m.now limit).2
        negative := m.negative.filter fun _ until_ => m.now < until_ })
    (r : Resolver ε) : r.cleanup.Keeps (elsewhere clock) wider := by
  refine (keeps_read below _).bind fun lifecycle => ?_
  split
  · exact keeps_pure 0
  · refine (keeps_perform below fun m => sweeps m r.policy.longestIdle).bind fun evicted => ?_
    exact ((keeps_gaugeSize r).widen below).bind fun _ => keeps_pure evicted

theorem keeps_destroy (below : (elsewhere clock).Below wider)
    (ends : ∀ m : ResolverState ε,
      wider.rel m { m with
        lifecycle := .destroyed
        warmUp := .abandoned
        store := m.store.clear
        negative := .empty
        flights := m.flights.close })
    (r : Resolver ε) : r.destroy.Keeps (elsewhere clock) wider := by
  refine (keeps_read below _).bind fun lifecycle => ?_
  split
  · exact keeps_pure ()
  · refine (keeps_change below ends).bind fun _ => ?_
    exact (keeps_gaugeSize r).widen below

theorem keeps_loadEntity (below : (elsewhere clock).Below wider)
    (allows : ∀ id, AllowsFetching clock wider id) (r : Resolver ε) (p : Persistence) (key : String)
    (e : Entity) : (r.loadEntity p now key e).Keeps (elsewhere clock) wider := by
  have inserted : (do
      if ← Task.read fun (s : ResolverState ε) => s.store.contains e.entityId then return false
      else return !(← r.insertRecords e.entityId [e] now).isEmpty).Keeps (elsewhere clock) wider := by
    refine (keeps_read below _).bind fun held => ?_
    split
    · exact keeps_pure false
    · exact ((allows _).keeps_insertRecords r [e]).bind fun _ => keeps_pure _
  rw [loadEntity]
  split
  · exact ((keeps_dropKey key).widen below).bind fun _ => keeps_pure false
  · dsimp only
    split
    · exact ((keeps_moveKey key _).widen below).bind fun _ => inserted
    · exact inserted

theorem keeps_loadKeys (below : (elsewhere clock).Below wider)
    (allows : ∀ id, AllowsFetching clock wider id) (r : Resolver ε) (p : Persistence)
    (keys : List String) : (r.loadKeys p now keys).Keeps (elsewhere clock) wider := by
  induction keys with
  | nil => exact keeps_pure 0
  | cons key rest ih =>
    refine (keeps_read below _).bind fun lifecycle => ?_
    split
    · exact keeps_pure 0
    · refine ((keeps_readKey r key).widen below).bind fun entities => ?_
      refine (keeps_collect (keeps_loadEntity below allows r p key) entities).bind fun loaded => ?_
      exact ih.bind fun others => keeps_pure _

theorem keeps_loadCache (below : (elsewhere clock).Below wider)
    (allows : ∀ id, AllowsFetching clock wider id) (r : Resolver ε) :
    r.loadCache.Keeps (elsewhere clock) wider := by
  rw [loadCache]
  split
  · exact keeps_pure 0
  · rename_i p _
    refine ((keeps_onCache _).widen below).attempt.bind fun listed => ?_
    split
    · exact keeps_pure 0
    · refine (keeps_read below _).bind fun now => ?_
      refine (keeps_loadKeys below allows r p _).bind fun loaded => ?_
      exact ((keeps_gaugeSize r).widen below).bind fun _ => keeps_pure loaded

theorem keeps_prepare (below : (elsewhere clock).Below wider)
    (allows : ∀ id, AllowsFetching clock wider id)
    (requests : ∀ m : ResolverState ε, wider.rel m { m with warmUp := .requested })
    (readies : ∀ m : ResolverState ε, wider.rel m { m with lifecycle := .initialized })
    (r : Resolver ε) (refreshes : r.runRefresh.Keeps (elsewhere clock) wider) :
    r.prepare.Keeps (elsewhere clock) wider := by
  have warmed : r.warmStart.Keeps (elsewhere clock) wider := by
    rw [warmStart]
    split
    · exact keeps_pure ()
    · split
      · exact keeps_pure ()
      · split
        · exact keeps_change below requests
        · exact (keeps_loadCache below allows r).bind fun _ => keeps_pure ()
  refine (keeps_read below _).bind fun lifecycle => ?_
  cases lifecycle with
  | initialized => exact keeps_pure ()
  | destroyed => exact (keeps_requireInitialized r).widen below
  | fresh =>
    refine warmed.bind fun _ => refreshes.attempt.bind fun _ => ?_
    exact keeps_change below readies

/-! ### Refreshing -/

theorem keeps_replaceAll (below : (elsewhere clock).Below wider)
    (allows : ∀ id, AllowsFetching clock wider id)
    (clears : ∀ m : ResolverState ε,
      wider.rel m { m with store := m.store.clear, negative := .empty })
    (r : Resolver ε) (entities : List Entity) :
    (r.replaceAll entities now).Keeps (elsewhere clock) wider := by
  refine (keeps_change below clears).bind fun _ => ?_
  refine (keeps_forEach (fun group => ?_) _).bind fun _ => (keeps_gaugeSize r).widen below
  exact ((allows group.1).keeps_insertRecords r group.2).bind fun _ => keeps_pure ()

/-- A drift allows what is noted of a refresh at an instant: that it was attempted, that there was
an update, and then the rest. -/
structure Notes (now : Instant) (wider : Drift (ResolverState ε)) : Prop where
  attempt : ∀ m : ResolverState ε,
    wider.rel m { m with status := { m.status with lastRefresh := some now } }
  update : ∀ m : ResolverState ε,
    wider.rel m { m with
      status := { m.status with lastRefresh := some now, lastUpdate := some now } }
  rest : ∀ (m : ResolverState ε) nextRefresh lastError,
    wider.rel m { m with status := { m.status with nextRefresh, lastError } }

theorem keeps_acceptRefresh (below : (elsewhere clock).Below wider)
    (allows : ∀ id, AllowsFetching clock wider id)
    (clears : ∀ m : ResolverState ε,
      wider.rel m { m with store := m.store.clear, negative := .empty })
    (notes : Notes now wider) (r : Resolver ε) (result : Except Failure RefreshOutcome) :
    (r.acceptRefresh now result).Keeps (elsewhere clock) wider := by
  have stamped (kind : String) : (r.stamp kind now).Keeps (elsewhere clock) wider :=
    (keeps_stamp r kind).widen below
  rcases result with failure | ⟨entities, next⟩ | next | _
  · refine (keeps_change below notes.attempt).bind fun _ => (keeps_ended _).bind fun at_ => ?_
    refine (keeps_change below fun m => notes.rest m at_ _).bind fun _ => ?_
    exact (stamped _).bind fun _ => ((keeps_count _).widen below).bind fun _ => keeps_ended _
  · refine (keeps_replaceAll below allows clears r entities).bind fun _ => ?_
    refine (keeps_change below notes.update).bind fun _ => (keeps_ended _).bind fun at_ => ?_
    refine (keeps_change below fun m => notes.rest m at_ _).bind fun _ => ?_
    exact (stamped _).bind fun _ => (stamped _).bind fun _ => keeps_pure _
  · refine (keeps_change below notes.attempt).bind fun _ => (keeps_ended _).bind fun at_ => ?_
    refine (keeps_change below fun m => notes.rest m at_ _).bind fun _ => ?_
    exact (stamped _).bind fun _ => keeps_pure _
  · exact keeps_pure none

theorem keeps_runRefresh (below : (elsewhere clock).Below wider)
    (allows : ∀ id, AllowsFetching clock wider id)
    (clears : ∀ m : ResolverState ε,
      wider.rel m { m with store := m.store.clear, negative := .empty })
    (notes : ∀ now, Notes now wider) (r : Resolver ε) :
    r.runRefresh.Keeps (elsewhere clock) wider := by
  refine (keeps_read below _).bind fun now => ?_
  refine ((keeps_origin _).widen below).attempt.bind fun result => ?_
  exact keeps_acceptRefresh below allows clears (notes now) r result

/-! ## Whatever happens -/

/-- A drift allows whatever the calls of a resolver do, refreshing apart. -/
structure AllowsCalls (clock : Drift Instant) (wider : Drift (ResolverState ε)) : Prop where
  entities : ∀ id, Allows clock wider id
  clear : ∀ m : ResolverState ε, wider.rel m { m with store := m.store.clear, negative := .empty }
  forget : ∀ (m : ResolverState ε) id,
    wider.rel m { m with store := m.store.remove id, negative := m.negative.erase id }
  sweep : ∀ (m : ResolverState ε) limit,
    wider.rel m { m with
      store := (m.store.cleanup m.now limit).2
      negative := m.negative.filter fun _ until_ => m.now < until_ }
  request : ∀ m : ResolverState ε, wider.rel m { m with warmUp := .requested }
  ready : ∀ m : ResolverState ε, wider.rel m { m with lifecycle := .initialized }
  destroy : ∀ m : ResolverState ε,
    wider.rel m { m with
      lifecycle := .destroyed
      warmUp := .abandoned
      store := m.store.clear
      negative := .empty
      flights := m.flights.close }

theorem AllowsCalls.below (allows : AllowsCalls clock wider) : (elsewhere clock).Below wider :=
  (allows.entities "").below

theorem Call.keeps (allows : AllowsCalls clock wider) (r : Resolver ε)
    (refreshes : r.runRefresh.Keeps (elsewhere clock) wider) (c : Call) :
    (c.task r).Keeps (elsewhere clock) wider := by
  have fetching (id : String) := (allows.entities id).toAllowsFetching
  cases c with
  | prepare => exact keeps_prepare allows.below fetching allows.request allows.ready r refreshes
  | resolve query =>
    exact (keeps_resolve allows.below allows.entities r).bind fun _ => keeps_pure ()
  | refresh =>
    have refreshed : r.refresh.Keeps (elsewhere clock) wider :=
      ((keeps_requireInitialized r).widen allows.below).bind fun _ => refreshes
    exact refreshed.bind fun _ => keeps_pure ()
  | clear => exact keeps_clear allows.below allows.clear r
  | clearEntity id => exact keeps_clearEntity allows.below (fun m => allows.forget m id) r
  | cleanup => exact (keeps_cleanup allows.below allows.sweep r).bind fun _ => keeps_pure ()
  | loadCache =>
    exact (keeps_loadCache allows.below fetching r).bind fun _ => keeps_pure ()
  | destroy => exact keeps_destroy allows.below allows.destroy r

theorem Follows.keeps {r : Resolver ε} {s' : ResolverState ε} (allows : AllowsCalls clock wider)
    (refreshes : r.runRefresh.Keeps (elsewhere clock) wider) (follows : Follows r clock s s') :
    wider.rel s s' := by
  induction follows with
  | refl => exact wider.refl s
  | tail _ next ih =>
    refine wider.trans ih ?_
    cases next with
    | elsewhere moved => exact allows.below _ _ moved
    | call c outcome ran ends => exact c.keeps allows r refreshes _ outcome _ ran
    | overrun c m ran left =>
      rw [left]
      exact wider.trans (c.keeps allows r refreshes _ _ m ran) ((allows.entities "").fly m _)

end Resolver

end Federation
