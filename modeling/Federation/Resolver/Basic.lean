/-
# Resolvers

A resolver answers queries for entities from a backing store, which it fills from an origin.
It remembers for a while that an entity does not exist, keeps copies of what it fetched in a
persistent cache if it has one, and lets one call at a time fetch an entity.

What a resolver is made of does not change: its policy, its origin, its filters. All that
changes is in its state, on which its operations work as tasks.
-/

import Federation.Cache.Persistent
import Federation.Origin.Basic
import Federation.Resolver.Expiration
import Federation.Resolver.Flights

namespace Federation

open Federation.Metadata Federation.Time

/-- How a resolver uses its persistent cache. -/
structure Persistence where
  /-- The key under which an entity is kept. -/
  keyOf : Entity → String
  /-- Is the store filled from the cache at the start? -/
  isWarmStarted : Bool
  /-- Is it filled in the background? -/
  isBackground : Bool

/-- What a resolver is made of. -/
structure Resolver (ε : Type) where
  id : String
  policy : CachePolicy
  origin : Origin ε
  filters : FilterChain
  /-- The filters that cached copies go through at the start. -/
  warmFilters : FilterChain
  persistence : Option Persistence

/-- Where a resolver is in its life. -/
inductive Lifecycle where
  | fresh
  | initialized
  | destroyed
deriving DecidableEq, Repr

/-- Where the warm start in the background is. -/
inductive WarmUp where
  | idle
  | requested
  | abandoned
deriving DecidableEq, Repr

/-- When the origin was refreshed and what came of it. -/
structure RefreshStatus where
  /-- The last attempt, successful or not. -/
  lastRefresh : Option Instant
  /-- The last attempt that loaded new entities. -/
  lastUpdate : Option Instant
  nextRefresh : Option Instant
  lastError : Option String
deriving DecidableEq, Repr

/-- What changes about a resolver, together with the clock, the metrics and the state of the
origin. -/
structure ResolverState (ε : Type) where
  now : Instant
  metrics : Metrics
  origin : ε
  lifecycle : Lifecycle
  store : BackingStore
  /-- Until when entities are believed not to exist. -/
  negative : Keyed String Instant
  flights : Flights
  status : RefreshStatus
  warmUp : WarmUp
  /-- The persistent cache, which is not used by a resolver without persistence. -/
  cache : PersistentCache

namespace ResolverState

variable {ε : Type}

/-- The state of a resolver that has not done anything yet. -/
def start (indexes : List EntityIndex) (cache : PersistentCache) (origin : ε) (now : Instant) :
    ResolverState ε where
  now := now
  metrics := .empty
  origin := origin
  lifecycle := .fresh
  store := .empty indexes
  negative := .empty
  flights := .empty
  status := ⟨none, none, none, none⟩
  warmUp := .idle
  cache := cache

/-- What the origin works on. -/
def originPart : Task.Place (ResolverState ε) (OriginScope ε) where
  get s := ⟨s.metrics, s.origin⟩
  put s part := { s with metrics := part.metrics, origin := part.state }

/-- What is left by a call that meets a date or duration out of range, if no other is under way:
whatever it did stays done, and it is not aboard of any flight. -/
def unwound (s : ResolverState ε) : ResolverState ε := { s with flights := s.flights.desert }

/-- Counts. -/
def count (c : Counter) : Task (ResolverState ε) Unit :=
  .change fun s => { s with metrics := s.metrics.count c }

end ResolverState

namespace Resolver

variable {ε α : Type}

/-- A resolver whose ID and policy make sense. -/
def check (r : Resolver ε) : Except Failure Unit :=
  if (Text.trim r.id).isEmpty then .error (.configuration "resolver ID cannot be empty")
  else if r.policy.shortest < .zero then
    .error (.configuration "minimum cache duration cannot be negative")
  else if r.policy.longest < r.policy.shortest then
    .error (.configuration (r.id ++ ": minimum cache duration exceeds maximum cache duration"))
  else .ok ()

/-- The resolver must have been initialized and not destroyed. -/
def requireInitialized (r : Resolver ε) : Task (ResolverState ε) Unit := do
  match ← Task.read (·.lifecycle) with
  | .initialized => pure ()
  | .destroyed => .fail (.notInitialized ("resolver " ++ r.id ++ " has been destroyed"))
  | .fresh => .fail (.notInitialized ("resolver " ++ r.id ++ " is not initialized"))

/-- Sets the gauge of the number of entities in the store. -/
def gaugeSize (r : Resolver ε) : Task (ResolverState ε) Unit :=
  .change fun s => { s with metrics := s.metrics.set (.storedEntities r.id) s.store.size }

/-- The records of an entity, which are marked as used. -/
def recordsOf (id : String) (now : Instant) : Task (ResolverState ε) (Option (List CacheRecord)) :=
  .perform fun s =>
    let (records, store) := s.store.get id now
    (records, { s with store })

/-- Takes an entity out of the store. -/
def forget (id : String) : Task (ResolverState ε) Unit :=
  .change fun s => { s with store := s.store.remove id }

/-- Caches descriptions of an entity, of which it gives those that were cached. They take the
place of the records that were there, unless none of them is valid. -/
def insertRecords (r : Resolver ε) (id : String) (entities : List Entity) (now : Instant) :
    Task (ResolverState ε) (List Entity) := do
  let records ← .ofOutcome (r.policy.records now entities)
  if records.isEmpty then return []
  else
    .change fun s =>
      { s with store := s.store.insert id records, negative := s.negative.erase id }
    return records.map (·.entity)

/-- An operation on the persistent cache, before which others may run. -/
def onCache (f : PersistentCache → Except Failure α × PersistentCache) :
    Task (ResolverState ε) α := do
  .pauseIf (← Task.read (·.cache.isPausing))
  .ofExcept (← Task.perform fun s =>
    let (answer, cache) := f s.cache
    (answer, { s with cache }))

/-- Groups descriptions by entity. -/
def groupById (entities : List Entity) : List (String × List Entity) :=
  (entities.map (·.entityId)).eraseDups.map fun id => (id, entities.filter (·.entityId == id))

end Resolver

end Federation
