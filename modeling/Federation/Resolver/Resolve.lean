/-
# Resolving

A query for an ID is answered from live records in the store. If there are none, and the
entity is not believed to be absent, it is fetched from the origin, by one call at a time:
others that come meanwhile are served expired records if there are any, or wait. What was
fetched goes through the filters and into the store.

If a fetch fails, expired records are served for a while longer or dropped, as the policy
says. If the origin has no such entity, that is remembered for a while.

A query without an ID is answered for every entity that the indexes find. If they find
nothing, the origin is asked, where that is possible.
-/

import Federation.Resolver.Persist

namespace Federation.Resolver

open Federation.Metadata Federation.Time

variable {ε : Type}

/-- Fetches the answer to a query, filters it and flattens it. -/
def fetchAndFilter (r : Resolver ε) (query : Criteria) (now : Instant) :
    Task (ResolverState ε) (Option (List Entity)) := do
  match ← ((r.origin.fetch query).on ResolverState.originPart).attempt with
  | .error failure => .fail (.resolutionFailed query.shown failure)
  | .ok none => return none
  | .ok (some document) =>
    -- What was filtered as it was loaded is not filtered again.
    if r.origin.isPrefiltered then return some document.flatten
    else
      match FilterChain.apply ⟨now, r.id⟩ r.filters document with
      | .error failure => .fail (.resolutionFailed query.shown failure)
      | .ok filtered => return filtered.map Document.flatten

/-- The origin has no such entity: its records go, and that is remembered. -/
def acceptAbsence (r : Resolver ε) (id : String) (stale : Option (List CacheRecord))
    (now : Instant) : Task (ResolverState ε) (List Entity) := do
  match stale with
  | none => pure ()
  | some records =>
    forget id
    r.gaugeSize
    r.unpersist id records
  match r.policy.negative with
  | none => pure ()
  | some duration =>
    -- The absence is believed only once the records are gone.
    let until_ ← .ofOutcome (.ofOption (now.add? duration))
    .change fun s => { s with negative := s.negative.insert id until_ }
  return []

/-- The origin has descriptions of the entity: they are cached. -/
def acceptDescriptions (r : Resolver ε) (id : String) (entities : List Entity) (now : Instant) :
    Task (ResolverState ε) (List Entity) := do
  let stored ← r.insertRecords id entities now
  r.persist stored
  r.gaugeSize
  return stored

/-- The fetch failed: expired records are served for longer or dropped. -/
def acceptFailure (r : Resolver ε) (id : String) (stale : Option (List CacheRecord))
    (now : Instant) (failure : Failure) : Task (ResolverState ε) (List Entity) := do
  match stale with
  | none => .fail failure
  | some records =>
    match r.policy.onFailure with
    | .retain interval =>
      let until_ ← .ofOutcome (.ofOption (now.add? interval))
      -- Only the store is told: the copy in the persistent cache has no expiration of its own.
      .change fun s => { s with store := (s.store.extendExpiration id until_).2 }
      return records.map (·.entity)
    | .evict =>
      forget id
      r.gaugeSize
      r.unpersist id records
      .fail failure

/-- Fetches an entity. -/
def fetchEntity (r : Resolver ε) (id : String) (query : Criteria) :
    Task (ResolverState ε) (List Entity) := do
  let now ← Task.read (·.now)
  let stale ← recordsOf id now
  match ← (r.fetchAndFilter query now).attempt with
  | .error failure => r.acceptFailure id stale now failure
  | .ok none => r.acceptAbsence id stale now
  | .ok (some entities) =>
    -- An answer may describe other entities as well; only this one was asked for.
    match entities.filter (·.entityId == id) with
    | [] => r.acceptAbsence id stale now
    | matching => r.acceptDescriptions id matching now

/-- The live descriptions of an entity, if there are any. -/
def liveDescriptions (id : String) (now : Instant) :
    Task (ResolverState ε) (Option (List Entity)) := do
  match ← recordsOf id now with
  | none => return none
  | some records =>
    match records.filter fun record => !record.isExpired now with
    | [] => return none
    | live => return some (live.map (·.entity))

/-- The descriptions of an entity, live or not, if there are any. -/
def staleDescriptions (id : String) (now : Instant) :
    Task (ResolverState ε) (Option (List Entity)) := do
  match ← recordsOf id now with
  | none => return none
  | some [] => return none
  | some records => return some (records.map (·.entity))

/-- Is an entity believed to be absent? -/
def isAbsent (id : String) (now : Instant) : Task (ResolverState ε) Bool :=
  .read fun s => (s.negative.get? id).any fun until_ => now < until_

/-- Fetches an entity unless another call has done so meanwhile. -/
def fetchUnlessCached (r : Resolver ε) (id : String) (query : Criteria) :
    Task (ResolverState ε) (List Entity) := do
  let now ← Task.read (·.now)
  match ← liveDescriptions id now with
  | some live => return live
  | none =>
    if ← isAbsent id now then return []
    else r.fetchEntity id query

/-- Fetches an entity on a flight that the call holds, and hands it over. -/
def fetchHolding (r : Resolver ε) (ticket : Ticket) (id : String) (query : Criteria) :
    Task (ResolverState ε) (List Entity) := do
  -- It is handed over whatever came of the fetch; otherwise those that wait would wait for ever.
  let result ← (r.fetchUnlessCached id query).attempt
  .change fun s => { s with flights := s.flights.release ticket }
  .ofExcept result

/-- Fetches an entity on a flight that the call is aboard of, when it is its turn. -/
def fly (r : Resolver ε) (ticket : Ticket) (id : String) (query : Criteria) (now : Instant) :
    Task (ResolverState ε) (List Entity) := do
  let isHolding ← Task.perform fun s =>
    let (isHolding, flights) := s.flights.tryHold ticket
    (isHolding, { s with flights })
  if isHolding then r.fetchHolding ticket id query
  else
    match ← staleDescriptions id now with
    | some stale => return stale
    | none =>
      -- There is nothing to serve, so this call waits for its turn and then looks again.
      .change fun s => { s with flights := s.flights.queue ticket }
      .waitFor fun s => s.flights.holds ticket
      r.fetchHolding ticket id query

/-- Fetches an entity, one call at a time. -/
def fetchInTurn (r : Resolver ε) (id : String) (query : Criteria) (now : Instant) :
    Task (ResolverState ε) (List Entity) := do
  let ticket ← Task.perform fun s =>
    let (ticket, flights) := s.flights.board id
    (ticket, { s with flights })
  let result ← (r.fly ticket id query now).attempt
  .change fun s => { s with flights := s.flights.leave ticket }
  .change fun s => { s with flights := s.flights.retire id }
  .ofExcept result

/-- The descriptions of an entity. -/
def resolveEntityId (r : Resolver ε) (id : String) (query : Criteria) :
    Task (ResolverState ε) (List Entity) := do
  let now ← Task.read (·.now)
  match ← liveDescriptions id now with
  | some live =>
    ResolverState.count (.cacheHit r.id)
    return live
  | none =>
    ResolverState.count (.cacheMiss r.id)
    if ← isAbsent id now then return []
    else if r.policy.singleFlight then r.fetchInTurn id query now
    else r.fetchEntity id query

/-- The descriptions of entities, one after another. -/
def resolveEach (r : Resolver ε) (query : Criteria) (ids : List String) :
    Task (ResolverState ε) (List Entity) := do
  return (← Task.collect ids fun id => r.resolveEntityId id (query.add (.entityId id))).flatten

/-- Caches the answer of the origin to a query without an ID. -/
def acceptAnswer (r : Resolver ε) (entities : List Entity) (now : Instant) :
    Task (ResolverState ε) (List Entity) := do
  let stored ← Task.collect (groupById entities) fun (id, group) => do
    let stored ← r.insertRecords id group now
    r.persist stored
    return stored
  r.gaugeSize
  return stored.flatten

/-- Asks the origin a query without an ID, where that is possible. -/
def fetchSecondary (r : Resolver ε) (query : Criteria) : Task (ResolverState ε) (List Entity) := do
  if !(r.policy.secondaryLookup && r.origin.isSecondary) then return []
  else
    let now ← Task.read (·.now)
    match ← r.fetchAndFilter query now with
    | none => return []
    | some entities => r.acceptAnswer entities now

/-- The descriptions that a query without an ID finds. -/
def resolveSecondary (r : Resolver ε) (query : Criteria) :
    Task (ResolverState ε) (List Entity) := do
  match (← Task.read fun s => s.store.lookup query).getD [] with
  | [] => r.fetchSecondary query
  -- The IDs go in order, since every one of them may be fetched and counted on the way.
  | ids => r.resolveEach query (ids.mergeSort fun a b => a ≤ b)

/-- Keeps the descriptions that have the role of a query, if it states one. -/
def keepRole (query : Criteria) (entities : List Entity) : List Entity :=
  match query.role with
  | none => entities
  | some role => entities.filter (·.hasRole role)

/-- The outcome that is counted for a query. -/
def resolution : Except Failure (List Entity) → String
  | .ok [] => "not_found"
  | .ok _ => "found"
  | .error _ => "failed"

/-- Every description that a query finds. No such entity is no failure. -/
def resolve (r : Resolver ε) (query : Criteria) : Task (ResolverState ε) (List Entity) := do
  r.requireInitialized
  let found : Task (ResolverState ε) (List Entity) := match query.entityId with
    | some id => r.resolveEntityId id query
    | none => r.resolveSecondary query
  -- The role is looked for in what was found: an entity that lacks it has been fetched all the
  -- same.
  let kept := (← found.attempt).map (keepRole query)
  ResolverState.count (.resolution r.id (resolution kept))
  .ofExcept kept

/-- The first description that a query finds. -/
def resolveSingle (r : Resolver ε) (query : Criteria) : Task (ResolverState ε) (Option Entity) := do
  return (← r.resolve query).head?

/-- The IDs that the indexes hold for a query. -/
def lookup (r : Resolver ε) (query : Criteria) : Task (ResolverState ε) (List String) := do
  r.requireInitialized
  Task.read fun s => (s.store.lookup query).getD []

end Federation.Resolver
