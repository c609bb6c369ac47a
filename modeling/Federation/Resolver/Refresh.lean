/-
# Refreshing

When an origin that loads everything at once has new entities, they take the place of all
that was cached. When it has none, or fails, the store stays as it is.
-/

import Federation.Resolver.Basic

namespace Federation.Resolver

open Federation.Metadata Federation.Time

variable {ε : Type}

/-- Puts entities in place of everything that was cached. -/
def replaceAll (r : Resolver ε) (entities : List Entity) (now : Instant) :
    Task (ResolverState ε) Unit := do
  .change fun s => { s with store := s.store.clear, negative := .empty }
  .forEach (groupById entities) fun (id, group) => do
    let _ ← r.insertRecords id group now
  r.gaugeSize

/-- The instant a delay from now; a delay beyond the reach of spans has none. -/
def instantAfter (now : Instant) (delay : Option Delay) : Outcome (Option Instant) :=
  match delay.bind Delay.toSpan? with
  | none => .ok none
  | some span => (Outcome.ofOption (now.add? span)).map some

/-- Sets the gauge of an instant of refreshing. -/
def stamp (r : Resolver ε) (kind : String) (now : Instant) : Task (ResolverState ε) Unit :=
  .change fun s => { s with metrics := s.metrics.set (.refreshTimestamp r.id kind) now.second }

/-- Records what came of refreshing. -/
def note (f : RefreshStatus → RefreshStatus) : Task (ResolverState ε) Unit :=
  .change fun s => { s with status := f s.status }

/-- Takes in what came of refreshing the origin. -/
def acceptRefresh (r : Resolver ε) (now : Instant) :
    Except Failure RefreshOutcome → Task (ResolverState ε) (Option Delay)
  | .ok .notApplicable => return none
  | .ok (.updated entities next) => do
    -- The store is replaced before the status tells of it.
    r.replaceAll entities now
    note fun status => { status with lastRefresh := some now, lastUpdate := some now }
    let nextRefresh ← .ofOutcome (instantAfter now next)
    note fun status => { status with nextRefresh, lastError := none }
    r.stamp "refresh" now
    r.stamp "update" now
    return next
  | .ok (.unchanged next) => do
    note fun status => { status with lastRefresh := some now }
    let nextRefresh ← .ofOutcome (instantAfter now next)
    note fun status => { status with nextRefresh, lastError := none }
    r.stamp "refresh" now
    return next
  | .error failure => do
    note fun status => { status with lastRefresh := some now }
    let nextRefresh ← .ofOutcome (instantAfter now r.origin.retryDelay)
    note fun status => { status with nextRefresh, lastError := some failure.message }
    r.stamp "refresh" now
    ResolverState.count (.error "refresh_failed" "resolver")
    .fail failure

/-- Refreshes the origin. -/
def runRefresh (r : Resolver ε) : Task (ResolverState ε) (Option Delay) := do
  let now ← Task.read (·.now)
  let outcome ← ((r.origin.refresh r.filters ⟨now, r.id⟩).on ResolverState.originPart).attempt
  r.acceptRefresh now outcome

/-- Refreshes the origin of a resolver that is initialized, and gives the delay until the
next time. -/
def refresh (r : Resolver ε) : Task (ResolverState ε) (Option Delay) := do
  r.requireInitialized
  r.runRefresh

/-- The time until the next refresh, which is zero when it is due. -/
def nextRefreshDelay (s : ResolverState ε) : Option Delay :=
  s.status.nextRefresh.map fun next => (Delay.ofSpan? (next.span s.now)).getD .zero

end Federation.Resolver
