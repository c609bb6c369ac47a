/-
# The life of a resolver

A resolver answers nothing before it is initialized and after it is destroyed. In between it
may be cleared, for one entity or as a whole, and from time to time it evicts what has
expired or has not been used for long.
-/

import Federation.Resolver.Persist
import Federation.Resolver.Refresh
import Federation.Resolver.Resolve
import Federation.Resolver.WarmStart

namespace Federation.Resolver

open Federation.Metadata Federation.Time

variable {ε : Type}

/-- Fills the store from the persistent cache, at once or in the background. -/
def warmStart (r : Resolver ε) : Task (ResolverState ε) Unit := do
  match r.persistence with
  | none => pure ()
  | some p =>
    if !p.isWarmStarted then pure ()
    else if p.isBackground then .change fun s => { s with warmUp := .requested }
    else
      let _ ← r.loadCache

/-- Makes a resolver ready: a warm start, then a first refresh, whose failure does not
matter. A resolver that is ready stays as it is. -/
def prepare (r : Resolver ε) : Task (ResolverState ε) Unit := do
  match ← Task.read (·.lifecycle) with
  | .initialized => pure ()
  | .destroyed => r.requireInitialized
  | .fresh =>
    r.warmStart
    let _ ← r.runRefresh.attempt
    -- The state is not read again, whatever has become of it since.
    .change fun s => { s with lifecycle := .initialized }

/-- Ends the life of a resolver and empties its store. -/
def destroy (r : Resolver ε) : Task (ResolverState ε) Unit := do
  if (← Task.read (·.lifecycle)) = .destroyed then pure ()
  else
    -- Nobody who is aboard of a flight is waited for.
    .change fun s =>
      { s with
        lifecycle := .destroyed
        warmUp := .abandoned
        store := s.store.clear
        negative := .empty
        flights := s.flights.close }
    r.gaugeSize

/-- Drops everything that is cached, in the store and in the persistent cache. -/
def clear (r : Resolver ε) : Task (ResolverState ε) Unit := do
  r.requireInitialized
  .change fun s => { s with store := s.store.clear, negative := .empty }
  r.gaugeSize
  match r.persistence with
  | none => pure ()
  | some _ =>
    let keys ← onCache (·.list)
    .forEach keys fun key => do
      let _ ← onCache (·.remove key)

/-- Drops what is cached of one entity. -/
def clearEntity (r : Resolver ε) (id : String) : Task (ResolverState ε) Unit := do
  r.requireInitialized
  let removed ← Task.read fun s => (s.store.find? id).getD []
  .change fun s => { s with store := s.store.remove id, negative := s.negative.erase id }
  r.gaugeSize
  match r.persistence with
  | none => pure ()
  | some p =>
    .forEach (keysOf p id removed) fun key => do
      let _ ← onCache (·.remove key)

/-- Evicts what has expired or has not been used for long, and forgets what was believed
absent until now; gives the number of records. -/
def cleanup (r : Resolver ε) : Task (ResolverState ε) Nat := do
  if (← Task.read (·.lifecycle)) = .destroyed then return 0
  else
    let evicted ← Task.perform fun s =>
      let (evicted, store) := s.store.cleanup s.now r.policy.longestIdle
      (evicted, { s with store, negative := s.negative.filter fun _ until_ => s.now < until_ })
    r.gaugeSize
    return evicted

/-! ## Background jobs

Jobs are counted, and their durations kept as zero, since nothing here measures time. -/

/-- Counts a run of a job. -/
def countJob (job status : String) : Task (ResolverState ε) Unit :=
  .change fun s => { s with metrics := s.metrics.backgroundJob job status 0.0 }

/-- Cleanup as a job. -/
def cleanupJob (r : Resolver ε) : Task (ResolverState ε) Nat := do
  let evicted ← r.cleanup
  countJob "resolver_cleanup" "success"
  return evicted

/-- Refreshing as a job. -/
def refreshJob (r : Resolver ε) : Task (ResolverState ε) (Option Delay) := do
  let result ← r.refresh.attempt
  let status := match result with
    | .ok _ => "success"
    | .error _ => "error"
  countJob "metadata_refresh" status
  .ofExcept result

end Federation.Resolver
