/-
# Jobs

While jobs run, the resolver is cleaned up and the artifact map swept at fixed intervals, at
once for the first time, and an origin that can be refreshed is refreshed after the delay it
asked for. A refresh that failed is tried again after a delay of its own. The jobs of a
resolver end when it is destroyed; refreshing also ends when the origin names no delay.

Time passes in steps: from one instant at which a job is due to the next.
-/

import Federation.Service.Basic

namespace Federation

open Federation.Time

/-- How often jobs run. -/
structure JobIntervals where
  cleanup : Delay
  sweep : Delay

namespace JobIntervals

/-- Cleanup every half hour, a sweep every five minutes. -/
def standard : JobIntervals := ⟨.ofSeconds 1800, .ofSeconds 300⟩

end JobIntervals

/-- The delay after which a refresh is tried again if the origin names none. -/
def standardRetry : Delay := .ofSeconds 300

/-- When a job runs next. -/
inductive Due where
  /-- As soon as time passes. -/
  | first
  | at (t : Instant)
  | never
deriving DecidableEq, Repr

namespace Due

/-- Is a job due at an instant? -/
def isBy (d : Due) (t : Instant) : Bool :=
  match d with
  | first => true
  | .at due => due ≤ t
  | never => false

/-- The instant a delay later; timers count whole milliseconds, rounded up. -/
def after (now : Instant) (d : Delay) : Due :=
  match now.add? (Span.ofMillis ((d.nanos + 999999) / 1000000 : Nat)) with
  | some t => .at t
  | none => never

/-- The earlier of two instants at which jobs are due. -/
def earlier : Option Instant → Due → Option Instant
  | some t, .at due => some (t.earliest due)
  | none, .at due => some due
  | t, _ => t

end Due

/-- Jobs and when they run next. -/
structure Jobs where
  intervals : JobIntervals
  cleanup : Due
  refresh : Due
  sweep : Due

namespace Jobs

variable {ε ν : Type}

/-- A job that runs at fixed intervals; an interval of zero is no interval. -/
def periodic (interval : Delay) : Due := if interval = .zero then .never else .first

/-- The jobs of a service before any time passes. An origin that names no delay is not
refreshed. -/
def start (service : Service ε ν) (s : ServiceState ε ν) (intervals : JobIntervals)
    (sweeping : Bool) : Jobs where
  intervals := intervals
  cleanup := periodic intervals.cleanup
  refresh :=
    if (Resolver.nextRefreshDelay s.resolver).isSome
        || service.resolver.origin.retryDelay.isSome then .first
    else .never
  sweep := if sweeping then periodic intervals.sweep else .never

/-- No jobs. -/
def idle : Jobs := ⟨.standard, .never, .never, .never⟩

/-- The delay before the first refresh. -/
def firstDelay (service : Service ε ν) (s : ServiceState ε ν) : Delay :=
  match Resolver.nextRefreshDelay s.resolver with
  | some d => d
  | none => service.resolver.origin.retryDelay.getD standardRetry

/-- When to refresh again after a refresh. -/
def afterRefresh (service : Service ε ν) (now : Instant) : Outcome (Option Delay) → Due
  | .ok (some d) => .after now d
  | .ok none => .never
  | .failed _ => .after now (service.resolver.origin.retryDelay.getD standardRetry)
  | .overflow => .never

/-- Is the resolver destroyed? -/
def isOver (stage : Stage (ServiceState ε ν)) : Bool :=
  stage.state.resolver.lifecycle = .destroyed

/-- Runs cleanup if it is due. -/
def runCleanup (service : Service ε ν) (jobs : Jobs) (stage : Stage (ServiceState ε ν)) :
    Jobs × Stage (ServiceState ε ν) :=
  if isOver stage then ({ jobs with cleanup := .never }, stage)
  else if jobs.cleanup.isBy stage.state.now then
    let (_, stage) := stage.run (Service.onResolver service.resolver.cleanupJob)
    ({ jobs with cleanup := .after stage.state.now jobs.intervals.cleanup }, stage)
  else (jobs, stage)

/-- Refreshes if that is due. The first time there is a delay before. -/
def runRefresh (service : Service ε ν) (jobs : Jobs) (stage : Stage (ServiceState ε ν)) :
    Jobs × Stage (ServiceState ε ν) :=
  if isOver stage then ({ jobs with refresh := .never }, stage)
  else
    match jobs.refresh with
    -- Refreshing begins with its delay, unlike the jobs that run at fixed intervals.
    | .first =>
      ({ jobs with refresh := .after stage.state.now (firstDelay service stage.state) }, stage)
    | due =>
      if due.isBy stage.state.now then
        let (outcome, stage) := stage.run (Service.onResolver service.resolver.refreshJob)
        ({ jobs with refresh := afterRefresh service stage.state.now outcome }, stage)
      else (jobs, stage)

/-- Sweeps if that is due. -/
def runSweep (service : Service ε ν) (jobs : Jobs) (stage : Stage (ServiceState ε ν)) :
    Jobs × Stage (ServiceState ε ν) :=
  if jobs.sweep.isBy stage.state.now then
    let (_, stage) := stage.run (Service.onArtifacts service.artifacts.sweepJob)
    ({ jobs with sweep := .after stage.state.now jobs.intervals.sweep }, stage)
  else (jobs, stage)

/-- Is any job due? -/
def isAnyBy (jobs : Jobs) (t : Instant) : Bool :=
  jobs.cleanup.isBy t || jobs.refresh.isBy t || jobs.sweep.isBy t

/-- The next instant at which a job is due. -/
def next (jobs : Jobs) : Option Instant :=
  Due.earlier (Due.earlier (Due.earlier none jobs.cleanup) jobs.refresh) jobs.sweep

/-- Runs the jobs that are due, and lets time pass to the next instant at which one is, until
an instant at the end; the number of steps is bounded. -/
def pass (service : Service ε ν) (until_ : Instant) :
    (steps : Nat) → Jobs → Stage (ServiceState ε ν) → Jobs × Stage (ServiceState ε ν)
  | 0, jobs, stage => (jobs, stage)
  | steps + 1, jobs, stage =>
    if jobs.isAnyBy stage.state.now then
      let (jobs, stage) := runCleanup service jobs stage
      let (jobs, stage) := runRefresh service jobs stage
      let (jobs, stage) := runSweep service jobs stage
      pass service until_ steps jobs stage
    else
      -- Nothing happens between two instants at which a job is due, so the clock may jump.
      match jobs.next with
      | some t =>
        if t ≤ until_ then
          pass service until_ steps jobs { stage with state := stage.state.setClock t }
        else (jobs, { stage with state := stage.state.setClock until_ })
      | none => (jobs, { stage with state := stage.state.setClock until_ })

/-- Lets time pass until an instant. Background tasks that can go on do so before it begins and
after it has ended. -/
def elapse (service : Service ε ν) (until_ : Instant) (jobs : Jobs)
    (stage : Stage (ServiceState ε ν)) : Jobs × Stage (ServiceState ε ν) :=
  let (jobs, stage) := pass service until_ Stage.patience jobs (stage.settle Stage.patience)
  (jobs, stage.settle Stage.patience)

end Jobs

end Federation
