/-
# Metrics

What the service did is counted under the names and labels of its metrics. Counters only
grow, gauges hold the last value set, and timers keep the durations they were given.
-/

namespace Federation

/-- What is counted. -/
inductive Counter where
  | artifactOperation (operation outcome : String)
  | backgroundJob (job status : String)
  | error (kind module : String)
  | request (method path status : String)
  | cacheHit (resolver : String)
  | cacheMiss (resolver : String)
  | originFetch (source outcome : String)
  | resolution (resolver outcome : String)
deriving DecidableEq, Repr

/-- What is set. -/
inductive Gauge where
  | storedEntities (resolver : String)
  | refreshTimestamp (resolver kind : String)
deriving DecidableEq, Repr

/-- What is timed. -/
inductive Timer where
  | originFetch (source : String)
  | backgroundJob (job : String)
deriving DecidableEq, Repr

/-- Everything counted, set and timed so far. -/
structure Metrics where
  counters : List (Counter × Nat)
  gauges : List (Gauge × Int)
  timers : List (Timer × List Float)

namespace Metrics

/-- Nothing recorded yet. -/
def empty : Metrics := ⟨[], [], []⟩

instance : Inhabited Metrics := ⟨empty⟩

/-- Adds one to the count of a key. -/
def bump {α : Type} [DecidableEq α] (key : α) : List (α × Nat) → List (α × Nat)
  | [] => [(key, 1)]
  | (other, n) :: rest =>
    if other = key then (other, n + 1) :: rest else (other, n) :: bump key rest

/-- Sets the value of a key. -/
def assign {α β : Type} [DecidableEq α] (key : α) (value : β) : List (α × β) → List (α × β)
  | [] => [(key, value)]
  | (other, v) :: rest =>
    if other = key then (other, value) :: rest else (other, v) :: assign key value rest

/-- Adds one to a counter. -/
def count (m : Metrics) (c : Counter) : Metrics := { m with counters := bump c m.counters }

/-- Sets a gauge. -/
def set (m : Metrics) (g : Gauge) (value : Int) : Metrics :=
  { m with gauges := assign g value m.gauges }

/-- Keeps a duration in seconds. -/
def observe (m : Metrics) (t : Timer) (seconds : Float) : Metrics :=
  { m with timers := assign t ((m.timers.lookup t).getD [] ++ [seconds]) m.timers }

/-- The value of a counter. -/
def value (m : Metrics) (c : Counter) : Nat := (m.counters.lookup c).getD 0

/-- The value of a gauge, once it has been set. -/
def gauge? (m : Metrics) (g : Gauge) : Option Int := m.gauges.lookup g

/-- Counts and times a fetch from an origin. -/
def originFetch (m : Metrics) (source outcome : String) (seconds : Float) : Metrics :=
  (m.count (.originFetch source outcome)).observe (.originFetch source) seconds

/-- Counts and times a run of a background job. -/
def backgroundJob (m : Metrics) (job status : String) (seconds : Float) : Metrics :=
  (m.count (.backgroundJob job status)).observe (.backgroundJob job) seconds

end Metrics

end Federation
