/-
# The text of metrics

Metrics are written family by family, in the order of their names, each with a line of
help and one of type. Within a family samples are ordered by the values of their labels,
and labels by their names. A timer is written as cumulative counts below fixed bounds, a sum
and a count.
-/

import Federation.Metrics.Basic
import Federation.Decimal.Shortest

namespace Federation.Metrics

/-- A family of samples. -/
structure Family where
  name : String
  help : String
  kind : String

/-- The family of a counter. -/
def counterFamily : Counter → Family
  | .artifactOperation _ _ =>
    ⟨"artifact_operations_total", "Total number of artifact map operations", "counter"⟩
  | .backgroundJob _ _ =>
    ⟨"background_jobs_total", "Total number of background job executions", "counter"⟩
  | .error _ _ => ⟨"errors_total", "Total number of errors", "counter"⟩
  | .request _ _ _ => ⟨"http_requests_total", "Total number of HTTP requests", "counter"⟩
  | .cacheHit _ => ⟨"metadata_cache_hits_total", "Total number of backing store hits", "counter"⟩
  | .cacheMiss _ =>
    ⟨"metadata_cache_misses_total", "Total number of backing store misses", "counter"⟩
  | .originFetch _ _ =>
    ⟨"metadata_origin_fetches_total", "Total number of origin fetches", "counter"⟩
  | .resolution _ _ =>
    ⟨"metadata_resolutions_total", "Total number of metadata resolutions", "counter"⟩

/-- The labels of a counter, sorted by name. -/
def counterLabels : Counter → List (String × String)
  | .artifactOperation operation outcome => [("operation", operation), ("outcome", outcome)]
  | .backgroundJob job status => [("job_type", job), ("status", status)]
  | .error kind module => [("error_type", kind), ("module", module)]
  | .request method path status => [("method", method), ("path", path), ("status", status)]
  | .cacheHit resolver => [("resolver", resolver)]
  | .cacheMiss resolver => [("resolver", resolver)]
  | .originFetch source outcome => [("outcome", outcome), ("source", source)]
  | .resolution resolver outcome => [("outcome", outcome), ("resolver", resolver)]

/-- The family of a gauge. -/
def gaugeFamily : Gauge → Family
  | .storedEntities _ =>
    ⟨"metadata_backing_store_entities", "Number of entities in the backing store", "gauge"⟩
  | .refreshTimestamp _ _ =>
    ⟨"metadata_refresh_timestamp_seconds",
      "Unix time of the last refresh attempt or data update", "gauge"⟩

/-- The labels of a gauge, sorted by name. -/
def gaugeLabels : Gauge → List (String × String)
  | .storedEntities resolver => [("resolver", resolver)]
  | .refreshTimestamp resolver kind => [("kind", kind), ("resolver", resolver)]

/-- The family of a timer. -/
def timerFamily : Timer → Family
  | .originFetch _ =>
    ⟨"metadata_origin_fetch_duration_seconds", "Origin fetch latencies in seconds", "histogram"⟩
  | .backgroundJob _ =>
    ⟨"background_job_duration_seconds", "Background job execution time in seconds", "histogram"⟩

/-- The labels of a timer. -/
def timerLabels : Timer → List (String × String)
  | .originFetch source => [("source", source)]
  | .backgroundJob job => [("job_type", job)]

/-- The bounds below which durations are counted. -/
def timerBounds : Timer → List Float
  | .originFetch _ => [0.005, 0.01, 0.025, 0.05, 0.1, 0.25, 0.5, 1.0, 2.5, 5.0, 10.0, 30.0]
  | .backgroundJob _ => [0.001, 0.01, 0.1, 0.5, 1.0, 5.0, 10.0, 30.0, 60.0]

/-- A label value with its quotes, backslashes and line ends escaped. -/
def escapeLabel (s : String) : String :=
  String.ofList <| s.toList.flatMap fun c =>
    if c = '\\' then ['\\', '\\']
    else if c = '\n' then ['\\', 'n']
    else if c = '"' then ['\\', '"']
    else [c]

/-- Labels between braces. -/
def labelText (labels : List (String × String)) : String :=
  let one := fun (name, value) => name ++ "=\"" ++ escapeLabel value ++ "\""
  let joined := labels.map one
  let rec join : List String → String
    | [] => ""
    | [s] => s
    | s :: rest => s ++ "," ++ join rest
  "\x7b" ++ join joined ++ "\x7d"

/-- A whole number as samples show it: through the nearest double. -/
def wholeText (n : Int) : String :=
  Decimal.plainText (if n < 0 then -(Float.ofNat n.natAbs) else Float.ofNat n.natAbs).toBits

/-- The lines of a timer with some durations. -/
def timerLines (t : Timer) (durations : List Float) : List String :=
  let name := (timerFamily t).name
  let labels := timerLabels t
  let total := toString durations.length
  let below (bound : Float) : String :=
    let n := (durations.filter fun d => d ≤ bound).length
    name ++ "_bucket" ++ labelText (labels ++ [("le", Decimal.plainText bound.toBits)]) ++ " "
      ++ toString n
  (timerBounds t).map below
    ++ [name ++ "_bucket" ++ labelText (labels ++ [("le", "+Inf")]) ++ " " ++ total,
      name ++ "_sum" ++ labelText labels ++ " "
        ++ Decimal.plainText (durations.foldl (· + ·) 0.0).toBits,
      name ++ "_count" ++ labelText labels ++ " " ++ total]

/-- The lines of one set of labels in a family. -/
structure Series where
  family : Family
  labels : List String
  lines : List String

/-- Every series of the metrics. The time since the start is not kept and shown as zero. -/
def series (m : Metrics) : List Series :=
  (m.counters.map fun (c, n) =>
    ⟨counterFamily c, (counterLabels c).map (·.2),
      [(counterFamily c).name ++ labelText (counterLabels c) ++ " " ++ wholeText n]⟩)
  ++ (m.gauges.map fun (g, n) =>
    ⟨gaugeFamily g, (gaugeLabels g).map (·.2),
      [(gaugeFamily g).name ++ labelText (gaugeLabels g) ++ " " ++ wholeText n]⟩)
  ++ (m.timers.map fun (t, durations) =>
    ⟨timerFamily t, (timerLabels t).map (·.2), timerLines t durations⟩)
  ++ [⟨⟨"uptime_seconds", "Application uptime in seconds", "gauge"⟩, [], ["uptime_seconds 0"]⟩]

/-- Does one series come before another? -/
def Series.before (a b : Series) : Bool :=
  a.family.name < b.family.name ||
    (a.family.name == b.family.name && !List.lex b.labels a.labels fun x y => x < y)

/-- Writes sorted series, with help and type before the first of each family. -/
def writeSeries : (last : String) → List Series → List String
  | _, [] => []
  | last, s :: rest =>
    (if s.family.name = last then []
      else ["# HELP " ++ s.family.name ++ " " ++ s.family.help,
        "# TYPE " ++ s.family.name ++ " " ++ s.family.kind])
      ++ s.lines ++ writeSeries s.family.name rest

/-- The lines of the metrics. -/
def lines (m : Metrics) : List String :=
  writeSeries "" ((series m).mergeSort Series.before)

end Federation.Metrics
