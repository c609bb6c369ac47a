/-
# Checked settings

Before the service starts its settings are checked part by part. The same settings are then
turned into what the resolver and the jobs work with. Durations are turned into spans;
numbers of seconds that fit into 63 bits but exceed the reach of spans have none, larger
numbers count as the longest span.
-/

import Federation.Settings.Json
import Federation.Outcome
import Federation.Origin.Address
import Federation.Resolver.Policy

namespace Federation

open Federation.Time Federation.Text

namespace Settings

/-- The span of a number of seconds. -/
def spanOfSeconds (n : Nat) : Outcome Span :=
  Outcome.ofOption (Span.ofSeconds? (if n ≤ 9223372036854775807 then n else 9223372036854775))

/-- A failure of settings. -/
def refuse {α : Type} (text : String) : Outcome α := .failed (.configuration text)

/-- What happens when an entity cannot be fetched again. -/
def failurePolicy (s : Settings) : Outcome FailurePolicy :=
  let name := asciiLower (trim s.resolver.failurePolicy)
  if name = "retain" then do return .retain (← spanOfSeconds s.resolver.failureRetry)
  else if name = "evict" then .ok .evict
  else refuse ("Unknown refresh failure policy: " ++ name)

/-- The roles that are kept. -/
def keptRoles (s : Settings) : Outcome (List Metadata.Role) :=
  s.filters.keptRoles.mapM fun name =>
    match Metadata.Role.ofName name with
    | .ok role => .ok role
    | .error text => refuse text

/-- Checks where metadata comes from. -/
def checkSource : SourceSettings → Outcome Unit
  | .file path => if path.isEmpty then refuse "Static source requires a file" else .ok ()
  | .document url shortest longest factor =>
    if isBlankText url then refuse "HTTP source requires a URL"
    else if longest < shortest then refuse "Minimum refresh delay exceeds maximum"
    else if 0.0 < factor && factor ≤ 1.0 then .ok ()
    else refuse "Refresh delay factor must be in (0, 1]"
  | .queries base template encoding idAsAddress _ =>
    if base.isNone && template.isNone && !idAsAddress then
      refuse "Dynamic source requires an MDQ base URL, a URL template or entity-ID-as-URL"
    else if template.any fun t => !occursIn Origin.placeholder.toList t.toList then
      refuse ("URL template must contain " ++ Origin.placeholder)
    else
      match Origin.TemplateEncoding.ofName encoding with
      | .ok _ => .ok ()
      | .error text => refuse text

/-- Checks all settings, up to the first that is refused. -/
def check (s : Settings) : Outcome Unit := do
  if s.service.hostname.isEmpty then refuse "Hostname cannot be empty"
  if isBlankText s.resolver.id then refuse "Resolver id cannot be empty"
  if s.resolver.longestCache < s.resolver.shortestCache then
    refuse "Minimum cache duration exceeds maximum"
  if s.resolver.requestTimeout = 0 then refuse "Request timeout must be positive"
  if s.resolver.cleanupInterval = 0 then refuse "Cleanup interval must be positive"
  let _ ← s.failurePolicy
  checkSource s.source
  if s.filters.requireSignedRoot && s.filters.trustKeys.isEmpty then
    refuse "Signed metadata required but no trust keys configured"
  let _ ← s.keptRoles
  if s.artifacts.lifetime = 0 || s.artifacts.sweepInterval = 0 then
    refuse "Artifact lifetime and sweep interval must be positive"

/-- A span unless the number of seconds is zero. -/
def spanUnlessZero (n : Nat) : Outcome (Option Span) :=
  if n = 0 then .ok none else do return some (← spanOfSeconds n)

/-- The rules by which the resolver caches. -/
def cachePolicy (s : Settings) : Outcome CachePolicy := do
  let r := s.resolver
  let shortest ← spanOfSeconds r.shortestCache
  let longest ← spanOfSeconds r.longestCache
  let negative ← spanUnlessZero r.negativeCache
  let onFailure ← s.failurePolicy
  let longestIdle ← spanUnlessZero r.longestIdle
  return { shortest, longest, negative, onFailure, longestIdle,
           singleFlight := r.singleFlight, secondaryLookup := r.secondaryLookup }

end Settings

end Federation
