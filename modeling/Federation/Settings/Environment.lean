/-
# Settings from the environment

Every setting has a variable. One that is unset, or blank where a number or a truth value is
expected, keeps its standard; a text that cannot be read is refused and shown as it was
given. Lists are separated by commas.
-/

import Federation.Settings.Basic
import Federation.Decimal.Reader
import Federation.Failure

namespace Federation

open Federation.Text

/-- The variables that are set. -/
abbrev Environment := List (String × String)

namespace Environment

/-- The value of a variable. -/
def get? (env : Environment) (name : String) : Option String := env.lookup name

/-- The value of a variable, or a standard. -/
def text (env : Environment) (name standard : String) : String := (env.get? name).getD standard

/-- Reads a variable that is set and not blank. -/
def parse {α : Type} (env : Environment) (read : String → Option α) (name : String) (standard : α) :
    Except Failure α :=
  match env.get? name with
  | none => .ok standard
  | some value =>
    if isBlankText value then .ok standard
    else
      match read (trim value) with
      | some a => .ok a
      | none => .error (.configuration ("Invalid value for " ++ name ++ ": " ++ value))

/-- Reads a truth value. -/
def truth? (s : String) : Option Bool :=
  if s = "true" then some true else if s = "false" then some false else none

/-- A truth value. -/
def truth (env : Environment) : String → Bool → Except Failure Bool := env.parse truth?

/-- A number of 64 bits. -/
def number (env : Environment) : String → Nat → Except Failure Nat :=
  env.parse (Decimal.naturalBelow? 18446744073709551616)

/-- A list of texts; blank items are left out. -/
def list (env : Environment) (name : String) : List String :=
  ((split ',' (env.text name "")).map trim).filter fun s => !s.isEmpty

/-- A name and a key on the two sides of the first equals sign. -/
def trustKey (pair : String) : Except Failure (String × String) :=
  match cutFirst? (· == '=') pair.toList with
  | some (name, key) => .ok (trim (String.ofList name), trim (String.ofList key))
  | none => .error (.configuration ("Trust key must be name=hex: " ++ pair))

/-- Where metadata comes from. -/
def source (env : Environment) : Except Failure SourceSettings := do
  let kind := asciiLower (trim (env.text "METADATA_SOURCE_TYPE" "static"))
  if kind = "static" then
    return .file (env.text "METADATA_SOURCE_FILE" "./metadata.json")
  else if kind = "http" then
    match env.get? "METADATA_SOURCE_URL" with
    | none => .error (.configuration "METADATA_SOURCE_URL required for http source")
    | some url =>
      let shortest ← env.number "METADATA_MIN_REFRESH_DELAY" 300
      let longest ← env.number "METADATA_MAX_REFRESH_DELAY" 14400
      let factor ← env.parse Decimal.double? "METADATA_REFRESH_DELAY_FACTOR" 0.75
      return .document url shortest longest factor
  else if kind = "dynamic" then
    let idAsAddress ← env.truth "METADATA_DYNAMIC_ENTITY_ID_AS_URL" false
    let strict ← env.truth "METADATA_DYNAMIC_STRICT_HTTP" false
    return .queries (env.get? "METADATA_MDQ_BASE_URL") (env.get? "METADATA_DYNAMIC_URL_TEMPLATE")
      (env.text "METADATA_DYNAMIC_TEMPLATE_ENCODING" "form") idAsAddress strict
  else .error (.configuration ("Unknown METADATA_SOURCE_TYPE: " ++ kind))

/-- How the resolver caches. -/
def resolver (env : Environment) : Except Failure ResolverSettings := do
  let r := Settings.standard.resolver
  let shortestCache ← env.number "METADATA_MIN_CACHE_DURATION" r.shortestCache
  let longestCache ← env.number "METADATA_MAX_CACHE_DURATION" r.longestCache
  let negativeCache ← env.number "METADATA_NEGATIVE_LOOKUP_CACHE_DURATION" r.negativeCache
  let failureRetry ← env.number "METADATA_FAILURE_RETRY_INTERVAL" r.failureRetry
  let cleanupInterval ← env.number "METADATA_CLEANUP_INTERVAL" r.cleanupInterval
  let longestIdle ← env.number "METADATA_MAX_IDLE" r.longestIdle
  let singleFlight ← env.truth "METADATA_SINGLE_FLIGHT" r.singleFlight
  let secondaryLookup ← env.truth "METADATA_SECONDARY_LOOKUP" r.secondaryLookup
  let requestTimeout ← env.number "METADATA_REQUEST_TIMEOUT" r.requestTimeout
  return {
    id := env.text "METADATA_RESOLVER_ID" r.id
    shortestCache, longestCache, negativeCache
    failurePolicy := env.text "METADATA_REFRESH_FAILURE_POLICY" r.failurePolicy
    failureRetry, cleanupInterval, longestIdle, singleFlight, secondaryLookup, requestTimeout }

/-- What keeps copies of entities. -/
def copies (env : Environment) : Except Failure CopySettings :=
  let kind := asciiLower (trim (env.text "METADATA_PERSISTENCE_BACKEND" "filesystem"))
  if kind = "filesystem" then
    .ok (.directory (env.text "METADATA_PERSISTENCE_DIRECTORY" "./data/metadata-cache"))
  else if kind = "sqlite" then
    .ok (.table (env.text "METADATA_PERSISTENCE_SQLITE_PATH" "./data/metadata-cache.sqlite"))
  else .error (.configuration ("Unknown METADATA_PERSISTENCE_BACKEND: " ++ kind))

/-- Whether and how copies of entities are kept. -/
def persistence (env : Environment) : Except Failure PersistenceSettings := do
  let backend ← env.copies
  let enabled ← env.truth "METADATA_PERSISTENCE_ENABLED" false
  let initFromCache ← env.truth "METADATA_INIT_FROM_CACHE" true
  let backgroundInit ← env.truth "METADATA_BACKGROUND_INIT" false
  return { enabled, backend, initFromCache, backgroundInit }

/-- How metadata is checked. -/
def filters (env : Environment) : Except Failure FilterSettings := do
  let trustKeys ← (env.list "METADATA_TRUST_KEYS").mapM trustKey
  let requireValidUntil ← env.truth "METADATA_REQUIRE_VALID_UNTIL" false
  let longestValidity ← env.number "METADATA_MAX_VALIDITY_INTERVAL" 0
  let requireSignedRoot ← env.truth "METADATA_REQUIRE_SIGNED_ROOT" false
  let checkForm ← env.truth "METADATA_SCHEMA_VALIDATION" true
  return {
    requireValidUntil, longestValidity, trustKeys, requireSignedRoot, checkForm
    keptRoles := env.list "METADATA_RETAINED_ROLES" }

/-- How artifacts are kept. -/
def artifacts (env : Environment) : Except Failure ArtifactSettings := do
  let lifetime ← env.number "METADATA_ARTIFACT_LIFETIME" Settings.standard.artifacts.lifetime
  let sweepInterval ←
    env.number "METADATA_ARTIFACT_SWEEP_INTERVAL" Settings.standard.artifacts.sweepInterval
  let backend : ArtifactSettingsBackend :=
    match env.get? "METADATA_ARTIFACT_REDIS_URL" with
    | some url =>
      if isBlankText url then .memory
      else .keyValue url (env.text "METADATA_ARTIFACT_REDIS_PREFIX" "federation-metadata:")
    | none => .memory
  return { lifetime, sweepInterval, backend }

end Environment

/-- The settings of an environment. Of several faults the first in the order of the parts is
reported. -/
def Settings.ofEnvironment (env : Environment) : Except Failure Settings := do
  let port ← env.parse (Decimal.naturalBelow? 65536) "METADATA_PORT" 8480
  let source ← env.source
  let resolver ← env.resolver
  let persistence ← env.persistence
  let filters ← env.filters
  let artifacts ← env.artifacts
  return {
    service :=
      ⟨env.text "METADATA_HOSTNAME" "localhost", port, env.text "METADATA_VERSION" Settings.version⟩
    source, resolver, persistence, filters, artifacts
    logLevel := env.text "RUST_LOG" "info" }

end Federation
