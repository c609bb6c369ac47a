/-
# Settings as JSON

Settings are written and read as an object with a member for each part. The parts that come
in kinds name theirs in the member `type`, or as first item when written as an array.
-/

import Federation.Settings.Basic
import Federation.Json.Decoder
import Federation.Json.Writer

namespace Federation

open Federation.Json

/-- The largest number of a duration. -/
def maxDuration : Nat := 18446744073709551615

/-- A value of settings. -/
def settingsNatural (n : Nat) : Value := .number (.natural n)

/-- A text that may be missing. -/
def settingsText? : Option String → Value
  | some s => .string s
  | none => .null

/-- The value of a source. -/
def SourceSettings.value : SourceSettings → Value
  | file path => .object [("type", .string "static"), ("file", .string path)]
  | document url shortest longest factor =>
    .object [("type", .string "http"), ("url", .string url),
      ("min_refresh_delay_secs", settingsNatural shortest),
      ("max_refresh_delay_secs", settingsNatural longest),
      ("refresh_delay_factor", .number (.double factor.toBits))]
  | queries base template encoding idAsAddress strict =>
    .object [("type", .string "dynamic"), ("mdq_base_url", settingsText? base),
      ("url_template", settingsText? template), ("template_encoding", .string encoding),
      ("entity_id_as_url", .bool idAsAddress), ("strict_http", .bool strict)]

/-- The value of all settings. -/
def Settings.value (s : Settings) : Value :=
  let r := s.resolver
  let p := s.persistence
  let f := s.filters
  .object [
    ("service", .object [("hostname", .string s.service.hostname),
      ("port", settingsNatural s.service.port), ("version", .string s.service.version)]),
    ("source", s.source.value),
    ("resolver", .object [("id", .string r.id),
      ("min_cache_duration_secs", settingsNatural r.shortestCache),
      ("max_cache_duration_secs", settingsNatural r.longestCache),
      ("negative_lookup_cache_secs", settingsNatural r.negativeCache),
      ("refresh_failure_policy", .string r.failurePolicy),
      ("failure_retry_interval_secs", settingsNatural r.failureRetry),
      ("cleanup_interval_secs", settingsNatural r.cleanupInterval),
      ("max_idle_secs", settingsNatural r.longestIdle),
      ("single_flight", .bool r.singleFlight),
      ("secondary_lookup", .bool r.secondaryLookup),
      ("request_timeout_secs", settingsNatural r.requestTimeout)]),
    ("persistence", .object [("enabled", .bool p.enabled),
      ("backend", match p.backend with
        | .directory path => .object [("type", .string "filesystem"), ("directory", .string path)]
        | .table path => .object [("type", .string "sqlite"), ("path", .string path)]),
      ("init_from_cache", .bool p.initFromCache), ("background_init", .bool p.backgroundInit)]),
    ("filters", .object [("require_valid_until", .bool f.requireValidUntil),
      ("max_validity_interval_secs", settingsNatural f.longestValidity),
      ("trust_keys",
        .array (f.trustKeys.map fun (name, key) => .array [.string name, .string key])),
      ("require_signed_root", .bool f.requireSignedRoot),
      ("schema_validation", .bool f.checkForm),
      ("retained_roles", .array (f.keptRoles.map .string))]),
    ("artifacts", .object [("lifetime_secs", settingsNatural s.artifacts.lifetime),
      ("sweep_interval_secs", settingsNatural s.artifacts.sweepInterval),
      ("backend", match s.artifacts.backend with
        | .memory => .object [("type", .string "memory")]
        | .keyValue url keyPrefix => .object [("type", .string "redis"), ("url", .string url),
            ("key_prefix", .string keyPrefix)])]),
    ("logging", .object [("level", .string s.logLevel)])]

/-- Takes the members of a record one by one into a list by name. -/
def collect (names : List String) : Decoder (List (String × Outline)) :=
  let step : Step (List (String × Outline)) := fun found name o =>
    if names.contains name then .ok (found ++ [(name, o)]) else passOver found o
  record names step [] .ok

/-- Decodes a member that must be there. -/
def need {α : Type} (decoder : Decoder α) (name : String) (found : List (String × Outline)) :
    Except Fault α :=
  match found.lookup name with
  | some o => decoder o
  | none => .error .shape

/-- Decodes a member that may be null or missing. -/
def want {α : Type} (decoder : Decoder α) (name : String) (found : List (String × Outline)) :
    Except Fault (Option α) :=
  match found.lookup name with
  | some o => optional decoder o
  | none => .ok none

/-- Decodes a duration. -/
def duration : Decoder Nat := natural maxDuration

/-- Splits what comes in kinds into the name of its kind and the rest. -/
def kindOf : Outline → Except Fault (String × Outline)
  | .object members closed =>
    match (members.filter fun m => m.1 == some "type").getLast? with
    | some (_, o) =>
      (Json.string o).map fun kind =>
        (kind, .object (members.filter fun m => m.1 != some "type") closed)
    | none => .error .shape
  | .array (first :: rest) closed => (Json.string first).map fun kind => (kind, .array rest closed)
  | _ => .error .shape

/-- Decodes how the service presents itself. -/
def decodeService : Decoder ServiceSettings := fun o => do
  let m ← collect ["hostname", "port", "version"] o
  return ⟨← need Json.string "hostname" m, ← need (natural 65535) "port" m,
    ← need Json.string "version" m⟩

/-- Decodes where metadata comes from. -/
def decodeSource : Decoder SourceSettings := fun o => do
  let (kind, o) ← kindOf o
  if kind = "static" then
    let m ← collect ["file"] o
    return .file (← need Json.string "file" m)
  else if kind = "http" then
    let m ← collect
      ["url", "min_refresh_delay_secs", "max_refresh_delay_secs", "refresh_delay_factor"] o
    return .document (← need Json.string "url" m) (← need duration "min_refresh_delay_secs" m)
      (← need duration "max_refresh_delay_secs" m) (← need double "refresh_delay_factor" m)
  else if kind = "dynamic" then
    let m ← collect
      ["mdq_base_url", "url_template", "template_encoding", "entity_id_as_url", "strict_http"] o
    return .queries (← want Json.string "mdq_base_url" m) (← want Json.string "url_template" m)
      (← need Json.string "template_encoding" m) (← need Json.bool "entity_id_as_url" m)
      (← need Json.bool "strict_http" m)
  else .error .shape

/-- Decodes how the resolver caches. -/
def decodeResolver : Decoder ResolverSettings := fun o => do
  let m ← collect
    ["id", "min_cache_duration_secs", "max_cache_duration_secs", "negative_lookup_cache_secs",
      "refresh_failure_policy", "failure_retry_interval_secs", "cleanup_interval_secs",
      "max_idle_secs", "single_flight", "secondary_lookup", "request_timeout_secs"] o
  return {
    id := ← need Json.string "id" m
    shortestCache := ← need duration "min_cache_duration_secs" m
    longestCache := ← need duration "max_cache_duration_secs" m
    negativeCache := ← need duration "negative_lookup_cache_secs" m
    failurePolicy := ← need Json.string "refresh_failure_policy" m
    failureRetry := ← need duration "failure_retry_interval_secs" m
    cleanupInterval := ← need duration "cleanup_interval_secs" m
    longestIdle := ← need duration "max_idle_secs" m
    singleFlight := ← need Json.bool "single_flight" m
    secondaryLookup := ← need Json.bool "secondary_lookup" m
    requestTimeout := ← need duration "request_timeout_secs" m }

/-- Decodes what keeps copies of entities. -/
def decodeCopies : Decoder CopySettings := fun o => do
  let (kind, o) ← kindOf o
  if kind = "filesystem" then
    return .directory (← need Json.string "directory" (← collect ["directory"] o))
  else if kind = "sqlite" then
    return .table (← need Json.string "path" (← collect ["path"] o))
  else .error .shape

/-- Decodes whether and how copies of entities are kept. -/
def decodePersistence : Decoder PersistenceSettings := fun o => do
  let m ← collect ["enabled", "backend", "init_from_cache", "background_init"] o
  return ⟨← need Json.bool "enabled" m, ← need decodeCopies "backend" m,
    ← need Json.bool "init_from_cache" m, ← need Json.bool "background_init" m⟩

/-- Decodes a pair of texts. -/
def decodePair : Decoder (String × String)
  | .array [a, b] _ => do return (← Json.string a, ← Json.string b)
  | _ => .error .shape

/-- Decodes how metadata is checked. -/
def decodeFilters : Decoder FilterSettings := fun o => do
  let m ← collect
    ["require_valid_until", "max_validity_interval_secs", "trust_keys", "require_signed_root",
      "schema_validation", "retained_roles"] o
  return ⟨← need Json.bool "require_valid_until" m, ← need duration "max_validity_interval_secs" m,
    ← need (Json.list decodePair) "trust_keys" m, ← need Json.bool "require_signed_root" m,
    ← need Json.bool "schema_validation" m, ← need (Json.list Json.string) "retained_roles" m⟩

/-- Decodes what keeps artifacts. -/
def decodeArtifactBackend : Decoder ArtifactSettingsBackend := fun o => do
  let (kind, o) ← kindOf o
  if kind = "memory" then
    match o with
    | .array (_ :: _) _ => .error .shape
    | _ => return .memory
  else if kind = "redis" then
    let m ← collect ["url", "key_prefix"] o
    return .keyValue (← need Json.string "url" m) (← need Json.string "key_prefix" m)
  else .error .shape

/-- Decodes how artifacts are kept. -/
def decodeArtifacts : Decoder ArtifactSettings := fun o => do
  let m ← collect ["lifetime_secs", "sweep_interval_secs", "backend"] o
  return ⟨← need duration "lifetime_secs" m, ← need duration "sweep_interval_secs" m,
    ← need decodeArtifactBackend "backend" m⟩

/-- Decodes all settings. -/
def decodeSettings : Decoder Settings := fun o => do
  let m ← collect
    ["service", "source", "resolver", "persistence", "filters", "artifacts", "logging"] o
  return {
    service := ← need decodeService "service" m
    source := ← need decodeSource "source" m
    resolver := ← need decodeResolver "resolver" m
    persistence := ← need decodePersistence "persistence" m
    filters := ← need decodeFilters "filters" m
    artifacts := ← need decodeArtifacts "artifacts" m
    logLevel := ← need (fun o => do need Json.string "level" (← collect ["level"] o)) "logging" m }

mutual

/-- Lays members over those of another value. An object that names its kind, and whatever is
no object, takes the place of what was there. -/
def overlay (base : Value) : Value → Value
  | .object members =>
    if members.any (·.1 == "type") then .object members
    else
      match base with
      | .object old => .object (overlayMembers old members)
      | _ => .object members
  | v => v

/-- Lays members over a list of others. -/
def overlayMembers (base : List (String × Value)) : List (String × Value) → List (String × Value)
  | [] => base
  | (name, v) :: rest =>
    let below := overlay ((base.lookup name).getD .null) v
    overlayMembers (putMember name below base) rest

end

/-- The settings of a value laid over the standard ones. -/
def Settings.ofOverrides (overrides : Value) : Except Fault Settings :=
  decodeValue decodeSettings (overlay Settings.standard.value.merged overrides.merged)

end Federation
