/-
# Health

The service tells whether it is alive, whether it is ready, and how its parts are. A resolver
whose last refresh failed still serves what it had, which counts as degraded. How long the
checks took, and how long the service has been up, is not part of the reports here.
-/

import Federation.Api.Basic
import Federation.Metadata.Canonical
import Federation.Service.Basic
import Federation.Settings.Basic

namespace Federation.Api

open Federation.Json

/-- How a part of the service is. -/
inductive Health where
  | healthy
  | degraded
  | unhealthy
deriving DecidableEq, Repr

namespace Health

/-- The word for it. -/
def text : Health → String
  | healthy => "healthy"
  | degraded => "degraded"
  | unhealthy => "unhealthy"

/-- The worse of two. -/
def worse : Health → Health → Health
  | unhealthy, _ | _, unhealthy => unhealthy
  | degraded, _ | _, degraded => degraded
  | healthy, healthy => healthy

/-- The status of an answer that reports it. -/
def status : Health → Nat
  | unhealthy => 503
  | _ => 200

end Health

/-- A value that may be missing. -/
def orNull {α : Type} (write : α → Value) : Option α → Value
  | some a => write a
  | none => .null

/-- What is reported of refreshing. -/
def refreshValue (s : RefreshStatus) : Value :=
  .object [("lastRefresh", orNull Metadata.instantValue s.lastRefresh),
    ("lastUpdate", orNull Metadata.instantValue s.lastUpdate),
    ("nextRefresh", orNull Metadata.instantValue s.nextRefresh),
    ("lastError", orNull .string s.lastError)]

/-- The version of the service, as a member. -/
def versionMember : String × Value := ("version", .string Settings.version)

/-- That the service answers at all. -/
def statusReport (word : String) : Response := .object 200 [("status", .string word), versionMember]

variable {ε ν : Type}

/-- Whether a resolver is ready. -/
def readyReport (r : Resolver ε) (s : ResolverState ε) : Response :=
  if s.lifecycle = .initialized then
    .object 200 [("status", .string "ready"), versionMember, ("resolver", .string r.id),
      ("entities", Metadata.naturalValue s.store.size), ("refresh", refreshValue s.status)]
  else
    .object 503 [("status", .string "not_ready"), ("resolver", .string r.id),
      ("refresh", refreshValue s.status)]

/-- How a resolver is. -/
def resolverHealth (s : ResolverState ε) : Health :=
  if s.lifecycle ≠ .initialized then .unhealthy
  else if s.status.lastError.isSome then .degraded
  else .healthy

/-- The report of one part. -/
structure Check where
  name : String
  health : Health
  failure : Option String
  details : Option Value

/-- The value of a report. -/
def Check.value (c : Check) : Value :=
  .object <|
    ("name", .string c.name) :: ("status", .string c.health.text)
      :: Metadata.optionalMember "error" .string c.failure
        ++ Metadata.optionalMember "details" id c.details

/-- The report on a resolver. -/
def checkResolver (r : Resolver ε) (s : ResolverState ε) : Check :=
  ⟨"resolver", resolverHealth s, s.status.lastError,
    some (.object [("id", .string r.id), ("entities", Metadata.naturalValue s.store.size),
      ("refresh", refreshValue s.status)])⟩

/-- The artifact that is asked for to see whether the artifact map answers. -/
def probe : String := "health-check-probe"

/-- The report on an artifact map that answered a probe. -/
def checkArtifacts (answer : Except Failure Bool) : Check :=
  match answer with
  | .ok _ => ⟨"artifact_map", .healthy, none, none⟩
  | .error failure => ⟨"artifact_map", .unhealthy, some failure.message, none⟩

/-- The report on all parts. -/
def detailedReport (checks : List Check) : Response :=
  let overall := (checks.map (·.health)).foldl Health.worse .healthy
  .object overall.status <|
    [("status", .string overall.text), versionMember, ("checks", .array (checks.map Check.value))]
      ++ if overall = .healthy then []
        else [("message", .string "One or more components are unhealthy")]

/-- Checks all parts. -/
def checkAll (service : Service ε ν) : Task (ServiceState ε ν) Response := do
  let resolver ← Task.read fun s => checkResolver service.resolver s.resolver
  let answer ← (Service.onArtifacts (service.artifacts.contains probe)).attempt
  return detailedReport [resolver, checkArtifacts answer]

end Federation.Api
