/-
# Routes

Every path that the service answers has a route. Requests are counted by the template of
their route, in which the place of the ID has a name. The ID itself is percent-encoded.
-/

import Federation.Api.Basic
import Federation.Criteria
import Federation.Text.Form

namespace Federation.Api

/-- The paths of the service. -/
inductive Route where
  | metrics
  | health
  | alive
  | ready
  | detailed
  | entities
  /-- One entity, with its ID as it stands in the path. -/
  | entity (encoded : String)
deriving DecidableEq, Repr

namespace Route

/-- The template of a route. -/
def template : Route → String
  | metrics => "/metrics"
  | health => "/health"
  | alive => "/health/live"
  | ready => "/health/ready"
  | detailed => "/health/detailed"
  | entities => "/entities"
  | entity _ => "/entities/:entity_id"

/-- The route of a path. -/
def ofPath (path : String) : Option Route :=
  match [metrics, health, alive, ready, detailed, entities].find? (·.template = path) with
  | some route => some route
  | none =>
    match Text.dropPrefix? "/entities/".toList path.toList with
    | none => none
    | some id => if id.isEmpty || id.contains '/' then none else some (entity (String.ofList id))

end Route

/-- The path of a request, and its query. -/
def Request.split (r : Request) : String × String :=
  let target := r.target.toList.takeWhile (· != '#')
  match Text.cutFirst? (· == '?') target with
  | some (path, query) => (String.ofList path, String.ofList query)
  | none => (String.ofList target, "")

/-! ## Queries for entities -/

/-- What a query states. -/
structure EntityQuery where
  role : Option String
  value : Option String
  artifact : Option String
deriving DecidableEq, Repr

namespace EntityQuery

/-- The value of a field, which may appear only once. -/
def field (fields : List (String × String)) (name : String) : Except String (Option String) :=
  match fields.filter (·.1 == name) with
  | [] => .ok none
  | [(_, value)] => .ok (some value)
  | _ => .error ("Failed to deserialize query string: duplicate field " ++ "\x60" ++ name ++ "\x60")

/-- What a written query states. -/
def ofText (query : String) : Except String EntityQuery :=
  let fields := Text.Form.decode query
  match field fields "role", field fields "value", field fields "artifact" with
  | .ok role, .ok value, .ok artifact => .ok ⟨role, value, artifact⟩
  | .error reason, _, _ => .error reason
  | _, .error reason, _ => .error reason
  | _, _, .error reason => .error reason

/-- The criterion of a named role. -/
def roleCriterion (name : String) : Except Failure Criterion :=
  match Metadata.Role.ofName name with
  | .ok role => .ok (.role role)
  | .error text => .error (.invalidArgument text)

/-- Adds the criterion of a part of a query, if it is stated. -/
def addPart (make : String → Except Failure Criterion) (stated : Option String)
    (query : Criteria) : Except Failure Criteria :=
  match stated with
  | none => .ok query
  | some s => (make s).map query.add

/-- The criteria of a query for one entity, of which only the role counts. -/
def criteriaFor (q : EntityQuery) (id : String) : Except Failure Criteria := do
  addPart roleCriterion q.role (← Criteria.forEntityId id)

/-- The criteria of a query for any entities. -/
def criteria (q : EntityQuery) : Except Failure Criteria := do
  let query ← addPart roleCriterion q.role .empty
  let query ← addPart Criterion.ofText q.value query
  let query ← addPart Criterion.ofArtifactText q.artifact query
  if query.isEmpty then
    .error (.invalidArgument "at least one of role, value or artifact is required")
  else .ok query

end EntityQuery

end Federation.Api
