/-
# Answering requests

A request goes to the handler of its route and method. A path without a route, and a method
that a route does not have, are answered as such. Every request that has a route is counted
with the status of its answer.
-/

import Federation.Api.Health
import Federation.Api.Route
import Federation.Metrics.Text

namespace Federation.Api

open Federation.Metadata

variable {ε ν : Type}

/-- The answer with the entities that were found. -/
def found (entities : List Entity) : Response :=
  .object 200 [("entities", .array (entities.map Entity.value))]

/-- Answers a failure as such. -/
def guarded (t : Task (ServiceState ε ν) Response) : Task (ServiceState ε ν) Response := do
  match ← t.attempt with
  | .ok response => return response
  | .error failure => return .ofFailure failure

/-- Answers a query that may not be understood. -/
def withQuery (query : String) (f : EntityQuery → Task (ServiceState ε ν) Response) :
    Task (ServiceState ε ν) Response :=
  match EntityQuery.ofText query with
  | .ok q => guarded (f q)
  | .error reason => return .unintelligible reason

/-- Answers about an entity, unless its ID is no text. -/
def withId (encoded : String) (f : String → Task (ServiceState ε ν) Response) :
    Task (ServiceState ε ν) Response :=
  match Text.Percent.decode? encoded with
  | some id => f id
  | none => return .unintelligible ("Invalid UTF-8 in " ++ "\x60entity_id\x60")

/-- One entity, of which all descriptions are given. -/
def getEntity (service : Service ε ν) (id : String) (q : EntityQuery) :
    Task (ServiceState ε ν) Response := do
  let query ← .ofExcept (q.criteriaFor id)
  match ← Service.onResolver (service.resolver.resolve query) with
  | [] => .fail (.notFound id)
  | entities => return found entities

/-- The entities that a query finds, be it none. -/
def queryEntities (service : Service ε ν) (q : EntityQuery) : Task (ServiceState ε ν) Response := do
  let query ← .ofExcept q.criteria
  return found (← Service.onResolver (service.resolver.resolve query))

/-- Drops cached data. -/
def dropped (t : Task (ResolverState ε) Unit) : Task (ServiceState ε ν) Response :=
  guarded do
    Service.onResolver t
    return .bare 204

/-- The metrics as they are collected. -/
def metricsReport (s : ServiceState ε ν) : Response :=
  ⟨200, .text "text/plain; version=0.0.4"
    (String.join (s.resolver.metrics.lines.map fun line => line ++ "\n"))⟩

/-- Answers a request to read. -/
def get (service : Service ε ν) (query : String) : Route → Task (ServiceState ε ν) Response
  | .metrics => Task.read metricsReport
  | .health => return statusReport "ok"
  | .alive => return statusReport "alive"
  | .ready => Task.read fun s => readyReport service.resolver s.resolver
  | .detailed => checkAll service
  | .entities => withQuery query (queryEntities service)
  | .entity encoded => withId encoded fun id => withQuery query (getEntity service id)

/-- Answers a request to delete, where there is one. -/
def delete (service : Service ε ν) : Route → Option (Task (ServiceState ε ν) Response)
  | .entities => some (dropped service.resolver.clear)
  | .entity encoded => some (withId encoded fun id => dropped (service.resolver.clearEntity id))
  | _ => none

/-- Answers a request that has a route. -/
def handle (service : Service ε ν) (method query : String) (route : Route) :
    Task (ServiceState ε ν) Response :=
  if method = "GET" then get service query route
  else if method = "HEAD" then do return (← get service query route).headOnly
  else if method = "DELETE" then (delete service route).getD (pure (.bare 405))
  else return .bare 405

/-- Answers a request. -/
def answer (service : Service ε ν) (request : Request) : Task (ServiceState ε ν) Response := do
  let (path, query) := request.split
  match Route.ofPath path with
  | none => return .noEndpoint
  | some route =>
    -- A request is counted once it is answered, so a report of the metrics leaves itself out.
    let response ← handle service request.method query route
    Service.onResolver <| ResolverState.count
      (.request request.method route.template (toString response.status))
    return response

end Federation.Api
