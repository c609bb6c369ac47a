/-
# Pulling a whole document

A pull asks for one document that holds all entities, unless it is still the one at hand.
Queries are answered from the last document that was loaded, filtered and not empty. A pull
that fails leaves that document in place.
-/

import Federation.Metadata.Load
import Federation.Origin.Network
import Federation.Origin.Schedule
import Federation.Origin.Snapshot

namespace Federation.Origin

open Federation.Metadata Federation.Time

/-- A document that is pulled again and again. -/
structure PullSource where
  /-- The name under which fetches are counted. -/
  name : String
  address : String
  schedule : Schedule

/-- A source, unless the bounds of its delays are out of order. -/
def PullSource.ofSchedule (name address : String) (schedule : Schedule) :
    Except Failure PullSource :=
  if schedule.longest < schedule.shortest then
    .error (.configuration "minimum refresh delay exceeds maximum refresh delay")
  else .ok ⟨name, address, schedule⟩

/-- What is at hand of the last document: its entities, what tells whether it has changed,
and the delay it asked for. -/
structure Pulled where
  snapshot : Snapshot
  tag : Option String
  modified : Option String
  delay : Option Delay

/-- Nothing at hand. -/
def Pulled.empty : Pulled := ⟨.empty, none, none, none⟩

/-- What a pull works on. -/
structure PullState (ν : Type) where
  pulled : Pulled
  network : ν

/-- The network of a pull. -/
def PullState.wire {ν : Type} : Task.Place (PullState ν) ν where
  get s := s.network
  put s network := { s with network }

/-- A document as it came. -/
structure Delivery where
  body : List UInt8
  tag : Option String
  modified : Option String

namespace PullSource

variable {ν : Type}

/-- Accepts an answer: a new document, or none if the one at hand is still good. -/
def accept (source : PullSource) (r : Response) :
    Task (OriginScope (PullState ν)) (Option Delivery) := do
  if r.status = 304 then return none
  else if !r.isSuccess then .fail (refused source.address r)
  else
    let body ← bodyOf source.address r
    return some ⟨body, r.header? "etag", r.header? "last-modified"⟩

/-- Asks for the document, with what is known of the one at hand. -/
def pull (source : PullSource) (network : Network ν) :
    Task (OriginScope (PullState ν)) (Option Delivery) := do
  let pulled ← Task.read (·.state.pulled)
  let response ← (send network ⟨source.address, "*/*", pulled.tag, pulled.modified⟩).on
    (OriginScope.part PullState.wire)
  source.accept response

/-- Loads a new document. -/
def load (source : PullSource) (filters : FilterChain) (context : Filter.Context)
    (delivery : Delivery) : Task (OriginScope (PullState ν)) RefreshOutcome := do
  match Document.loadBytes delivery.body with
  | .error failure =>
    OriginScope.count source.name "failure"
    .fail (malformed source.address failure)
  | .ok document =>
    let delay ← .ofOutcome (.ofOption
      (source.schedule.nextDelay document.cacheSeconds document.validUntil context.now))
    -- A document that a filter rejects ends it here, without being counted.
    let entities ← .ofExcept (filterDocuments filters context [document])
    if entities.isEmpty then do
      OriginScope.count source.name "failure"
      .fail (.fetchFailed ("No entities left in " ++ source.address ++ " after filtering"))
    else do
      OriginScope.count source.name "success"
      -- The document at hand is replaced last, so that a failure leaves it.
      .change fun s =>
        { s with
          state.pulled := ⟨.ofEntities entities, delivery.tag, delivery.modified, some delay⟩ }
      return .updated entities (some delay)

/-- Pulls the document and loads it if it is new. -/
def refresh (source : PullSource) (network : Network ν) (filters : FilterChain)
    (context : Filter.Context) : Task (OriginScope (PullState ν)) RefreshOutcome := do
  match ← (source.pull network).attempt with
  | .error failure =>
    OriginScope.count source.name "failure"
    .fail failure
  | .ok none =>
    OriginScope.count source.name "not_modified"
    let pulled ← Task.read (·.state.pulled)
    return .unchanged (some (pulled.delay.getD source.schedule.longest))
  | .ok (some delivery) => source.load filters context delivery

/-- The origin of a source. -/
def origin (source : PullSource) (network : Network ν) : Origin (PullState ν) where
  fetch query := Task.read fun s => s.state.pulled.snapshot.answer query
  refresh := source.refresh network
  isPrefiltered := true
  isSecondary := false
  retryDelay := some source.schedule.shortest

end PullSource

end Federation.Origin
