/-
# Asking query by query

Some servers are asked for one entity at a time, at an address made from the query. A lenient
source takes an answer that is not one of success, or that is no metadata, to mean that there
is nothing to be found; a strict one reports it.
-/

import Federation.Origin.Address
import Federation.Origin.Network
import Federation.Metadata.Load

namespace Federation.Origin

open Federation.Metadata

/-- A server that is asked query by query. -/
structure QuerySource where
  /-- The name under which fetches are counted. -/
  name : String
  rule : AddressRule
  isStrict : Bool

/-- The kinds of content that are asked for. -/
def metadataKinds : String := "application/samlmetadata+json, application/json;q=0.9"

/-- Is a kind of content one that metadata comes in? Parameters do not matter. -/
def isMetadataKind (contentType : String) : Bool :=
  let kind := String.ofList (contentType.toList.takeWhile (· != ';'))
  let essence := Text.asciiLower (Text.trim kind)
  essence == "application/json"
    || (Text.dropPrefix? "+json".toList.reverse essence.toList.reverse).isSome

namespace QuerySource

variable {ν : Type}

/-- The failure of an answer of another kind. -/
def wrongKind (address contentType : String) : Failure :=
  .fetchFailed ("GET " ++ address ++ " returned unsupported content type '" ++ contentType ++ "'")

/-- The document of an answer. -/
def accept (source : QuerySource) (address : String) (r : Response) :
    Task (OriginScope ν) (Option Document) := do
  let contentType := (r.header? "content-type").getD ""
  if !r.isSuccess then
    if source.isStrict then .fail (refused address r) else return none
  else if !isMetadataKind contentType then
    if source.isStrict then .fail (wrongKind address contentType) else return none
  else
    -- A document that cannot be read is a failure for a lenient source as well.
    match Document.loadBytes (← bodyOf address r) with
    | .ok document => return some document
    | .error failure => .fail (malformed address failure)

/-- The document at an address. -/
def get (source : QuerySource) (network : Network ν) (address : String) :
    Task (OriginScope ν) (Option Document) := do
  source.accept address (← send network ⟨address, metadataKinds, none, none⟩)

/-- The outcome that is counted for a fetch. -/
def outcome : Except Failure (Option Document) → String
  | .ok (some _) => "success"
  | .ok none => "not_found"
  | .error _ => "failure"

/-- Asks a query, if it has an address. -/
def fetch (source : QuerySource) (network : Network ν) (query : Criteria) :
    Task (OriginScope ν) (Option Document) := do
  match source.rule.address? query with
  | none => return none
  | some address =>
    let found ← (source.get network address).attempt
    OriginScope.count source.name (outcome found)
    .ofExcept found

/-- The origin of a source. -/
def origin (source : QuerySource) (network : Network ν) : Origin ν where
  fetch := source.fetch network
  refresh _ _ := pure .notApplicable
  isPrefiltered := false
  isSecondary := source.rule.isSecondary
  retryDelay := none

end QuerySource

end Federation.Origin
