/-
# Failures

Everything that can go wrong has one of a few causes. A cause says what happened; its
message is what is shown. A failure met while a query was answered from the origin is
wrapped together with the query.
-/

import Federation.Json.Decoder

namespace Federation

/-- Why an operation failed. -/
inductive Failure where
  /-- A constructor or operation was given something it cannot take. -/
  | invalidArgument (text : String)
  /-- Settings are missing or contradict each other. -/
  | configuration (text : String)
  /-- The resolver was used before it was initialized or after it was destroyed. -/
  | notInitialized (text : String)
  /-- The origin could not be read. -/
  | fetchFailed (text : String)
  /-- A filter rejected a document. -/
  | filterFailed (filter reason : String)
  /-- A query could not be answered. -/
  | resolutionFailed (query : String) (cause : Failure)
  /-- A key of the persistent cache is taken. -/
  | alreadyExists (key : String)
  /-- An artifact is live already. -/
  | duplicateArtifact (artifact : String)
  /-- The storage of artifacts failed. -/
  | storage (text : String)
  /-- Nothing answers a request. -/
  | notFound (text : String)
  /-- The table of the persistent cache could not be used. -/
  | database (detail : String)
  /-- A text could not be decoded. -/
  | serialization (fault : Json.Fault)
  /-- A file could not be used. -/
  | io (detail : String)
  /-- Anything else. -/
  | internal (text : String)
deriving DecidableEq, Repr, Inhabited

namespace Failure

/-- The name of the cause of a failure. -/
def kind : Failure → String
  | invalidArgument _ => "InvalidArgument"
  | configuration _ => "Configuration"
  | notInitialized _ => "NotInitialized"
  | fetchFailed _ => "FetchFailed"
  | filterFailed _ _ => "FilterFailed"
  | resolutionFailed _ _ => "ResolutionFailed"
  | alreadyExists _ => "AlreadyExists"
  | duplicateArtifact _ => "DuplicateArtifact"
  | storage _ => "Storage"
  | notFound _ => "NotFound"
  | database _ => "Database"
  | serialization _ => "Serialization"
  | io _ => "Io"
  | internal _ => "Internal"

/-- What is told of a text that could not be decoded. -/
def faultDetail : Json.Fault → String
  | .grammar => "malformed text"
  | .shape => "unexpected shape"

/-- The message shown for a failure. -/
def message : Failure → String
  | invalidArgument text => "Invalid argument: " ++ text
  | configuration text => "Configuration error: " ++ text
  | notInitialized text => "Component not initialized: " ++ text
  | fetchFailed text => "Fetch failed: " ++ text
  | filterFailed filter reason => "Filter '" ++ filter ++ "' rejected metadata: " ++ reason
  | resolutionFailed query cause => "Resolution failed for " ++ query ++ ": " ++ cause.message
  | alreadyExists key => "Already exists: " ++ key
  | duplicateArtifact artifact => "Duplicate artifact: " ++ artifact
  | storage text => "Storage error: " ++ text
  | notFound text => "Not found: " ++ text
  | database detail => "Database error: " ++ detail
  | serialization fault => "Serialization error: " ++ faultDetail fault
  | io detail => "IO error: " ++ detail
  | internal text => "Internal error: " ++ text

/-- Is a failure one of resolving, be it of the origin, of a filter or of a whole query? -/
def isResolutionFailure : Failure → Bool
  | resolutionFailed _ _ | fetchFailed _ | filterFailed _ _ => true
  | _ => false

/-- The status of the answer to a request that failed. -/
def status : Failure → Nat
  | invalidArgument _ => 400
  | notFound _ => 404
  | notInitialized _ => 503
  | resolutionFailed _ _ | fetchFailed _ | filterFailed _ _ => 502
  | alreadyExists _ | duplicateArtifact _ => 409
  | _ => 500

/-- The code in the answer to a request that failed. -/
def code : Failure → String
  | invalidArgument _ => "InvalidRequest"
  | notFound _ => "NotFound"
  | notInitialized _ => "NotReady"
  | resolutionFailed _ _ | fetchFailed _ | filterFailed _ _ => "ResolutionFailed"
  | alreadyExists _ | duplicateArtifact _ => "Conflict"
  | _ => "InternalServerError"

/-- The message in the answer to a request that failed. It does not tell what a table, a
file or an inner part of the service reported. -/
def publicMessage : Failure → String
  | database _ | io _ | internal _ => "Internal server error"
  | failure => failure.message

end Failure

end Federation
