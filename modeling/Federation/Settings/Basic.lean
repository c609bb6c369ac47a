/-
# Settings

The settings of the service say where metadata comes from, how long it is kept, how it is
checked, and where copies of it and artifacts are stored. Durations are whole seconds of 64
bits; where a duration is optional, zero means that there is none.
-/

namespace Federation

/-- How the service presents itself. -/
structure ServiceSettings where
  hostname : String
  port : Nat
  version : String
deriving Repr

/-- Where metadata comes from. -/
inductive SourceSettings where
  /-- A document in a file, read once. -/
  | file (path : String)
  /-- A document at an address, pulled again and again. -/
  | document (url : String) (shortestDelay longestDelay : Nat) (delayFactor : Float)
  /-- An origin that is asked for entities one by one. -/
  | queries (serviceBase template : Option String) (templateEncoding : String)
      (idAsAddress strict : Bool)
deriving Repr

/-- How the resolver caches. -/
structure ResolverSettings where
  id : String
  shortestCache : Nat
  longestCache : Nat
  negativeCache : Nat
  failurePolicy : String
  failureRetry : Nat
  cleanupInterval : Nat
  longestIdle : Nat
  singleFlight : Bool
  secondaryLookup : Bool
  requestTimeout : Nat
deriving Repr

/-- What keeps copies of entities. -/
inductive CopySettings where
  | directory (path : String)
  | table (path : String)
deriving Repr

/-- Whether and how copies of entities are kept. -/
structure PersistenceSettings where
  enabled : Bool
  backend : CopySettings
  initFromCache : Bool
  backgroundInit : Bool
deriving Repr

/-- How metadata is checked. -/
structure FilterSettings where
  requireValidUntil : Bool
  longestValidity : Nat
  /-- Names and public keys in hexadecimal. -/
  trustKeys : List (String × String)
  requireSignedRoot : Bool
  checkForm : Bool
  /-- Names of roles; without any, all roles are kept. -/
  keptRoles : List String
deriving Repr

/-- What keeps artifacts. -/
inductive ArtifactSettingsBackend where
  | memory
  | keyValue (url keyPrefix : String)
deriving Repr

/-- How artifacts are kept. -/
structure ArtifactSettings where
  lifetime : Nat
  sweepInterval : Nat
  backend : ArtifactSettingsBackend
deriving Repr

/-- All settings. -/
structure Settings where
  service : ServiceSettings
  source : SourceSettings
  resolver : ResolverSettings
  persistence : PersistenceSettings
  filters : FilterSettings
  artifacts : ArtifactSettings
  logLevel : String
deriving Repr

namespace Settings

/-- The version of the service. -/
def version : String := "0.1.0"

/-- The settings that hold unless others are given. -/
def standard : Settings where
  service := ⟨"localhost", 8480, version⟩
  source := .file "./metadata.json"
  resolver := {
    id := "default"
    shortestCache := 600
    longestCache := 28800
    negativeCache := 600
    failurePolicy := "retain"
    failureRetry := 600
    cleanupInterval := 1800
    longestIdle := 28800
    singleFlight := true
    secondaryLookup := true
    requestTimeout := 30 }
  persistence := ⟨false, .directory "./data/metadata-cache", true, false⟩
  filters := ⟨false, 0, [], false, true, []⟩
  artifacts := ⟨240, 300, .memory⟩
  logLevel := "info"

end Settings

end Federation
