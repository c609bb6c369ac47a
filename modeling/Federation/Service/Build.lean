/-
# Building the service

The service is built from its settings and from what it finds in its surroundings: files,
directories and tables for copies of entities, a network and a key server. Settings are
checked first; then filters, origin, persistent cache and artifact map are made, in this
order, and the first failure is reported.

Copies in the persistent cache have lost the text they were read from, so their signatures
cannot be checked again: filters at the start leave that out.
-/

import Federation.Origin.Site
import Federation.Service.Jobs
import Federation.Settings.Check

namespace Federation

open Federation.Metadata Federation.Time

/-- What a service finds around it. -/
structure Surroundings (ν κ : Type) where
  /-- The contents of a file. -/
  readFile : String → Option (List UInt8)
  /-- The cache in a directory. -/
  openDirectory : String → Except Failure DirectoryCache
  /-- The cache in a table. -/
  openTable : String → Except Failure TableCache
  network : Origin.Network ν
  /-- A key server at an address, for keys that begin in some way. -/
  connect : (address lead : String) → Except Failure (KeyServer κ)

namespace Settings

/-- The filters by which the end of the validity is required. -/
def validityFilters (f : FilterSettings) : Outcome FilterChain :=
  if f.requireValidUntil then do
    let longest ← spanUnlessZero f.longestValidity
    return [.validWithin longest]
  else return []

/-- The filters by which signatures are checked. -/
def signatureFilters (f : FilterSettings) : Outcome FilterChain :=
  if f.trustKeys.isEmpty && !f.requireSignedRoot then return []
  else do
    let ring ← .ofExcept (KeyRing.ofHex f.trustKeys)
    return [.signature ring.engine f.requireSignedRoot]

/-- The filters of the service, with those for signatures or without. -/
def filterChain (s : Settings) (withSignatures : Bool) : Outcome FilterChain := do
  let validity ← validityFilters s.filters
  let signatures ← if withSignatures then signatureFilters s.filters else pure []
  let roles ← s.keptRoles
  return validity ++ signatures ++ (if s.filters.checkForm then [.form] else [])
    ++ if roles.isEmpty then [] else [.roles roles false]

/-- The rule by which queries have addresses. A query service wins over a template, and a
template over IDs that are addresses. -/
def addressRule (serviceBase template : Option String) (encoding : String) (idAsAddress : Bool) :
    Except Failure Origin.AddressRule :=
  match serviceBase, template with
  | some base, _ => .ok (.service base)
  | none, some t =>
    match Origin.TemplateEncoding.ofName encoding with
    | .ok e => .ok (.template t e)
    | .error text => .error (.configuration text)
  | none, none =>
    if idAsAddress then .ok .entityId
    else .error (.configuration "Dynamic source has no URL strategy")

/-- The origin that settings name. -/
def origin {ν κ : Type} (around : Surroundings ν κ) :
    SourceSettings → Except Failure (Origin (Origin.Site ν))
  | .file path => do
    return (Origin.static [← Origin.fileDocument (around.readFile path)]).on Origin.Site.snapshot
  | .document url shortest longest factor => do
    let source ← Origin.PullSource.ofSchedule "http" url
      ⟨.ofSeconds shortest, .ofSeconds longest, factor⟩
    return source.origin around.network
  | .queries base template encoding idAsAddress isStrict => do
    let rule ← addressRule base template encoding idAsAddress
    let source : Origin.QuerySource := ⟨"dynamic", rule, isStrict⟩
    return (source.origin around.network).on Origin.PullState.wire

/-- The persistent cache that settings name. -/
def openCache {ν κ : Type} (around : Surroundings ν κ) :
    CopySettings → Except Failure PersistentCache
  | .directory path => (around.openDirectory path).map .directory
  | .table path => (around.openTable path).map .table

/-- How the persistent cache is used, if it is. -/
def useOfCopies (p : PersistenceSettings) : Option Persistence :=
  if p.enabled then some ⟨standardKey, p.initFromCache, p.backgroundInit⟩ else none

/-- The address under which the service is reached. -/
def address (s : Settings) : String :=
  "http://" ++ s.service.hostname ++ ":" ++ toString s.service.port

/-- How often jobs run. -/
def jobIntervals (s : Settings) : JobIntervals :=
  ⟨.ofSeconds s.resolver.cleanupInterval, .ofSeconds s.artifacts.sweepInterval⟩

end Settings

/-- The contents of artifact maps of any kind that settings can name. -/
structure ArtifactContents (κ : Type) where
  entries : ArtifactMap.Entries
  texts : StoredTexts
  server : κ

namespace ArtifactContents

variable {κ : Type}

/-- No artifacts, at a server as it is. -/
def start (server : κ) : ArtifactContents κ := ⟨.empty, .empty, server⟩

/-- The entries of a map that keeps them itself. -/
def inEntries : Task.Place (ArtifactContents κ) ArtifactMap.Entries where
  get c := c.entries
  put c entries := { c with entries }

/-- The texts of a storage in memory. -/
def inTexts : Task.Place (ArtifactContents κ) StoredTexts where
  get c := c.texts
  put c texts := { c with texts }

/-- The key server. -/
def inServer : Task.Place (ArtifactContents κ) κ where
  get c := c.server
  put c server := { c with server }

end ArtifactContents

/-- The artifact map that settings name. -/
def Settings.artifactMap {ν κ : Type} (around : Surroundings ν κ) (s : ArtifactSettings) :
    Outcome (ArtifactMap (ArtifactContents κ)) := do
  let lifetime ← Settings.spanOfSeconds s.lifetime
  match s.backend with
  | .memory => return (ArtifactMap.inMemory lifetime).on ArtifactContents.inEntries
  | .keyValue url lead =>
    let server ← .ofExcept (around.connect url lead)
    return (ArtifactMap.stored server.service lifetime).on ArtifactContents.inServer

/-- Builds the service, with the cache it begins with. -/
def Service.build {ν κ : Type} (around : Surroundings ν κ) (s : Settings) :
    Outcome (Service (Origin.Site ν) (ArtifactContents κ) × PersistentCache) := do
  -- The order of the steps decides which of several failures is reported.
  s.check
  let filters ← s.filterChain true
  let warmFilters ← s.filterChain false
  let origin ← .ofExcept (Settings.origin around s.source)
  let policy ← s.cachePolicy
  let cache ← .ofExcept <|
    if s.persistence.enabled then Settings.openCache around s.persistence.backend
    else .ok (.memory (.empty false))
  let resolver : Resolver (Origin.Site ν) :=
    ⟨s.resolver.id, policy, origin, filters, warmFilters, Settings.useOfCopies s.persistence⟩
  .ofExcept resolver.check
  let artifacts ← Settings.artifactMap around s.artifacts
  return (⟨s.address, resolver, artifacts⟩, cache)

end Federation
