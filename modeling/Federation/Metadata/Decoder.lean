/-
# Decoding descriptions

Every record of a document has a draft that collects its members in the order of the text.
A member may appear once, unknown members are passed over, and members without which a
record has no meaning must be there.
-/

import Federation.Metadata.Document
import Federation.Json.Decoder
import Federation.Time.Reader

namespace Federation.Metadata

open Federation.Json

/-- The largest unsigned 64-bit number. -/
def maxSeconds : Nat := 18446744073709551615

/-- Decodes an instant. -/
def decodeInstant : Decoder Time.Instant := fun o =>
  match Json.string o with
  | .error e => .error e
  | .ok s =>
    match Time.Instant.ofText? s with
    | some t => .ok t
    | none => .error .shape

/-- Decodes a role: its written form, or an object with that form as name and null as
value. -/
def decodeRole : Decoder Role
  | .string (some s) => named s
  | .object [(some s, o)] closed =>
    match named s with
    | .error e => .error e
    | .ok r =>
      match o with
      | .null => if closed then .ok r else .error .grammar
      | o => .error o.unexpected
  | .object ((some s, o) :: _) _ =>
    match named s with
    | .error e => .error e
    | .ok _ =>
      match o with
      | .null => .error .grammar
      | o => .error o.unexpected
  | _ => .error .grammar
where
  /-- The role with a written form. -/
  named (s : String) : Except Fault Role :=
    match Role.ofText? s with
    | some r => .ok r
    | none => .error .shape

/-- What is known of an endpoint. -/
structure EndpointDraft where
  kind : Option String := none
  binding : Option String := none
  location : Option String := none
  index : Option (Option Nat) := none

/-- Takes a member of an endpoint. -/
def EndpointDraft.step : Step EndpointDraft := fun d name o =>
  if name = "kind" then fill d.kind Json.string (fun a => { d with kind := some a }) o
  else if name = "binding" then fill d.binding Json.string (fun a => { d with binding := some a }) o
  else if name = "location" then
    fill d.location Json.string (fun a => { d with location := some a }) o
  else if name = "index" then
    fill d.index (optional (natural 65535)) (fun a => { d with index := some a }) o
  else passOver d o

/-- The endpoint of a draft. -/
def EndpointDraft.finish (d : EndpointDraft) : Except Fault Endpoint := do
  let kind ← require d.kind
  let binding ← require d.binding
  let location ← require d.location
  .ok ⟨kind, binding, location, d.index.getD none⟩

/-- Decodes an endpoint. -/
def decodeEndpoint : Decoder Endpoint :=
  record ["kind", "binding", "location", "index"] EndpointDraft.step {} EndpointDraft.finish

/-- What is known of a role. -/
structure RoleDraft where
  role : Option Role := none
  protocols : Option (List String) := none
  nameIdFormats : Option (List String) := none
  endpoints : Option (List Endpoint) := none
  sourceId : Option (Option String) := none

/-- Takes a member of a role. -/
def RoleDraft.step : Step RoleDraft := fun d name o =>
  if name = "role" then fill d.role decodeRole (fun a => { d with role := some a }) o
  else if name = "protocolSupport" then
    fill d.protocols (list Json.string) (fun a => { d with protocols := some a }) o
  else if name = "nameIdFormats" then
    fill d.nameIdFormats (list Json.string) (fun a => { d with nameIdFormats := some a }) o
  else if name = "endpoints" then
    fill d.endpoints (list decodeEndpoint) (fun a => { d with endpoints := some a }) o
  else if name = "sourceId" then
    fill d.sourceId (optional Json.string) (fun a => { d with sourceId := some a }) o
  else passOver d o

/-- The role of a draft. -/
def RoleDraft.finish (d : RoleDraft) : Except Fault RoleDescriptor := do
  let role ← require d.role
  .ok ⟨role, d.protocols.getD [], d.nameIdFormats.getD [], d.endpoints.getD [],
    d.sourceId.getD none⟩

/-- Decodes a role with what belongs to it. -/
def decodeRoleDescriptor : Decoder RoleDescriptor :=
  record ["role", "protocolSupport", "nameIdFormats", "endpoints", "sourceId"]
    RoleDraft.step {} RoleDraft.finish

/-- What is known of a signature. -/
structure SignatureDraft where
  keyName : Option String := none
  algorithm : Option String := none
  value : Option String := none

/-- Takes a member of a signature. -/
def SignatureDraft.step : Step SignatureDraft := fun d name o =>
  if name = "keyName" then fill d.keyName Json.string (fun a => { d with keyName := some a }) o
  else if name = "algorithm" then
    fill d.algorithm Json.string (fun a => { d with algorithm := some a }) o
  else if name = "value" then fill d.value Json.string (fun a => { d with value := some a }) o
  else passOver d o

/-- The signature of a draft. -/
def SignatureDraft.finish (d : SignatureDraft) : Except Fault Signature := do
  let keyName ← require d.keyName
  let algorithm ← require d.algorithm
  let value ← require d.value
  .ok ⟨keyName, algorithm, value⟩

/-- Decodes a signature. -/
def decodeSignature : Decoder Signature :=
  record ["keyName", "algorithm", "value"] SignatureDraft.step {} SignatureDraft.finish

/-- What is known of the algorithms of an entity. -/
structure ExtensionsDraft where
  digestMethods : Option (List String) := none
  signingMethods : Option (List String) := none

/-- Takes a list of algorithms. -/
def ExtensionsDraft.step : Step ExtensionsDraft := fun d name o =>
  if name = "digestMethods" then
    fill d.digestMethods (list Json.string) (fun a => { d with digestMethods := some a }) o
  else if name = "signingMethods" then
    fill d.signingMethods (list Json.string) (fun a => { d with signingMethods := some a }) o
  else passOver d o

/-- The algorithms of a draft. -/
def ExtensionsDraft.finish (d : ExtensionsDraft) : Except Fault Extensions :=
  .ok ⟨d.digestMethods.getD [], d.signingMethods.getD []⟩

/-- Decodes algorithms. -/
def decodeExtensions : Decoder Extensions :=
  record ["digestMethods", "signingMethods"] ExtensionsDraft.step {} ExtensionsDraft.finish

/-- Decodes attributes. The last of several lists under one name counts. -/
def decodeAttributes : Decoder Attributes
  | .object entries closed =>
    let step (a : Attributes) (name : String) (o : Outline) := (list Json.string o).map (a.put name)
    match members step Attributes.empty entries with
    | .error e => .error e
    | .ok a => if closed then .ok a else .error .grammar
  | o => .error o.unexpected

/-- What is known of an entity. -/
structure EntityDraft where
  entityId : Option String := none
  roles : Option (List RoleDescriptor) := none
  validUntil : Option (Option Time.Instant) := none
  cacheSeconds : Option (Option Nat) := none
  registrar : Option (Option String) := none
  attributes : Option Attributes := none
  extensions : Option Extensions := none
  signature : Option (Option Signature) := none

/-- Takes a member of an entity. -/
def EntityDraft.step : Step EntityDraft := fun d name o =>
  if name = "entityID" then fill d.entityId Json.string (fun a => { d with entityId := some a }) o
  else if name = "roles" then
    fill d.roles (list decodeRoleDescriptor) (fun a => { d with roles := some a }) o
  else if name = "validUntil" then
    fill d.validUntil (optional decodeInstant) (fun a => { d with validUntil := some a }) o
  else if name = "cacheDuration" then
    fill d.cacheSeconds (optional (natural maxSeconds))
      (fun a => { d with cacheSeconds := some a }) o
  else if name = "registrationAuthority" then
    fill d.registrar (optional Json.string) (fun a => { d with registrar := some a }) o
  else if name = "attributes" then
    fill d.attributes decodeAttributes (fun a => { d with attributes := some a }) o
  else if name = "extensions" then
    fill d.extensions decodeExtensions (fun a => { d with extensions := some a }) o
  else if name = "signature" then
    fill d.signature (optional decodeSignature) (fun a => { d with signature := some a }) o
  else passOver d o

/-- The entity of a draft. -/
def EntityDraft.finish (d : EntityDraft) : Except Fault Entity := do
  let entityId ← require d.entityId
  .ok {
    entityId
    roles := d.roles.getD []
    validUntil := d.validUntil.getD none
    cacheSeconds := d.cacheSeconds.getD none
    registrar := d.registrar.getD none
    attributes := d.attributes.getD .empty
    extensions := d.extensions.getD .empty
    signature := d.signature.getD none
    wireForm := none }

/-- Decodes an entity. -/
def decodeEntity : Decoder Entity :=
  record
    ["entityID", "roles", "validUntil", "cacheDuration", "registrationAuthority", "attributes",
      "extensions", "signature"]
    EntityDraft.step {} EntityDraft.finish

/-- What is known of a group. -/
structure GroupDraft where
  name : Option (Option String) := none
  validUntil : Option (Option Time.Instant) := none
  cacheSeconds : Option (Option Nat) := none
  entities : Option (List Entity) := none
  groups : Option (List Group) := none
  signature : Option (Option Signature) := none

/-- Takes a member of a group, given a decoder of the groups in it. -/
def GroupDraft.step (inner : Decoder (List Group)) : Step GroupDraft := fun d name o =>
  if name = "name" then fill d.name (optional Json.string) (fun a => { d with name := some a }) o
  else if name = "validUntil" then
    fill d.validUntil (optional decodeInstant) (fun a => { d with validUntil := some a }) o
  else if name = "cacheDuration" then
    fill d.cacheSeconds (optional (natural maxSeconds))
      (fun a => { d with cacheSeconds := some a }) o
  else if name = "entities" then
    fill d.entities (list decodeEntity) (fun a => { d with entities := some a }) o
  else if name = "groups" then fill d.groups inner (fun a => { d with groups := some a }) o
  else if name = "signature" then
    fill d.signature (optional decodeSignature) (fun a => { d with signature := some a }) o
  else passOver d o

/-- The group of a draft. -/
def GroupDraft.finish (d : GroupDraft) : Except Fault Group := do
  let entities ← require d.entities
  .ok ⟨d.name.getD none, d.validUntil.getD none, d.cacheSeconds.getD none, entities,
    d.groups.getD [], d.signature.getD none⟩

/-- Decodes a group in which groups nest less than `depth` deep. -/
def groupWithin : (depth : Nat) → Decoder Group
  | 0 => fun o => .error o.unexpected
  | depth + 1 =>
    record ["name", "validUntil", "cacheDuration", "entities", "groups", "signature"]
      (GroupDraft.step (list (groupWithin depth))) {} GroupDraft.finish

/-- Decodes a group. Containers that nest deeper than any text may are not met here. -/
def decodeGroup : Decoder Group := groupWithin (depthLimit + 1)

end Federation.Metadata
