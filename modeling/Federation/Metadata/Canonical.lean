/-
# Canonical text

Descriptions and groups have one canonical text: JSON without blanks, members in the order
of their declaration, attributes sorted by name. Members that are absent or empty are left
out, save the protocols of a role and the entities of a group. A signature covers the
canonical text of what it is attached to without that signature.
-/

import Federation.Metadata.Document
import Federation.Json.Writer
import Federation.Time.Writer

namespace Federation.Metadata

open Federation.Json

/-- A member that is written if it is there. -/
def optionalMember {α : Type} (name : String) (write : α → Value) :
    Option α → List (String × Value)
  | some a => [(name, write a)]
  | none => []

/-- A list of texts. -/
def textsValue (texts : List String) : Value := .array (texts.map .string)

/-- A list that is written if it is not empty. -/
def listMember {α : Type} (name : String) (write : α → Value) (as : List α) :
    List (String × Value) :=
  if as.isEmpty then [] else [(name, .array (as.map write))]

/-- A whole number. -/
def naturalValue (n : Nat) : Value := .number (.natural n)

/-- An instant. -/
def instantValue (t : Time.Instant) : Value := .string t.text

/-- The value of an endpoint. -/
def Endpoint.value (e : Endpoint) : Value :=
  .object <|
    ("kind", .string e.kind) :: ("binding", .string e.binding) :: ("location", .string e.location)
      :: optionalMember "index" naturalValue e.index

/-- The value of a role. -/
def RoleDescriptor.value (r : RoleDescriptor) : Value :=
  .object <|
    ("role", .string r.role.text) :: ("protocolSupport", textsValue r.protocols)
      :: listMember "nameIdFormats" .string r.nameIdFormats
        ++ listMember "endpoints" Endpoint.value r.endpoints
        ++ optionalMember "sourceId" .string r.sourceId

/-- The value of a signature. -/
def Signature.asValue (s : Signature) : Value :=
  .object [("keyName", .string s.keyName), ("algorithm", .string s.algorithm),
    ("value", .string s.value)]

/-- The members of known algorithms. -/
def Extensions.value (x : Extensions) : Value :=
  .object <|
    listMember "digestMethods" .string x.digestMethods
      ++ listMember "signingMethods" .string x.signingMethods

/-- The member of known algorithms, if there are any. -/
def extensionsMember (x : Extensions) : List (String × Value) :=
  if x.isEmpty then [] else [("extensions", x.value)]

/-- The member of attributes, if there are any. -/
def attributesMember (a : Attributes) : List (String × Value) :=
  if a.isEmpty then []
  else [("attributes", .object (a.entries.map fun (name, values) => (name, textsValue values)))]

/-- The value of an entity. -/
def Entity.value (e : Entity) : Value :=
  .object <|
    ("entityID", .string e.entityId)
      :: listMember "roles" RoleDescriptor.value e.roles
        ++ optionalMember "validUntil" instantValue e.validUntil
        ++ optionalMember "cacheDuration" naturalValue e.cacheSeconds
        ++ optionalMember "registrationAuthority" .string e.registrar
        ++ attributesMember e.attributes
        ++ extensionsMember e.extensions
        ++ optionalMember "signature" Signature.asValue e.signature

mutual

/-- The value of a group. -/
def Group.value : Group → Value
  | ⟨name, validUntil, cacheSeconds, entities, groups, signature⟩ =>
    .object <|
      optionalMember "name" .string name
        ++ optionalMember "validUntil" instantValue validUntil
        ++ optionalMember "cacheDuration" naturalValue cacheSeconds
        ++ ("entities", .array (entities.map Entity.value))
          :: (if groups.isEmpty then [] else [("groups", .array (Group.values groups))])
        ++ optionalMember "signature" Signature.asValue signature

/-- The values of a list of groups. -/
def Group.values : List Group → List Value
  | [] => []
  | g :: rest => g.value :: Group.values rest

end

/-- The value of a document is that of its root. -/
def Document.value : Document → Value
  | .entity e => e.value
  | .group g => g.value

/-- The canonical text of an entity. -/
def Entity.canonical (e : Entity) : String := e.value.text

/-- The canonical text of a document. -/
def Document.canonical (d : Document) : String := d.value.text

/-- What a signature of an entity covers. -/
def Entity.signingInput (e : Entity) : String :=
  Entity.canonical { e with signature := none }

/-- What a signature of a group covers. -/
def Group.signingInput (g : Group) : String :=
  (Group.value { g with signature := none }).text

/-- What a signature of the root covers. -/
def Document.signingInput : Document → String
  | .entity e => e.signingInput
  | .group g => g.signingInput

end Federation.Metadata
