/-
# Index keys

An index files entities under keys and turns queries into keys of the same kind. A query
it does not understand has no keys at all, which is different from an empty set of them.
-/

import Federation.Criteria
import Federation.Index.Source
import Federation.Metadata.Entity

namespace Federation

open Federation.Metadata

/-- A way of filing entities: one of this library, or one from outside. -/
inductive EntityIndex where
  | artifactSource
  | role
  /-- Values of attributes, of the named ones or of all, and registrars. -/
  | attributeValue (names : List String)
  | custom (name : String) (entityKeys : Entity → List String)
      (queryKeys : Criteria → Option (List String))

namespace EntityIndex

/-- The name of an index. -/
def name : EntityIndex → String
  | artifactSource => "artifact-source-id"
  | role => "role"
  | attributeValue _ => "entity-attribute"
  | custom name _ _ => name

/-- The indexes that are kept unless others are asked for. -/
def standard : List EntityIndex := [artifactSource, role, attributeValue []]

/-- The keys under which an entity is filed. -/
def entityKeys : EntityIndex → Entity → List String
  | artifactSource, e =>
    (Index.sourceOfEntityId e.entityId
      :: e.roles.filterMap fun r => r.sourceId.map Text.asciiLower).eraseDups
  | role, e => (e.roles.map fun r => r.role.text).eraseDups
  | attributeValue names, e =>
    let included := e.attributes.entries.filter fun (name, _) =>
      names.isEmpty || names.contains name
    (included.flatMap (·.2) ++ e.registrar.toList).eraseDups
  | custom _ keys _, e => (keys e).eraseDups

/-- The keys a query asks for, if the index understands it. A role is a key only when it is
not a condition beside an ID or a text. -/
def queryKeys : EntityIndex → Criteria → Option (List String)
  | artifactSource, c => (c.artifact.bind Index.sourceOfArtifact?).map ([·])
  | role, c =>
    if c.entityId.isSome || c.text.isSome then none else c.role.map fun r => [r.text]
  | attributeValue _, c => c.text.map ([·])
  | custom _ _ keys, c => keys c

end EntityIndex

end Federation
