/-
# Criteria

A query states at most one criterion of each kind: the ID of an entity, an artifact it
issued, a role it takes, or a text that an index knows. Criteria that say nothing are
refused when they are made.
-/

import Federation.Failure
import Federation.Metadata.Role
import Federation.Text.Base64

namespace Federation

open Federation.Metadata

/-- One criterion. -/
inductive Criterion where
  | entityId (id : String)
  | artifact (bytes : List UInt8)
  | role (role : Role)
  | text (value : String)
deriving DecidableEq, Repr

namespace Criterion

/-- A criterion on the ID, which is kept as it is. -/
def ofEntityId (id : String) : Except Failure Criterion :=
  if Text.isBlankText id then .error (.invalidArgument "entity ID criterion cannot be empty")
  else .ok (entityId id)

/-- A criterion on an artifact. -/
def ofArtifact (bytes : List UInt8) : Except Failure Criterion :=
  if bytes.isEmpty then .error (.invalidArgument "artifact criterion cannot be empty")
  else .ok (artifact bytes)

/-- A criterion on an artifact in its written form. -/
def ofArtifactText (encoded : String) : Except Failure Criterion :=
  match Text.Base64.decode? (Text.trim encoded) with
  | some bytes => ofArtifact bytes
  | none => .error (.invalidArgument "Invalid artifact encoding: no canonical base64")

/-- A criterion on a text that an index knows. -/
def ofText (value : String) : Except Failure Criterion :=
  if value.isEmpty then .error (.invalidArgument "string criterion cannot be empty")
  else .ok (text value)

/-- How a criterion is shown. -/
def shown : Criterion → String
  | entityId id => "entityID=" ++ id
  | artifact bytes => "artifact=" ++ Text.Base64.encode bytes
  | role r => "role=" ++ r.text
  | text value => "value=" ++ value

end Criterion

/-- The criteria of a query. -/
structure Criteria where
  entityId : Option String := none
  artifact : Option (List UInt8) := none
  role : Option Role := none
  text : Option String := none
deriving DecidableEq, Repr, Inhabited

namespace Criteria

/-- No criteria. -/
def empty : Criteria := {}

/-- Adds a criterion in place of the one of its kind. -/
def add (c : Criteria) : Criterion → Criteria
  | .entityId id => { c with entityId := some id }
  | .artifact bytes => { c with artifact := some bytes }
  | .role r => { c with role := some r }
  | .text value => { c with text := some value }

/-- The criterion that adding another one would replace. -/
def replacedBy (c : Criteria) : Criterion → Option Criterion
  | .entityId _ => c.entityId.map .entityId
  | .artifact _ => c.artifact.map .artifact
  | .role _ => c.role.map .role
  | .text _ => c.text.map .text

/-- The criteria in the order in which they are shown. -/
def toList (c : Criteria) : List Criterion :=
  (c.artifact.map .artifact).toList ++ (c.entityId.map .entityId).toList
    ++ (c.role.map .role).toList ++ (c.text.map .text).toList

/-- The criteria of a list, of which later ones win. -/
def ofList (cs : List Criterion) : Criteria :=
  cs.foldl add empty

/-- The number of criteria. -/
def size (c : Criteria) : Nat := c.toList.length

/-- Are there no criteria? -/
def isEmpty (c : Criteria) : Bool := c.toList.isEmpty

/-- How criteria are shown: between braces, in a fixed order. -/
def shown (c : Criteria) : String :=
  "\x7b" ++ Text.join ", " (c.toList.map Criterion.shown) ++ "\x7d"

/-- A query for one entity. -/
def forEntityId (id : String) : Except Failure Criteria :=
  (Criterion.ofEntityId id).map empty.add

end Criteria

end Federation
