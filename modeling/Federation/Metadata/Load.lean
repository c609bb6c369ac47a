/-
# Loading documents

What is wrong with a document that cannot be read is reported as a failure: one of the text,
or one of the origin when the text is sound but its root describes nothing.
-/

import Federation.Failure
import Federation.Json.Bytes
import Federation.Metadata.Parse

namespace Federation.Metadata

/-- The failure of a document that cannot be read. -/
def ParseFault.failure : ParseFault → Failure
  | .json fault => .serialization fault
  | .rootNotObject => .fetchFailed "Metadata document root is not an object"
  | .rootOfNoKind =>
    .fetchFailed "Metadata document root is neither an entity nor an entities group"

/-- The document of a text, or why there is none. -/
def Document.load (text : String) : Except Failure Document :=
  (Document.parse text).mapError ParseFault.failure

/-- The document of a byte string, or why there is none. -/
def Document.loadBytes (bytes : List UInt8) : Except Failure Document :=
  (Document.parseBytes bytes).mapError ParseFault.failure

/-- The entity of a cached text, or why there is none. -/
def Entity.load (text : String) : Except Failure Entity :=
  (Entity.ofText text).mapError Failure.serialization

/-- The entity of a cached byte string, or why there is none. -/
def Entity.loadBytes (bytes : List UInt8) : Except Failure Entity :=
  Entity.load (Json.textOf bytes)

theorem Entity.loadBytes_utf8 (text : String) :
    Entity.loadBytes (Text.utf8 text) = Entity.load text := by
  rw [loadBytes, Json.textOf_utf8]

end Federation.Metadata
