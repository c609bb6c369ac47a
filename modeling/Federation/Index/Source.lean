/-
# Sources of artifacts

An artifact of the second version of the protocol names its issuer: behind its type and the
number of an endpoint stand the twenty bytes of the source. Unless a role states another
one, the source is the digest of the ID of the entity.
-/

import Federation.Digest.Sha1
import Federation.Text.Hex

namespace Federation.Index

/-- The source an artifact names, in hexadecimal. -/
def sourceOfArtifact? (artifact : List UInt8) : Option String :=
  if artifact.length = 44 ∧ artifact.take 2 = [0, 4] then
    some (Text.Hex.encode ((artifact.drop 4).take 20))
  else none

/-- The source of an entity that states none, in hexadecimal. -/
def sourceOfEntityId (entityId : String) : String :=
  Text.Hex.encode (Digest.sha1 (Text.utf8 entityId))

end Federation.Index
