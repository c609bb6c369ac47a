/-
# Artifacts

An artifact is a short text that stands for a message until it expires. What is kept of it
has a written form: the JSON object of its members in the order of their declaration.
-/

import Federation.Failure
import Federation.Metadata.Decoder
import Federation.Metadata.Canonical

namespace Federation

open Federation.Json Federation.Time

/-- An artifact and the message it stands for. -/
structure ArtifactEntry where
  artifact : String
  issuer : String
  relyingParty : String
  message : String
  expiration : Instant
deriving DecidableEq, Repr

/-- An artifact is not blank. -/
def checkArtifact (artifact : String) : Except Failure Unit :=
  if (Text.trim artifact).isEmpty then .error (.invalidArgument "artifact cannot be empty")
  else .ok ()

namespace ArtifactEntry

/-- An entry is expired at its expiration and after. -/
def isExpired (e : ArtifactEntry) (now : Instant) : Bool := e.expiration ≤ now

/-- The value that is written of an entry. -/
def value (e : ArtifactEntry) : Value :=
  .object [("artifact", .string e.artifact), ("issuerId", .string e.issuer),
    ("relyingPartyId", .string e.relyingParty), ("message", .string e.message),
    ("expiration", Metadata.instantValue e.expiration)]

/-- The written form of an entry. -/
def text (e : ArtifactEntry) : String := e.value.text

/-- What is known of an entry. -/
structure Draft where
  artifact : Option String := none
  issuer : Option String := none
  relyingParty : Option String := none
  message : Option String := none
  expiration : Option Instant := none

/-- Takes a member of an entry. -/
def Draft.step : Step Draft := fun d name o =>
  if name = "artifact" then fill d.artifact Json.string (fun a => { d with artifact := some a }) o
  else if name = "issuerId" then fill d.issuer Json.string (fun a => { d with issuer := some a }) o
  else if name = "relyingPartyId" then
    fill d.relyingParty Json.string (fun a => { d with relyingParty := some a }) o
  else if name = "message" then fill d.message Json.string (fun a => { d with message := some a }) o
  else if name = "expiration" then
    fill d.expiration Metadata.decodeInstant (fun a => { d with expiration := some a }) o
  else passOver d o

/-- The entry of a draft. -/
def Draft.finish (d : Draft) : Except Fault ArtifactEntry := do
  let artifact ← require d.artifact
  let issuer ← require d.issuer
  let relyingParty ← require d.relyingParty
  let message ← require d.message
  let expiration ← require d.expiration
  .ok ⟨artifact, issuer, relyingParty, message, expiration⟩

/-- Decodes an entry. -/
def decoder : Decoder ArtifactEntry :=
  record ["artifact", "issuerId", "relyingPartyId", "message", "expiration"]
    Draft.step {} Draft.finish

/-- The entry of a written form. -/
def ofText (s : String) : Except Fault ArtifactEntry := decodeText decoder s

end ArtifactEntry

end Federation
