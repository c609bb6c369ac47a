/-
# Reading documents

A document is read as a value first. Its root is an entity if it has an ID and a group if
it has entities; a single entity keeps the text it was read from. Cached copies of entities
are decoded directly from their text.
-/

import Federation.Metadata.Decoder

namespace Federation.Metadata

open Federation.Json

/-- Why a document could not be read. -/
inductive ParseFault where
  | json (fault : Fault)
  | rootNotObject
  | rootOfNoKind
deriving DecidableEq, Repr

/-- Has an object a member of this name? -/
def hasMember (name : String) (members : List (String × Value)) : Bool :=
  members.any (·.1 == name)

/-- The document of a value, with the text it came from. -/
def Document.ofValue (text : String) : Value → Except ParseFault Document
  | .object members =>
    if hasMember "entityID" members then
      match decodeValue decodeEntity (.object members) with
      | .ok e => .ok (.entity { e with wireForm := some text })
      | .error fault => .error (.json fault)
    else if hasMember "entities" members then
      match decodeValue decodeGroup (.object members) with
      | .ok g => .ok (.group g)
      | .error fault => .error (.json fault)
    else .error .rootOfNoKind
  | _ => .error .rootNotObject

/-- The document of a text. -/
def Document.parse (text : String) : Except ParseFault Document :=
  match Value.ofText? text with
  | none => .error (.json .grammar)
  | some v => Document.ofValue text v.merged

/-- The document of a byte string. Bytes that are no text are no JSON either. -/
def Document.parseBytes (bytes : List UInt8) : Except ParseFault Document :=
  match Text.ofUtf8? bytes with
  | none => .error (.json .grammar)
  | some text => Document.parse text

/-- The entity of a cached text. -/
def Entity.ofText (text : String) : Except Fault Entity :=
  decodeText decodeEntity text

/-- The document of a text of unstated kind: an entity if it can be read as one, else a
group. The text is read to the end of its value before its shape is looked at. -/
def Document.ofUntaggedText (text : String) : Except Fault Document :=
  match Outline.ofText text with
  | (o, complete) =>
    match o.value? depthLimit with
    | none => .error .grammar
    | some v =>
      let found : Except Fault Document :=
        match decodeValue decodeEntity v with
        | .ok e => .ok (.entity e)
        | .error _ =>
          match decodeValue decodeGroup v with
          | .ok g => .ok (.group g)
          | .error _ => .error .shape
      match found with
      | .error e => .error e
      | .ok d => if complete then .ok d else .error .grammar

end Federation.Metadata
