/-
# Decoders

A decoder takes the outline of a text to a value of some type and meets the faults in the
order of the text. A fault is either a departure from the grammar or a value of the wrong
shape. A record is written as an object of its members, or as an array of them in the order
of their declaration; members that it does not have are passed over, and passing over asks
for the grammar only.
-/

import Federation.Json.Reader

namespace Federation.Json

/-- Why a text could not be decoded. -/
inductive Fault where
  /-- The text departs from the grammar. -/
  | grammar
  /-- The text is well-formed but has the wrong shape. -/
  | shape
deriving DecidableEq, Repr

/-- A partial function from outlines. -/
abbrev Decoder (α : Type) := Outline → Except Fault α

mutual

/-- Does the outline stay within the grammar as far as a value that is passed over must? -/
def Outline.isSound : Outline → Bool
  | .broken => false
  | .array items closed => soundItems items && closed
  | .object members closed => soundMembers members && closed
  | _ => true

/-- Are all items sound? -/
def Outline.soundItems : List Outline → Bool
  | [] => true
  | o :: rest => o.isSound && Outline.soundItems rest

/-- Are all members sound? -/
def Outline.soundMembers : List (Option String × Outline) → Bool
  | [] => true
  | (_, o) :: rest => o.isSound && Outline.soundMembers rest

end

/-- The fault of meeting an outline of an unexpected kind. A scalar is read before its kind
is refused. -/
def Outline.unexpected : Outline → Fault
  | .broken => .grammar
  | .number none => .grammar
  | .string none => .grammar
  | _ => .shape

/-- Decodes a string. -/
def string : Decoder String
  | .string (some s) => .ok s
  | o => .error o.unexpected

/-- Decodes a truth value. -/
def bool : Decoder Bool
  | .bool b => .ok b
  | o => .error o.unexpected

/-- Decodes a whole number up to a bound, both ends included. -/
def natural (max : Nat) : Decoder Nat
  | .number (some (.natural n)) => if n ≤ max then .ok n else .error .shape
  | o => .error o.unexpected

/-- Decodes a double; whole numbers are taken to the nearest one. -/
def double : Decoder Float
  | .number (some (.natural n)) => .ok (UInt64.ofNat n).toFloat
  | .number (some (.negative n)) => .ok (-(UInt64.ofNat n).toFloat)
  | .number (some (.double bits)) => .ok (Float.ofBits bits)
  | o => .error o.unexpected

/-- Decodes what may be null. -/
def optional {α : Type} (decoder : Decoder α) : Decoder (Option α)
  | .null => .ok none
  | o => (decoder o).map some

/-- Decodes the items of an array one by one. -/
def items {α : Type} (decoder : Decoder α) : List Outline → Except Fault (List α)
  | [] => .ok []
  | o :: rest =>
    match decoder o with
    | .error e => .error e
    | .ok a => (items decoder rest).map (a :: ·)

/-- Decodes an array. -/
def list {α : Type} (decoder : Decoder α) : Decoder (List α)
  | .array elements closed =>
    match items decoder elements with
    | .error e => .error e
    | .ok as => if closed then .ok as else .error .grammar
  | o => .error o.unexpected

/-- Takes one member of a record into what is known of it so far. -/
abbrev Step (δ : Type) := δ → String → Outline → Except Fault δ

/-- Takes the members of an object in order. -/
def members {δ : Type} (step : Step δ) : δ → List (Option String × Outline) → Except Fault δ
  | draft, [] => .ok draft
  | _, (none, _) :: _ => .error .grammar
  | draft, (some name, o) :: rest =>
    match step draft name o with
    | .error e => .error e
    | .ok draft => members step draft rest

/-- Takes the items of an array as the members with the given names. -/
def positions {δ : Type} (step : Step δ) :
    (names : List String) → δ → List Outline → Except Fault δ
  | _, draft, [] => .ok draft
  | [], _, _ :: _ => .error .grammar
  | name :: names, draft, o :: rest =>
    match step draft name o with
    | .error e => .error e
    | .ok draft => positions step names draft rest

/-- Decodes a record from an object or an array of its members. -/
def record {δ α : Type} (names : List String) (step : Step δ) (start : δ)
    (finish : δ → Except Fault α) : Decoder α
  | .object entries closed =>
    match members step start entries with
    | .error e => .error e
    | .ok draft => if closed then finish draft else .error .grammar
  | .array elements closed =>
    match positions step names start elements with
    | .error e => .error e
    | .ok draft => if closed then finish draft else .error .grammar
  | o => .error o.unexpected

/-- Passes over a member. -/
def passOver {δ : Type} (draft : δ) (o : Outline) : Except Fault δ :=
  if o.isSound then .ok draft else .error .grammar

/-- Fills a member that has no value yet; a second value is a fault of shape. -/
def fill {α δ : Type} (slot : Option α) (decoder : Decoder α) (set : α → δ) (o : Outline) :
    Except Fault δ :=
  match slot with
  | some _ => .error .shape
  | none => (decoder o).map set

/-- A member that must be there. -/
def require {α : Type} : Option α → Except Fault α
  | some a => .ok a
  | none => .error .shape

/-- Decodes a whole text. -/
def decodeText {α : Type} (decoder : Decoder α) (s : String) : Except Fault α :=
  match Outline.ofText s with
  | (o, complete) =>
    match decoder o with
    | .error e => .error e
    | .ok a => if complete then .ok a else .error .grammar

/-- Decodes a value. A value stays within the grammar, so every fault is one of shape. -/
def decodeValue {α : Type} (decoder : Decoder α) (v : Value) : Except Fault α :=
  match decoder v.outline with
  | .error _ => .error .shape
  | .ok a => .ok a

end Federation.Json
