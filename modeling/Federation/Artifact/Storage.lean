/-
# Storage of texts that expire

A storage keeps texts by context and key until they expire. It refuses to create a record
under a key that is live. One storage keeps its records in memory and drops an expired one
when it is asked for it; another hands them to a key server, which is told how long every
record is to live.
-/

import Federation.Keyed
import Federation.Failure
import Federation.Time.Instant

namespace Federation

open Federation.Time

/-- A storage with contents of some type. Every operation is given the present instant. -/
structure StorageService (ν : Type) where
  /-- Creates a record; false if a live one has its key. -/
  create : (context key text : String) → (expiration now : Instant) → ν → Except Failure Bool × ν
  /-- The text of a live record. -/
  read : (context key : String) → (now : Instant) → ν → Except Failure (Option String) × ν
  /-- Deletes a record and tells whether there was one. -/
  delete : (context key : String) → ν → Except Failure Bool × ν

/-- A text and the instant at which it expires. -/
structure StoredText where
  text : String
  expiration : Instant
deriving DecidableEq, Repr

/-- The contents of a storage in memory, by context and key. -/
abbrev StoredTexts := Keyed (String × String) StoredText

namespace StoredTexts

/-- Creates a record unless a live one has its key. -/
def create (context key text : String) (expiration now : Instant) (records : StoredTexts) :
    Bool × StoredTexts :=
  match records.get? (context, key) with
  | some record =>
    if now < record.expiration then (false, records)
    else (true, records.insert (context, key) ⟨text, expiration⟩)
  | none => (true, records.insert (context, key) ⟨text, expiration⟩)

/-- The text of a live record. An expired one is dropped. -/
def read (context key : String) (now : Instant) (records : StoredTexts) :
    Option String × StoredTexts :=
  match records.get? (context, key) with
  | none => (none, records)
  | some record =>
    if record.expiration ≤ now then (none, records.erase (context, key))
    else (some record.text, records)

/-- Deletes a record and tells whether there was one, live or not. -/
def delete (context key : String) (records : StoredTexts) : Bool × StoredTexts :=
  (records.contains (context, key), records.erase (context, key))

/-- The storage in memory. It never fails. -/
def service : StorageService StoredTexts where
  create context key text expiration now records :=
    let (created, records) := create context key text expiration now records
    (.ok created, records)
  read context key now records :=
    let (text, records) := read context key now records
    (.ok text, records)
  delete context key records :=
    let (deleted, records) := delete context key records
    (.ok deleted, records)

end StoredTexts

/-! ## Key servers -/

/-- What a key server is told to do. -/
inductive KeyCommand where
  /-- Sets the text of a key that has none, for a number of milliseconds. -/
  | setIfAbsent (key text : String) (millis : Int)
  | get (key : String)
  | delete (key : String)
  | ping
deriving DecidableEq, Repr

/-- The words of a command. -/
def KeyCommand.words : KeyCommand → List String
  | setIfAbsent key text millis => ["SET", key, text, "NX", "PX", toString millis]
  | get key => ["GET", key]
  | delete key => ["DEL", key]
  | ping => ["PING"]

/-- What a key server answers. -/
inductive KeyReply where
  | text (s : Option String)
  | done (yes : Bool)
  | refused (reason : String)
deriving DecidableEq, Repr

/-- A key server with contents of some type, and what all keys begin with. -/
structure KeyServer (ν : Type) where
  lead : String
  answer : KeyCommand → ν → KeyReply × ν

namespace KeyServer

variable {ν : Type}

/-- The key of a record at the server. -/
def keyOf (server : KeyServer ν) (context key : String) : String :=
  server.lead ++ context ++ ":" ++ key

/-- The time for which a record is to live, in milliseconds, and at least one. -/
def lifetime (expiration now : Instant) : Int := max 1 (expiration.span now).millis

/-- The failure of an operation that was refused. -/
def refusal (operation reason : String) : Failure := .storage (operation ++ " failed: " ++ reason)

/-- The failure of a reply of the wrong kind. -/
def unexpected (operation : String) : Failure := .storage (operation ++ " failed: unexpected reply")

/-- The storage at a key server. -/
def service (server : KeyServer ν) : StorageService ν where
  create context key text expiration now contents :=
    match server.answer (.setIfAbsent (server.keyOf context key) text (lifetime expiration now))
        contents with
    | (.done yes, contents) => (.ok yes, contents)
    | (.refused reason, contents) => (.error (refusal "Storage create" reason), contents)
    | (.text _, contents) => (.error (unexpected "Storage create"), contents)
  read context key _ contents :=
    match server.answer (.get (server.keyOf context key)) contents with
    | (.text s, contents) => (.ok s, contents)
    | (.refused reason, contents) => (.error (refusal "Storage read" reason), contents)
    | (.done _, contents) => (.error (unexpected "Storage read"), contents)
  delete context key contents :=
    match server.answer (.delete (server.keyOf context key)) contents with
    | (.done yes, contents) => (.ok yes, contents)
    | (.refused reason, contents) => (.error (refusal "Storage delete" reason), contents)
    | (.text _, contents) => (.error (unexpected "Storage delete"), contents)

/-- Asks a key server whether it is there. -/
def ping (server : KeyServer ν) (contents : ν) : Except Failure Unit × ν :=
  match server.answer .ping contents with
  | (.text (some "PONG"), contents) => (.ok (), contents)
  | (.refused reason, contents) => (.error (refusal "Redis PING" reason), contents)
  | (_, contents) => (.error (.storage "Unexpected Redis PING response"), contents)

end KeyServer

end Federation
