/-
# A store in several hands

Several callers may use one store at the same time. Whoever works for an entity holds its entry
among the records, and others that come to the entry wait until it is released. The tables of the
indexes are not held. They are changed in small steps, one key of one map at a time, and others may
go on between these steps: so a key from which its last ID was taken stays for a moment without IDs,
and goes in a step of its own, unless someone has put another ID there by then.

Keys are a set, which is gone through in some order of its own: each caller brings one along. A call
whose steps follow upon each other does what the operation of the store does.
-/

import Federation.Store.Backing
import Federation.Task.Basic

namespace Federation

open Federation.Metadata Federation.Time Federation.Task

namespace IndexTable

variable (t : IndexTable) (id key : String)

/-- Takes an ID away from a key that may be left without IDs, and tells whether it is. -/
def leave : Bool × IndexTable :=
  match t.entries.get? key with
  | none => (false, t)
  | some ids =>
    let left := ids.filter (· != id)
    (left.isEmpty, { t with entries := t.entries.insert key left })

/-- Drops a key if it is without IDs. -/
def dropHollow : Unit × IndexTable :=
  match t.entries.get? key with
  | some [] => ((), { t with entries := t.entries.erase key })
  | _ => ((), t)

/-- Adds an ID to a key. -/
def join : Unit × IndexTable := ((), { t with entries := addUnder id t.entries key })

/-- Takes out the keys that are noted of an ID. -/
def takeKeys : List String × IndexTable :=
  ((t.byEntity.get? id).getD [], { t with byEntity := t.byEntity.erase id })

/-- Notes the keys of an ID. -/
def noteKeys (keys : List String) : Unit × IndexTable :=
  ((), { t with byEntity := t.byEntity.insert id keys })

end IndexTable

/-- Who makes a call. -/
structure Caller where
  number : Nat
  /-- The order in which the keys of an ID are gone through in the table at a place. It is any. -/
  order : String → Nat → List String → List String
  perm : ∀ id i keys, (order id i keys).Perm keys

/-- A caller who goes through keys as they are found. -/
def Caller.plain (number : Nat) : Caller where
  number := number
  order _ _ keys := keys
  perm _ _ keys := .refl keys

/-- A store in several hands. -/
structure SharedStore where
  store : BackingStore
  /-- The entries that are held, each with the number of the call that holds it. -/
  held : Keyed String Nat

namespace SharedStore

/-- Puts a table in the place of another. -/
def setTable (s : SharedStore) (i : Nat) (t : IndexTable) : SharedStore :=
  { s with store := { s.store with tables := s.store.tables.set i t } }

/-- One access to a table. -/
def onTable {α : Type} [Inhabited α] (i : Nat) (access : IndexTable → α × IndexTable) :
    Task SharedStore α :=
  perform fun s =>
    match s.store.tables[i]? with
    | none => (default, s)
    | some t => ((access t).1, s.setTable i (access t).2)

/-- The indexes and the places of their tables. Neither ever changes. -/
def indexPlaces : Task SharedStore (List (EntityIndex × Nat)) :=
  read fun s => (s.store.tables.map (·.index)).zipIdx

/-- Takes an entity away from a key of a table, and then drops the key if it was the last one. -/
def unfileUnder (id : String) (i : Nat) (key : String) : Task SharedStore Unit := do
  -- Other calls come in between the two accesses, which is why the second one looks again.
  if ← onTable i (·.leave id key) then onTable i (·.dropHollow key)

/-- Takes an entity out of a table. -/
def unfile (id : String) (i : Nat) : Task SharedStore Unit := do
  forEach (← onTable i (·.takeKeys id)) (unfileUnder id i)

/-- Files an entity that is not in a table. -/
def file (id : String) (i : Nat) (keys : List String) : Task SharedStore Unit :=
  if keys.isEmpty then pure ()
  else do
    forEach keys fun key => onTable i (·.join id key)
    onTable i (·.noteKeys id keys)

/-- Takes an entity out of every table. -/
def unfileAll (id : String) : Task SharedStore Unit := do
  forEach (← indexPlaces) fun (_, i) => unfile id i

/-- Files an entity in every table under the keys of its descriptions, and under no others. -/
def refileAll (caller : Caller) (id : String) (descriptions : List Entity) :
    Task SharedStore Unit := do
  forEach (← indexPlaces) fun (index, i) => do
    unfile id i
    file id i (caller.order id i (descriptions.flatMap index.entityKeys).eraseDups)

/-- Holds the entry of an ID, once nobody else does, and gives the records that are there. -/
def hold (number : Nat) (id : String) : Task SharedStore (Option (List CacheRecord)) := do
  waitFor fun s => !s.held.contains id
  perform fun s => (s.store.records.get? id, { s with held := s.held.insert id number })

/-- Releases the entry of an ID. -/
def release (id : String) : Task SharedStore Unit :=
  change fun s => { s with held := s.held.erase id }

/-- Puts records into the entry of an ID. -/
def put (id : String) (records : List CacheRecord) : Task SharedStore Unit :=
  change fun s => { s with store := { s.store with records := s.store.records.insert id records } }

/-- Takes the entry of an ID out, with which it is released. -/
def discard (id : String) : Task SharedStore Unit :=
  change fun s =>
    { store := { s.store with records := s.store.records.erase id }, held := s.held.erase id }

/-- Takes an entity out of the store and the indexes, and gives the records that were there. -/
def remove (number : Nat) (id : String) : Task SharedStore (Option (List CacheRecord)) := do
  match ← hold number id with
  | none =>
    release id
    return none
  | some records =>
    unfileAll id
    discard id
    return some records

/-- Puts records of an entity in place of those that were there. No records take it out. -/
def insert (caller : Caller) (id : String) (records : List CacheRecord) : Task SharedStore Unit :=
  if records.isEmpty then do
    let _ ← remove caller.number id
  else do
    let _ ← hold caller.number id
    put id records
    refileAll caller id (records.map (·.entity))
    release id

/-- Evicts the records of one entity that are due; gives their number. -/
def evict (caller : Caller) (now : Instant) (idleLimit : Option Span) (id : String) :
    Task SharedStore Nat := do
  match ← hold caller.number id with
  | none =>
    release id
    return 0
  | some records =>
    let left := records.filter fun r => !r.isDue now idleLimit
    -- The entry is held until the tables agree with it, so that no other change to it comes in
    -- between.
    put id left
    if left.isEmpty then
      unfileAll id
      discard id
    else if left.length = records.length then release id
    else
      refileAll caller id (left.map (·.entity))
      release id
    return records.length - left.length

/-- Evicts all records that are due of the entities that were seen to be there; gives their
number. -/
def cleanup (caller : Caller) (now : Instant) (idleLimit : Option Span) (seen : List String) :
    Task SharedStore Nat := do
  return (← Task.collect seen (evict caller now idleLimit)).foldl (· + ·) 0

/-- A call that changes a store. -/
inductive Edit where
  | insert (id : String) (records : List CacheRecord)
  | remove (id : String)
  /-- The IDs are those that were seen as the sweep began. Some may be missing that were put in
  since, and some may be gone. -/
  | cleanup (now : Instant) (idleLimit : Option Span) (seen : List String)

/-- Is an entity one of those for which a call is made? -/
def Edit.IsAbout (id : String) : Edit → Prop
  | insert other _ => id = other
  | remove other => id = other
  | cleanup _ _ seen => id ∈ seen

/-- A call, given who makes it. -/
def Edit.task : Caller × Edit → Task SharedStore Unit
  | (caller, .insert id records) => SharedStore.insert caller id records
  | (caller, .remove id) => do
    let _ ← SharedStore.remove caller.number id
  | (caller, .cleanup now idleLimit seen) => do
    let _ ← SharedStore.cleanup caller now idleLimit seen

end SharedStore

end Federation
