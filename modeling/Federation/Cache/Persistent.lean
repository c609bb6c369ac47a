/-
# Persistent caches

A resolver keeps copies of entities in a persistent cache, which outlives it. Caches in a
directory and in a table are interchangeable; a third one in memory can be told to fail, and
to let others run before each of its operations.
-/

import Federation.Cache.Directory
import Federation.Cache.Table
import Federation.Digest.Sha256
import Federation.Text.Hex

namespace Federation

open Federation.Metadata

/-- The operations of a cache that may fail on demand. -/
inductive CacheOperation where
  | list
  | load
  | save
  | remove
  | rename
deriving DecidableEq, Repr

/-- The name of an operation. -/
def CacheOperation.name : CacheOperation → String
  | list => "list"
  | load => "load"
  | save => "save"
  | remove => "remove"
  | rename => "rename"

/-- The operation of a name. -/
def CacheOperation.ofName? (name : String) : Option CacheOperation :=
  [CacheOperation.list, .load, .save, .remove, .rename].find? (·.name == name)

/-- A cache in memory. -/
structure MemoryCache where
  table : TableCache
  /-- Does every operation let others run first? -/
  pausing : Bool
  /-- The operations that fail. -/
  failing : List CacheOperation

namespace MemoryCache

/-- An empty cache. -/
def empty (pausing : Bool) : MemoryCache := ⟨.empty, pausing, []⟩

/-- Runs an operation unless it is to fail. -/
def guard {α : Type} (m : MemoryCache) (operation : CacheOperation)
    (run : TableCache → Except Failure α × TableCache) : Except Failure α × MemoryCache :=
  if m.failing.contains operation then (.error (.storage (operation.name ++ " unavailable")), m)
  else
    let (answer, table) := run m.table
    (answer, { m with table })

end MemoryCache

/-- A persistent cache of one of three kinds. -/
inductive PersistentCache where
  | directory (d : DirectoryCache)
  | table (t : TableCache)
  | memory (m : MemoryCache)

namespace PersistentCache

/-- Do operations let others run first? In memory they do so only if told to. -/
def isPausing : PersistentCache → Bool
  | directory _ => true
  | table _ => true
  | memory m => m.pausing

/-- Carries a kind of cache over to a cache. -/
def carry {α κ : Type} (wrap : κ → PersistentCache) (r : α × κ) : α × PersistentCache :=
  (r.1, wrap r.2)

/-- The keys of all entries. -/
def list : PersistentCache → Except Failure (List String) × PersistentCache
  | directory d => (.ok d.list, directory d)
  | table t => (t.list, table t)
  | memory m => carry memory (m.guard .list fun t => (t.list, t))

/-- Is there an entry under a key? -/
def has (c : PersistentCache) (key : String) : Except Failure Bool :=
  match c with
  | directory d => d.has key
  | table t => t.has key
  | memory m => m.table.has key

/-- The entity under a key. -/
def load (c : PersistentCache) (key : String) : Except Failure (Option Entity) × PersistentCache :=
  match c with
  | directory d => (d.load key, c)
  | table t => (t.load key, c)
  | memory m => carry memory (m.guard .load fun t => (t.load key, t))

/-- Writes an entity under a key. -/
def save (c : PersistentCache) (key : String) (e : Entity) (overwrite : Bool) :
    Except Failure Unit × PersistentCache :=
  match c with
  | directory d => carry directory (d.save key e overwrite)
  | table t => carry table (t.save key e overwrite)
  | memory m => carry memory (m.guard .save fun t => t.save key e overwrite)

/-- Takes a key out and tells whether it was there. -/
def remove (c : PersistentCache) (key : String) : Except Failure Bool × PersistentCache :=
  match c with
  | directory d => carry directory (d.remove key)
  | table t => carry table (t.remove key)
  | memory m => carry memory (m.guard .remove fun t => t.remove key)

/-- Moves an entry to a key that is free, and tells whether it was there. -/
def rename (c : PersistentCache) (key newKey : String) : Except Failure Bool × PersistentCache :=
  match c with
  | directory d => carry directory (d.rename key newKey)
  | table t => carry table (t.rename key newKey)
  | memory m => carry memory (m.guard .rename fun t => t.rename key newKey)

/-- Writes any text under a key. -/
def plant (c : PersistentCache) (key text : String) : Except Failure Unit × PersistentCache :=
  match c with
  | directory d => carry directory (d.plant key text)
  | table t => carry table (t.plant key text)
  | memory m =>
    let (answer, t) := m.table.plant key text
    (answer, memory { m with table := t })

/-- The text under a key. -/
def peek (c : PersistentCache) (key : String) : Option String :=
  match c with
  | directory d => d.peek key
  | table t => t.peek key
  | memory m => m.table.peek key

/-- Makes a folder, where there are such. -/
def makeFolder (c : PersistentCache) (name : String) : PersistentCache :=
  match c with
  | directory d => directory (d.makeFolder name)
  | c => c

/-- Drops the table, where there is one. -/
def dropTable (c : PersistentCache) : PersistentCache :=
  match c with
  | table t => table t.drop
  | c => c

/-- Makes some operations fail, where that can be asked for. -/
def setFailing (c : PersistentCache) (operations : List CacheOperation) : PersistentCache :=
  match c with
  | memory m => memory { m with failing := operations }
  | c => c

/-- Is an operation told to fail? -/
def isFailing (c : PersistentCache) : Bool :=
  match c with
  | memory m => !m.failing.isEmpty
  | _ => false

end PersistentCache

/-- The key under which an entity is kept unless another is chosen: the digest of its ID. -/
def standardKey (e : Entity) : String :=
  Text.Hex.encode (Digest.sha256 (Text.utf8 e.entityId))

end Federation
