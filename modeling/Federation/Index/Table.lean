/-
# Index tables

A table keeps the entities filed under each key of one index, and the keys under which each
entity is filed. Both views change together; a key without entities is dropped.
-/

import Federation.Index.Keys
import Federation.Keyed

namespace Federation

open Federation.Metadata

/-- The entities filed by one index. -/
structure IndexTable where
  index : EntityIndex
  /-- The IDs under each key. -/
  entries : Keyed String (List String)
  /-- The keys of each ID. -/
  byEntity : Keyed String (List String)

namespace IndexTable

/-- A table without entities. -/
def empty (index : EntityIndex) : IndexTable := ⟨index, .empty, .empty⟩

/-- The IDs under a key. -/
def idsUnder (t : IndexTable) (key : String) : List String := (t.entries.get? key).getD []

/-- Takes an ID away from a key. -/
def dropUnder (id : String) (entries : Keyed String (List String)) (key : String) :
    Keyed String (List String) :=
  match entries.get? key with
  | none => entries
  | some ids =>
    let left := ids.filter (· != id)
    if left.isEmpty then entries.erase key else entries.insert key left

/-- Adds an ID to a key. -/
def addUnder (id : String) (entries : Keyed String (List String)) (key : String) :
    Keyed String (List String) :=
  let ids := (entries.get? key).getD []
  entries.insert key (if ids.contains id then ids else ids ++ [id])

/-- Takes an entity out of the table. -/
def remove (t : IndexTable) (id : String) : IndexTable :=
  match t.byEntity.get? id with
  | none => t
  | some keys =>
    { t with entries := keys.foldl (dropUnder id) t.entries, byEntity := t.byEntity.erase id }

/-- Files an entity that is not in the table. -/
def add (t : IndexTable) (id : String) (keys : List String) : IndexTable :=
  if keys.isEmpty then t
  else
    { t with entries := keys.foldl (addUnder id) t.entries, byEntity := t.byEntity.insert id keys }

/-- Files an entity under the keys of its descriptions, and under no others. -/
def refile (t : IndexTable) (id : String) (descriptions : List Entity) : IndexTable :=
  (t.remove id).add id (descriptions.flatMap t.index.entityKeys).eraseDups

end IndexTable

/-- One table for each index. -/
abbrev IndexTables := List IndexTable

namespace IndexTables

/-- Tables without entities. -/
def ofIndexes (indexes : List EntityIndex) : IndexTables := indexes.map IndexTable.empty

/-- The names of the indexes. -/
def names (ts : IndexTables) : List String := ts.map (·.index.name)

/-- Files an entity in every table. -/
def refile (ts : IndexTables) (id : String) (descriptions : List Entity) : IndexTables :=
  ts.map (·.refile id descriptions)

/-- Takes an entity out of every table. -/
def remove (ts : IndexTables) (id : String) : IndexTables :=
  ts.map (·.remove id)

/-- Takes everything out of every table. -/
def clear (ts : IndexTables) : IndexTables := ts.map fun t => IndexTable.empty t.index

/-- The IDs a query finds in one table, if its index understands the query. -/
def lookupIn (t : IndexTable) (query : Criteria) : Option (List String) :=
  (t.index.queryKeys query).map fun keys => keys.flatMap t.idsUnder

/-- The IDs a query finds in any table, each once; none if no index understands it. -/
def lookup (ts : IndexTables) (query : Criteria) : Option (List String) :=
  match ts.filterMap (lookupIn · query) with
  | [] => none
  | found => some found.flatten.eraseDups

/-- The IDs under a key of the indexes of a name. -/
def entitiesFor (ts : IndexTables) (name key : String) : List String :=
  ((ts.filter (·.index.name == name)).flatMap (·.idsUnder key)).eraseDups

/-- Is an entity in any table? -/
def contains (ts : IndexTables) (id : String) : Bool :=
  ts.any (·.byEntity.contains id)

end IndexTables

end Federation
