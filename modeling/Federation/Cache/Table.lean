/-
# Caches in a table

A table keeps one row for each key, and any text serves as a key. Moving a row looks at the
new key first. Once the table is gone nothing can be done with it.
-/

import Federation.Keyed
import Federation.Metadata.Load
import Federation.Metadata.Canonical

namespace Federation

open Federation.Metadata

/-- A cache in a table; `none` when the table is gone. -/
structure TableCache where
  rows : Option (Keyed String String)

namespace TableCache

/-- An empty table. -/
def empty : TableCache := ⟨some .empty⟩

/-- The failure of a table that is gone. -/
def gone : Failure := .database "no such table"

/-- The keys of all rows. -/
def list (t : TableCache) : Except Failure (List String) :=
  match t.rows with
  | none => .error gone
  | some rows => .ok rows.keys

/-- Is there a row of a key? -/
def has (t : TableCache) (key : String) : Except Failure Bool :=
  match t.rows with
  | none => .error gone
  | some rows => .ok (rows.contains key)

/-- The entity under a key. -/
def load (t : TableCache) (key : String) : Except Failure (Option Entity) :=
  match t.rows with
  | none => .error gone
  | some rows =>
    match rows.get? key with
    | none => .ok none
    | some text => (Entity.load text).map some

/-- Writes an entity under a key, in place of what was there if that is wanted. -/
def save (t : TableCache) (key : String) (e : Entity) (overwrite : Bool) :
    Except Failure Unit × TableCache :=
  match t.rows with
  | none => (.error gone, t)
  | some rows =>
    if rows.contains key && !overwrite then (.error (.alreadyExists key), t)
    else (.ok (), ⟨some (rows.insert key e.canonical)⟩)

/-- Takes a key out and tells whether it was there. -/
def remove (t : TableCache) (key : String) : Except Failure Bool × TableCache :=
  match t.rows with
  | none => (.error gone, t)
  | some rows =>
    if rows.contains key then (.ok true, ⟨some (rows.erase key)⟩) else (.ok false, t)

/-- Moves a row to a key that is free, and tells whether it was there. -/
def rename (t : TableCache) (key newKey : String) : Except Failure Bool × TableCache :=
  match t.rows with
  | none => (.error gone, t)
  | some rows =>
    -- A key that is moved to itself is taken, even by itself.
    if rows.contains newKey then (.error (.alreadyExists newKey), t)
    else
      match rows.get? key with
      | none => (.ok false, t)
      | some text => (.ok true, ⟨some ((rows.erase key).insert newKey text)⟩)

/-- Writes a row with any text. -/
def plant (t : TableCache) (key text : String) : Except Failure Unit × TableCache :=
  match t.rows with
  | none => (.error gone, t)
  | some rows => (.ok (), ⟨some (rows.insert key text)⟩)

/-- Drops the table. -/
def drop (_ : TableCache) : TableCache := ⟨none⟩

/-- The text of a row. -/
def peek (t : TableCache) (key : String) : Option String :=
  t.rows.bind (·.get? key)

end TableCache

end Federation
