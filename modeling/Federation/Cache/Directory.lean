/-
# Caches in a directory

A directory keeps one file for each key, named like the key. Only names from a safe alphabet
serve as keys. Listing leaves out folders and the files of unfinished writes. A name that is
too long for the file system, or that is taken by a folder, cannot be read or written.
-/

import Federation.Keyed
import Federation.Metadata.Load
import Federation.Metadata.Canonical
import Federation.Text.Quoted

namespace Federation

open Federation.Metadata

/-- What a name in a directory stands for. -/
inductive DirectoryEntry where
  | file (bytes : List UInt8)
  | folder
deriving DecidableEq, Repr

/-- A file that consists of a text. -/
def DirectoryEntry.ofText (text : String) : DirectoryEntry := .file (Text.utf8 text)

@[simp]
theorem DirectoryEntry.ofText_ne_folder (text : String) : ofText text ≠ .folder := nofun

/-- A cache in a directory. -/
structure DirectoryCache where
  entries : Keyed String DirectoryEntry

namespace DirectoryCache

/-- An empty directory. -/
def empty : DirectoryCache := ⟨.empty⟩

/-- Characters that keys are made of. -/
def isKeyChar (c : Char) : Bool := c.isAlphanum || c == '-' || c == '_' || c == '.'

/-- Keys are not empty, do not begin with a dot and keep to the safe alphabet. -/
def isKey (key : String) : Bool :=
  match key.toList with
  | [] => false
  | c :: cs => c != '.' && (c :: cs).all isKeyChar

/-- The failure of a name that is no key. -/
def refuseKey (key : String) : Failure :=
  .invalidArgument ("Invalid persistent cache key: " ++ Text.quoted key)

/-- The longest name of a file, in bytes. -/
def longestName : Nat := 255

/-- The failure of a name that is too long. -/
def nameTooLong : Failure := .io "File name too long"

/-- What a key stands for, if the file system can tell. -/
def find (d : DirectoryCache) (key : String) : Except Failure (Option DirectoryEntry) :=
  if !isKey key then .error (refuseKey key)
  else if longestName < key.utf8ByteSize then .error nameTooLong
  else .ok (d.entries.get? key)

/-- Is a name the name of an unfinished write? -/
def isTemporary (name : String) : Bool :=
  (Text.dropPrefix? ".tmp-".toList name.toList).isSome

/-- The names of finished files. -/
def list (d : DirectoryCache) : List String :=
  (d.entries.filter fun name entry =>
    match entry with
    | .file _ => !isTemporary name
    | .folder => false).keys

/-- Does a key stand for anything? -/
def has (d : DirectoryCache) (key : String) : Except Failure Bool :=
  (d.find key).map Option.isSome

/-- The entity under a key. -/
def load (d : DirectoryCache) (key : String) : Except Failure (Option Entity) :=
  match d.find key with
  | .error failure => .error failure
  | .ok none => .ok none
  | .ok (some (.file bytes)) => (Entity.loadBytes bytes).map some
  | .ok (some .folder) => .error (.io "Is a directory")

/-- Writes an entity under a key, in place of what was there if that is wanted. -/
def save (d : DirectoryCache) (key : String) (e : Entity) (overwrite : Bool) :
    Except Failure Unit × DirectoryCache :=
  match d.find key with
  | .error failure => (.error failure, d)
  | .ok found =>
    if found.isSome && !overwrite then (.error (.alreadyExists key), d)
    else if found == some .folder then (.error (.io "Is a directory"), d)
    else (.ok (), ⟨d.entries.insert key (.ofText e.canonical)⟩)

/-- Takes a key out and tells whether it was there. -/
def remove (d : DirectoryCache) (key : String) : Except Failure Bool × DirectoryCache :=
  match d.find key with
  | .error failure => (.error failure, d)
  | .ok none => (.ok false, d)
  | .ok (some (.file _)) => (.ok true, ⟨d.entries.erase key⟩)
  | .ok (some .folder) => (.error (.io "Is a directory"), d)

/-- Moves what is under a key to a key that is free, and tells whether it was there. -/
def rename (d : DirectoryCache) (key newKey : String) : Except Failure Bool × DirectoryCache :=
  if !isKey key then (.error (refuseKey key), d)
  else if !isKey newKey then (.error (refuseKey newKey), d)
  else
    -- A key that is missing is told even where the new one is taken.
    match d.find key with
    | .error failure => (.error failure, d)
    | .ok none => (.ok false, d)
    | .ok (some entry) =>
      match d.find newKey with
      | .error failure => (.error failure, d)
      | .ok (some _) => (.error (.alreadyExists newKey), d)
      | .ok none => (.ok true, ⟨(d.entries.erase key).insert newKey entry⟩)

/-- Writes a file without regard to the rules of keys. -/
def plant (d : DirectoryCache) (name text : String) : Except Failure Unit × DirectoryCache :=
  if name.isEmpty || name == "." || name == ".." || name.toList.contains '/'
      || longestName < name.utf8ByteSize || d.entries.get? name == some .folder then
    (.error (.io "No such file"), d)
  else (.ok (), ⟨d.entries.insert name (.ofText text)⟩)

/-- Makes a folder. -/
def makeFolder (d : DirectoryCache) (name : String) : DirectoryCache :=
  ⟨d.entries.insert name .folder⟩

/-- The text of a file, if it is one. -/
def peek (d : DirectoryCache) (name : String) : Option String :=
  match d.entries.get? name with
  | some (.file bytes) => Text.ofUtf8? bytes
  | _ => none

end DirectoryCache

end Federation
