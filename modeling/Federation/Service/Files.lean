/-
# Files at hand

A service can be built around files that are given with it, below one folder. Folders that
are missing are made where a cache needs them, but not where a table is to be put.
-/

import Federation.Artifact.Server
import Federation.Service.Build

namespace Federation

/-- Files below a folder, by their paths from there. -/
structure FileTree where
  root : String
  files : List (String × String)

namespace FileTree

/-- The files with their whole paths. -/
def placed (t : FileTree) : List (String × String) :=
  t.files.map fun (path, content) => (t.root ++ "/" ++ path, content)

/-- The content of a file. -/
def read? (t : FileTree) (path : String) : Option String := t.placed.lookup path

/-- What stands in a folder. -/
def entriesIn (t : FileTree) (folder : String) : Keyed String DirectoryEntry :=
  t.placed.foldl (fun entries (path, content) =>
    match Text.dropPrefix? (folder ++ "/").toList path.toList with
    | none => entries
    | some rest =>
      let entry := if rest.contains '/' then .folder else .ofText content
      entries.insert (String.ofList (rest.takeWhile (· != '/'))) entry) .empty

/-- Is there a folder at a path? The place where the service runs is one. -/
def isFolder (t : FileTree) (path : String) : Bool :=
  path.isEmpty || path == "." || path == t.root || (t.entriesIn path).size != 0

/-- Is a path that of a file, or would a folder there have to be below a file? -/
def isBelowFile (t : FileTree) (path : String) : Bool :=
  t.placed.any fun (file, _) => (Text.dropPrefix? (file ++ "/").toList (path ++ "/").toList).isSome

/-- The folder in which a path lies. -/
def parent (path : String) : String :=
  String.ofList ((path.toList.reverse.dropWhile (· != '/')).drop 1).reverse

/-- The cache in a folder, which is made if it is missing. -/
def openDirectory (t : FileTree) (path : String) : Except Failure DirectoryCache :=
  if t.isBelowFile path then
    .error (.configuration ("Failed to create cache directory " ++ path))
  else .ok ⟨t.entriesIn path⟩

/-- A new table in a file, which may be there if it is empty. -/
def openTable (t : FileTree) (path : String) : Except Failure TableCache :=
  if t.isFolder (parent path) && !t.isFolder path && (t.read? path).all String.isEmpty then
    .ok .empty
  else .error (.database "unable to open")

/-- What a service finds around it if there are no files but these, and no key server. -/
def surroundings {ν κ : Type} (t : FileTree) (network : Origin.Network ν) : Surroundings ν κ where
  readFile path := (t.read? path).map Text.utf8
  openDirectory := t.openDirectory
  openTable := t.openTable
  network := network
  connect address _ := .error (KeyServer.unreachable address)

end FileTree

end Federation
