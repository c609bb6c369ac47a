/-
# Documents at hand

The simplest origin has its documents from the start. Refreshing it filters them anew.
-/

import Federation.Metadata.Load
import Federation.Origin.Basic
import Federation.Origin.Snapshot

namespace Federation.Origin

open Federation.Metadata

/-- The origin that consists of some documents. Its state is the snapshot. -/
def static (documents : List Document) : Origin Snapshot where
  fetch query := Task.read fun s => s.state.answer query
  refresh filters context := do
    let entities ← .ofExcept (filterDocuments filters context documents)
    .change fun s => { s with state := .ofEntities entities }
    return .updated entities none
  isPrefiltered := true
  isSecondary := false
  retryDelay := none

/-- The document in a file, if there is such a file. -/
def fileDocument : Option (List UInt8) → Except Failure Document
  | none => .error (.io "No such file or directory")
  | some bytes => Document.loadBytes bytes

end Federation.Origin
