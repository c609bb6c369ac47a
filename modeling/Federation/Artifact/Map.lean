/-
# Artifact maps

An artifact map keeps messages under artifacts for a lifetime. One map keeps its entries
itself; they linger after their expiration until they are read or swept, and a new message
takes the place of an old one. Another keeps them in a storage that lets them expire, and
refuses to put a message under an artifact that is live. Every answer to `get`, and every
message that was put or refused, is counted.
-/

import Federation.Artifact.Entry
import Federation.Artifact.Storage
import Federation.Metrics.Basic
import Federation.Task.Basic

namespace Federation

open Federation.Time

/-- What an artifact map works on: the clock, the metrics and its own contents. -/
structure ArtifactScope (ν : Type) where
  now : Instant
  metrics : Metrics
  contents : ν

/-- The operations of an artifact map with contents of some type. -/
structure ArtifactMap (ν : Type) where
  /-- The live entry of an artifact. -/
  get : (artifact : String) → Task (ArtifactScope ν) (Option ArtifactEntry)
  /-- Puts a message under an artifact. -/
  put : (artifact relyingParty issuer message : String) → Task (ArtifactScope ν) Unit
  /-- Takes an artifact out. -/
  remove : (artifact : String) → Task (ArtifactScope ν) Unit
  /-- Evicts expired entries and gives their number. -/
  sweep : Task (ArtifactScope ν) Nat

namespace ArtifactScope

variable {ν α : Type}

/-- Counts the outcome of an operation. -/
def count (operation outcome : String) : Task (ArtifactScope ν) Unit :=
  .change fun s => { s with metrics := s.metrics.count (.artifactOperation operation outcome) }

/-- The instant until which a message that is put now is live. -/
def expiration (lifetime : Span) : Task (ArtifactScope ν) Instant := do
  let now ← Task.read (·.now)
  .ofOutcome (.ofOption (now.add? lifetime))

/-- Changes the contents and gives what was found on the way. -/
def perform (f : Instant → ν → α × ν) : Task (ArtifactScope ν) α :=
  .perform fun s =>
    let (a, contents) := f s.now s.contents
    (a, { s with contents })

/-- An operation on the contents that may fail. -/
def call (f : Instant → ν → Except Failure α × ν) : Task (ArtifactScope ν) α := do
  .ofExcept (← perform f)

/-- The scope of a part of the contents. -/
def part {τ : Type} (place : Task.Place τ ν) : Task.Place (ArtifactScope τ) (ArtifactScope ν) where
  get s := ⟨s.now, s.metrics, place.get s.contents⟩
  put s part := ⟨part.now, part.metrics, place.put s.contents part.contents⟩
  get_put s part := by simp [place.get_put]
  put_get s := by simp [place.put_get]
  put_put s _ _ := by simp [place.put_put]

end ArtifactScope

namespace ArtifactMap

open ArtifactScope

variable {ν : Type}

/-- Has an artifact a live entry? -/
def contains (m : ArtifactMap ν) (artifact : String) : Task (ArtifactScope ν) Bool := do
  return (← m.get artifact).isSome

/-- Sweeps and counts the sweep as a run of a background job, whose duration is not
measured here. -/
def sweepJob (m : ArtifactMap ν) : Task (ArtifactScope ν) Nat := do
  let swept ← m.sweep.attempt
  let status := match swept with
    | .ok _ => "success"
    | .error _ => "error"
  .change fun s => { s with metrics := s.metrics.backgroundJob "artifact_sweep" status 0.0 }
  .ofExcept swept

/-! ## Entries in memory -/

/-- Entries by artifact. -/
abbrev Entries := Keyed String ArtifactEntry

/-- What reading an artifact comes to. -/
inductive Reading where
  | miss
  | expired
  | hit (e : ArtifactEntry)

/-- The outcome that is counted for a reading. -/
def Reading.outcome : Reading → String
  | miss => "miss"
  | expired => "expired"
  | hit _ => "hit"

/-- The entry that was read, if it is live. -/
def Reading.entry? : Reading → Option ArtifactEntry
  | hit e => some e
  | _ => none

/-- Reads an artifact. An expired entry is dropped. -/
def Entries.readAt (artifact : String) (now : Instant) (entries : Entries) : Reading × Entries :=
  match entries.get? artifact with
  | none => (.miss, entries)
  | some e => if e.isExpired now then (.expired, entries.erase artifact) else (.hit e, entries)

/-- The entries that are live, and the number of the others. -/
def Entries.sweepAt (now : Instant) (entries : Entries) : Nat × Entries :=
  let live := entries.filter fun _ e => !e.isExpired now
  (entries.size - live.size, live)

/-- The map that keeps entries itself. -/
def inMemory (lifetime : Span) : ArtifactMap Entries where
  get artifact := do
    let reading ← perform (Entries.readAt artifact)
    count "get" reading.outcome
    return reading.entry?
  put artifact relyingParty issuer message := do
    .ofExcept (checkArtifact artifact)
    let expiration ← ArtifactScope.expiration lifetime
    perform fun _ entries =>
      ((), entries.insert artifact ⟨artifact, issuer, relyingParty, message, expiration⟩)
    count "put" "success"
  remove artifact := do
    perform fun _ entries => ((), entries.erase artifact)
    count "remove" "success"
  sweep := perform Entries.sweepAt

/-! ## Entries in a storage -/

/-- The context under which a storage keeps artifacts. -/
def storageContext : String := "artifact"

/-- Deletes an artifact from a storage. -/
def discard (storage : StorageService ν) (artifact : String) : Task (ArtifactScope ν) Unit := do
  let _ ← call fun _ contents => storage.delete storageContext artifact contents

/-- The map that keeps entries in a storage. An entry that cannot be read, and one that the
storage has not let expire in time, is deleted; nothing is counted for the former. -/
def stored (storage : StorageService ν) (lifetime : Span) : ArtifactMap ν where
  get artifact := do
    match ← call fun now contents => storage.read storageContext artifact now contents with
    | none =>
      count "get" "miss"
      return none
    | some text =>
      match ArtifactEntry.ofText text with
      -- What cannot be read now can never be, and would keep its artifact from being used.
      | .error _ =>
        discard storage artifact
        return none
      | .ok e =>
        let now ← Task.read (·.now)
        if e.isExpired now then do
          discard storage artifact
          count "get" "expired"
          return none
        else do
          count "get" "hit"
          return some e
  put artifact relyingParty issuer message := do
    .ofExcept (checkArtifact artifact)
    let expiration ← ArtifactScope.expiration lifetime
    let e : ArtifactEntry := ⟨artifact, issuer, relyingParty, message, expiration⟩
    let created ← call fun now contents =>
      storage.create storageContext artifact e.text expiration now contents
    if created then count "put" "success"
    else do
      count "put" "duplicate"
      .fail (.duplicateArtifact artifact)
  remove artifact := do
    discard storage artifact
    count "remove" "success"
  sweep := pure 0

/-- The map whose operations all fail. -/
def broken (failure : Failure) : ArtifactMap ν where
  get _ := .fail failure
  put _ _ _ _ := .fail failure
  remove _ := .fail failure
  sweep := .fail failure

/-- A map with its contents in a part of a whole. -/
def on {τ : Type} (place : Task.Place τ ν) (m : ArtifactMap ν) : ArtifactMap τ where
  get artifact := (m.get artifact).on (part place)
  put artifact relyingParty issuer message :=
    (m.put artifact relyingParty issuer message).on (part place)
  remove artifact := (m.remove artifact).on (part place)
  sweep := m.sweep.on (part place)

end ArtifactMap

end Federation
