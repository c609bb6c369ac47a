/-
# Artifact maps follow a ledger

The map in memory and the map in a storage in memory keep different things at different times.
One drops an expired entry when it is read or swept; the other writes entries as texts, and keeps
an expired one until it is read or its artifact is used again. What either of them holds that is
live is what the ledger has as live, so that their answers are those of the ledger.

## Main definitions

- `ArtifactMap.IsKeptInMemory`, `ArtifactMap.IsStored`: what a map holds agrees with a ledger.
- `ArtifactMap.FollowsLedger`: a map answers every run as a ledger does.

## Main results

- `ArtifactMap.maps_follow_ledger`: both maps refine one specification, and part company only where
  a message is put under a live artifact.
-/

import Federation.Artifact.Map
import Federation.Proofs.Artifact.Entries
import Federation.Proofs.Artifact.Ledger
import Federation.Proofs.Task.Runs

namespace Federation.ArtifactMap

open Federation.Time ArtifactLedger

variable {ν : Type} {lifetime : Span} {artifact : String} {l : ArtifactLedger}

/-- What a map answers, and what becomes of its scope. -/
def step (m : ArtifactMap ν) :
    ArtifactOp → ArtifactScope ν → Option ArtifactAnswer × ArtifactScope ν
  | .put artifact relyingParty issuer message, s =>
    let (outcome, s) := (m.put artifact relyingParty issuer message).run s
    (some (.done outcome), s)
  | .get artifact, s =>
    let (outcome, s) := (m.get artifact).run s
    (some (.found outcome), s)
  | .contains artifact, s =>
    let (outcome, s) := (m.contains artifact).run s
    (some (.told outcome), s)
  | .remove artifact, s =>
    let (outcome, s) := (m.remove artifact).run s
    (some (.done outcome), s)
  | .sweep, s => (none, (m.sweep.run s).2)
  | .advance instant _, s => (none, { s with now := s.now.latest instant })

/-- Whatever the map, a message is put only if the artifact is not blank and its expiration is in
range. -/
theorem run_expiring (s : ArtifactScope ν) (artifact : String) (lifetime : Span)
    (next : Instant → Task (ArtifactScope ν) Unit) :
    (do
      .ofExcept (checkArtifact artifact)
      let expiration ← ArtifactScope.expiration lifetime
      next expiration : Task (ArtifactScope ν) Unit).run s
      = match checkArtifact artifact, s.now.add? lifetime with
        | .error failure, _ => (.failed failure, s)
        | .ok (), none => (.overflow, s)
        | .ok (), some expiration => (next expiration).run s := by
  cases checkArtifact artifact with
  | error failure => rfl
  | ok =>
    rw [Task.run_then, Task.run_ofExcept, Outcome.ofExcept, Task.proceed_ok, Task.run_then]
    have found : (ArtifactScope.expiration lifetime).run s
        = (Outcome.ofOption (s.now.add? lifetime), s) := rfl
    rw [found]
    cases s.now.add? lifetime <;> rfl

/-! ## Entries in memory -/

section inMemory

variable {s : ArtifactScope Entries}

/-- Reading an artifact gives its live entry. -/
theorem fst_readAt (artifact : String) (now : Instant) (entries : Entries) :
    Reading.entry? (entries.readAt artifact now).1 = liveAt now (entries.get? artifact) := by
  rw [Entries.readAt]
  cases entries.get? artifact with
  | none => rfl
  | some e =>
    by_cases expired : e.expiration ≤ now
    · simp [ArtifactEntry.isExpired, expired, Reading.entry?, liveAt_some_of_expired expired]
    · have live := Instant.not_le.1 expired
      simp [ArtifactEntry.isExpired, expired, Reading.entry?, liveAt_some_of_live live]

/-- Reading an artifact leaves everything that is live. -/
theorem liveAt_readAt (artifact other : String) (now : Instant) (entries : Entries) :
    liveAt now ((entries.readAt artifact now).2.get? other) = liveAt now (entries.get? other) := by
  rw [Entries.readAt]
  split
  · rfl
  · rename_i e held
    by_cases expired : e.expiration ≤ now
    · simp only [ArtifactEntry.isExpired, expired, decide_true, if_true, Keyed.get?_erase]
      by_cases same : other = artifact
      · rw [if_pos same, same, held, liveAt_some_of_expired expired]
        rfl
      · rw [if_neg same]
    · simp [ArtifactEntry.isExpired, expired]

/-- A sweep leaves everything that is live. -/
theorem liveAt_sweepAt (other : String) (now : Instant) (entries : Entries) :
    liveAt now ((entries.sweepAt now).2.get? other) = liveAt now (entries.get? other) := by
  rw [Entries.sweepAt, Keyed.get?_filter, liveAt, liveAt, Option.filter_filter]
  refine congrArg (fun test => (entries.get? other).filter test) (funext fun e => ?_)
  have apart : now < e.expiration → ¬ e.expiration ≤ now := Instant.not_le.2
  simpa [ArtifactEntry.isExpired] using apart

/-- The map in memory holds what is live in the ledger, and nothing else that is live. -/
structure IsKeptInMemory (s : ArtifactScope Entries) (l : ArtifactLedger) : Prop where
  now : s.now = l.now
  live : ∀ artifact, liveAt l.now (s.contents.get? artifact) = l.live? artifact

theorem run_get_inMemory (lifetime : Span) (artifact : String) (s : ArtifactScope Entries) :
    ∃ metrics, ((inMemory lifetime).get artifact).run s
      = (.ok (liveAt s.now (s.contents.get? artifact)),
        ⟨s.now, metrics, (s.contents.readAt artifact s.now).2⟩) := by
  rw [← fst_readAt]
  exact ⟨_, rfl⟩

theorem IsKeptInMemory.get {metrics : Metrics} (kept : IsKeptInMemory s l) (artifact : String) :
    IsKeptInMemory ⟨s.now, metrics, (s.contents.readAt artifact s.now).2⟩ l := by
  refine ⟨kept.now, fun other => ?_⟩
  rw [← kept.live other, kept.now]
  exact liveAt_readAt artifact other l.now s.contents

/-- In memory a message takes the place of any other under its artifact. -/
theorem IsKeptInMemory.put {metrics : Metrics} (kept : IsKeptInMemory s l) (artifact : String)
    (e : ArtifactEntry) :
    IsKeptInMemory ⟨s.now, metrics, s.contents.insert artifact e⟩
      { l with held := Function.update l.held artifact (some e) } := by
  refine ⟨kept.now, fun other => ?_⟩
  have before : liveAt l.now (s.contents.get? other) = liveAt l.now (l.held other) :=
    kept.live other
  rw [live?, liveAt_update, Keyed.get?_insert, ← before]
  exact apply_ite (liveAt l.now) _ _ _

theorem IsKeptInMemory.remove {metrics : Metrics} (kept : IsKeptInMemory s l) (artifact : String) :
    IsKeptInMemory ⟨s.now, metrics, s.contents.erase artifact⟩
      { l with held := Function.update l.held artifact none } := by
  refine ⟨kept.now, fun other => ?_⟩
  have before : liveAt l.now (s.contents.get? other) = liveAt l.now (l.held other) :=
    kept.live other
  rw [live?, liveAt_update, Keyed.get?_erase, ← before]
  exact apply_ite (liveAt l.now) _ _ _

/-- A message that is put in memory is kept for a lifetime. -/
theorem run_put_inMemory {expiration : Instant} (s : ArtifactScope Entries)
    (named : checkArtifact artifact = .ok ()) (sum : s.now.add? lifetime = some expiration)
    (relyingParty issuer message : String) :
    ∃ metrics, ((inMemory lifetime).put artifact relyingParty issuer message).run s
      = (.ok (), ⟨s.now, metrics,
          s.contents.insert artifact ⟨artifact, issuer, relyingParty, message, expiration⟩⟩) := by
  rw [inMemory, run_expiring, named, sum]
  exact ⟨_, rfl⟩

/-- The map in memory takes every step as the ledger does in which new messages take the place of
old ones. -/
theorem IsKeptInMemory.step (op : ArtifactOp) (kept : IsKeptInMemory s l) :
    ((inMemory lifetime).step op s).1 = (l.step .replaces lifetime op).1 ∧
      IsKeptInMemory ((inMemory lifetime).step op s).2 (l.step .replaces lifetime op).2 := by
  cases op with
  | put artifact relyingParty issuer message =>
    cases named : checkArtifact artifact with
    | error failure =>
      rw [ArtifactMap.step, ArtifactLedger.step, ArtifactLedger.put, inMemory, run_expiring, named]
      exact ⟨rfl, kept⟩
    | ok =>
      cases sum : l.now.add? lifetime with
      | none =>
        rw [ArtifactMap.step, ArtifactLedger.step, ArtifactLedger.put, inMemory, run_expiring,
          named, kept.now, sum]
        exact ⟨rfl, kept⟩
      | some expiration =>
        obtain ⟨metrics, ran⟩ := run_put_inMemory s named (kept.now ▸ sum) relyingParty issuer message
        rw [ArtifactMap.step, ArtifactLedger.step, ArtifactLedger.put, ran, named, sum]
        exact ⟨rfl, kept.put artifact _⟩
  | get artifact =>
    obtain ⟨metrics, ran⟩ := run_get_inMemory lifetime artifact s
    rw [ArtifactMap.step, ran]
    refine ⟨?_, kept.get artifact⟩
    rw [kept.now, kept.live]
    rfl
  | contains artifact =>
    obtain ⟨metrics, ran⟩ := run_get_inMemory lifetime artifact s
    rw [ArtifactMap.step, contains, Task.run_then, ran]
    refine ⟨?_, kept.get artifact⟩
    rw [kept.now, kept.live]
    rfl
  | remove artifact => exact ⟨rfl, kept.remove artifact⟩
  | sweep =>
    refine ⟨rfl, kept.now, fun other => ?_⟩
    rw [ArtifactLedger.step, ← kept.live other, ← kept.now]
    exact liveAt_sweepAt other s.now s.contents
  | advance instant civil =>
    -- What is live later is live now, so that both sides lose the same as the clock goes on.
    have forward : l.now ≤ l.now.latest instant := (Instant.latest_le_iff.1 (Instant.le_refl _)).1
    refine ⟨rfl, congrArg (·.latest instant) kept.now, fun other => ?_⟩
    have before := congrArg (liveAt (l.now.latest instant)) (kept.live other)
    rwa [live?, liveAt_liveAt forward, liveAt_liveAt forward] at before

end inMemory

/-! ## Entries in a storage -/

section stored

variable {s : ArtifactScope StoredTexts} {now : Instant} {records : StoredTexts}

/-- A record that is live at an instant. -/
def unexpired (now : Instant) (o : Option StoredText) : Option StoredText :=
  o.filter fun record => now < record.expiration

/-- What a storage keeps of an entry. -/
def recordOf (e : ArtifactEntry) : StoredText := ⟨e.text, e.expiration⟩

theorem unexpired_recordOf (now : Instant) (o : Option ArtifactEntry) :
    unexpired now (o.map recordOf) = (liveAt now o).map recordOf := by
  rw [unexpired, Option.filter_map]
  rfl

theorem unexpired_unexpired {later : Instant} {o : Option StoredText} (forward : now ≤ later) :
    unexpired later (unexpired now o) = unexpired later o := by
  rw [unexpired, unexpired, unexpired, Option.filter_filter]
  refine congrArg (fun test => o.filter test) (funext fun record => ?_)
  have sooner : later < record.expiration → now < record.expiration :=
    Instant.lt_of_le_of_lt forward
  simpa using sooner

/-- Reading a key gives the text of its live record. -/
theorem fst_read (context key : String) (now : Instant) (records : StoredTexts) :
    (records.read context key now).1
      = (unexpired now (records.get? (context, key))).map (·.text) := by
  rw [StoredTexts.read]
  cases records.get? (context, key) with
  | none => rfl
  | some record =>
    by_cases expired : record.expiration ≤ now
    · have not_live : ¬ now < record.expiration := Instant.not_lt.2 expired
      simp [expired, unexpired, Option.filter_some, not_live]
    · have live := Instant.not_le.1 expired
      simp [expired, unexpired, Option.filter_some, live]

/-- Reading a key leaves everything that is live. -/
theorem unexpired_read (context key : String) (other : String × String) (now : Instant)
    (records : StoredTexts) :
    unexpired now ((records.read context key now).2.get? other)
      = unexpired now (records.get? other) := by
  rw [StoredTexts.read]
  split
  · rfl
  · rename_i record held
    by_cases expired : record.expiration ≤ now
    · have not_live : ¬ now < record.expiration := Instant.not_lt.2 expired
      rw [if_pos expired, Keyed.get?_erase]
      by_cases same : other = (context, key)
      · simp [same, held, unexpired, Option.filter_some, not_live]
      · rw [if_neg same]
    · rw [if_neg expired]

/-- A record is created unless there is a live one. -/
theorem create_eq (context key text : String) (expiration now : Instant) (records : StoredTexts) :
    records.create context key text expiration now
      = if (unexpired now (records.get? (context, key))).isSome then (false, records)
        else (true, records.insert (context, key) ⟨text, expiration⟩) := by
  rw [StoredTexts.create]
  cases records.get? (context, key) with
  | none => rfl
  | some record =>
    by_cases live : now < record.expiration
    · simp [live, unexpired]
    · simp [live, unexpired]

/-- The storage keeps what is live in the ledger, and nothing else that is live. Whatever the
ledger lists can be read. -/
structure IsStored (s : ArtifactScope StoredTexts) (l : ArtifactLedger) : Prop where
  now : s.now = l.now
  civil : l.now.IsCivil
  readable : ∀ artifact e, l.held artifact = some e → e.expiration.IsCivil
  live : ∀ artifact, unexpired l.now (s.contents.get? (storageContext, artifact))
    = (l.live? artifact).map recordOf

/-- The storage gives the live entry of an artifact. Since its records expire with their entries,
it never finds one that it would have to discard. -/
theorem IsStored.run_get (stored : IsStored s l) (lifetime : Span) (artifact : String) :
    ∃ metrics, ((ArtifactMap.stored StoredTexts.service lifetime).get artifact).run s
      = (.ok (l.live? artifact),
        ⟨s.now, metrics, (s.contents.read storageContext artifact s.now).2⟩) := by
  have text : (s.contents.read storageContext artifact s.now).1
      = (l.live? artifact).map fun e => e.text := by
    rw [fst_read, stored.now, stored.live, Option.map_map]
    rfl
  have reading : (ArtifactScope.call fun now contents =>
        StoredTexts.service.read storageContext artifact now contents).run s
      = (.ok (s.contents.read storageContext artifact s.now).1,
        ⟨s.now, s.metrics, (s.contents.read storageContext artifact s.now).2⟩) := rfl
  rw [ArtifactMap.stored, Task.run_then, reading, text, Task.proceed_ok]
  cases found : l.live? artifact with
  | none => exact ⟨_, rfl⟩
  | some e =>
    obtain ⟨held, live⟩ := liveAt_eq_some.1 found
    have read_back := ArtifactEntry.ofText_text (stored.readable artifact e held)
    have not_expired : e.isExpired s.now = false := by
      have after : ¬ e.expiration ≤ l.now := Instant.not_le.2 live
      simp [ArtifactEntry.isExpired, stored.now, after]
    simp only [Option.map_some, read_back, Task.run_then, Task.run_read, Task.proceed_ok,
      not_expired]
    exact ⟨_, rfl⟩

theorem IsStored.get {metrics : Metrics} (stored : IsStored s l) (artifact : String) :
    IsStored ⟨s.now, metrics, (s.contents.read storageContext artifact s.now).2⟩ l := by
  refine ⟨stored.now, stored.civil, stored.readable, fun other => ?_⟩
  rw [← stored.live other, stored.now]
  exact unexpired_read storageContext artifact _ l.now s.contents

/-- What the ledger lists can still be read after an update with what can be read. -/
theorem IsStored.readable_update (stored : IsStored s l) (artifact : String)
    {o : Option ArtifactEntry} (new : ∀ e, o = some e → e.expiration.IsCivil) :
    ∀ other e, Function.update l.held artifact o other = some e → e.expiration.IsCivil := by
  intro other e held
  rw [Function.update_apply] at held
  split at held
  · exact new e held
  · exact stored.readable other e held

theorem IsStored.put {metrics : Metrics} {e : ArtifactEntry} (stored : IsStored s l)
    (artifact : String) (civil : e.expiration.IsCivil) :
    IsStored ⟨s.now, metrics, s.contents.insert (storageContext, artifact) (recordOf e)⟩
      { l with held := Function.update l.held artifact (some e) } := by
  refine ⟨stored.now, stored.civil, stored.readable_update artifact ?_, fun other => ?_⟩
  · intro e' same
    rwa [← Option.some_inj.1 same]
  · rw [live?, liveAt_update, Keyed.get?_insert]
    by_cases same : other = artifact
    · simp only [same, if_true]
      exact unexpired_recordOf l.now (some e)
    · have apart : (storageContext, other) ≠ (storageContext, artifact) := by simpa using same
      rw [if_neg apart, if_neg same]
      exact stored.live other

theorem IsStored.remove {metrics : Metrics} (stored : IsStored s l) (artifact : String) :
    IsStored ⟨s.now, metrics, s.contents.erase (storageContext, artifact)⟩
      { l with held := Function.update l.held artifact none } := by
  refine ⟨stored.now, stored.civil, stored.readable_update artifact nofun, fun other => ?_⟩
  rw [live?, liveAt_update, Keyed.get?_erase]
  by_cases same : other = artifact
  · simp only [same, if_true]
    exact unexpired_recordOf l.now none
  · have apart : (storageContext, other) ≠ (storageContext, artifact) := by simpa using same
    rw [if_neg apart, if_neg same]
    exact stored.live other

/-- A record is created for an artifact unless the ledger has it as live. -/
theorem IsStored.create_eq (stored : IsStored s l) (artifact : String) (e : ArtifactEntry) :
    s.contents.create storageContext artifact e.text e.expiration s.now
      = if (l.live? artifact).isSome then (false, s.contents)
        else (true, s.contents.insert (storageContext, artifact) (recordOf e)) := by
  rw [ArtifactMap.create_eq, stored.now, stored.live, Option.isSome_map]
  rfl

/-- A message that is put in a storage is kept for a lifetime, unless its artifact is live. -/
theorem IsStored.run_put {expiration : Instant} (stored : IsStored s l)
    (named : checkArtifact artifact = .ok ()) (sum : l.now.add? lifetime = some expiration)
    (relyingParty issuer message : String) :
    ∃ metrics, ((ArtifactMap.stored StoredTexts.service lifetime).put artifact relyingParty issuer
        message).run s
      = if (l.live? artifact).isSome then
          (.failed (.duplicateArtifact artifact), ⟨s.now, metrics, s.contents⟩)
        else (.ok (), ⟨s.now, metrics, s.contents.insert (storageContext, artifact)
          (recordOf ⟨artifact, issuer, relyingParty, message, expiration⟩)⟩) := by
  have creating (e : ArtifactEntry) : (ArtifactScope.call fun now contents =>
        StoredTexts.service.create storageContext artifact e.text e.expiration now contents).run s
      = (.ok (s.contents.create storageContext artifact e.text e.expiration s.now).1,
        ⟨s.now, s.metrics,
          (s.contents.create storageContext artifact e.text e.expiration s.now).2⟩) := rfl
  have first := creating ⟨artifact, issuer, relyingParty, message, expiration⟩
  rw [stored.create_eq] at first
  dsimp only at first
  rw [← stored.now] at sum
  rw [ArtifactMap.stored, run_expiring, named, sum]
  dsimp only
  rw [Task.run_then, first]
  by_cases live : (l.live? artifact).isSome
  · simp only [if_pos live]
    exact ⟨_, rfl⟩
  · simp only [if_neg live]
    exact ⟨_, rfl⟩

/-- The map in a storage takes every step as the ledger does in which new messages for live
artifacts are refused. -/
theorem IsStored.step (op : ArtifactOp) (stored : IsStored s l) :
    ((ArtifactMap.stored StoredTexts.service lifetime).step op s).1
        = (l.step .isRefused lifetime op).1 ∧
      IsStored ((ArtifactMap.stored StoredTexts.service lifetime).step op s).2
        (l.step .isRefused lifetime op).2 := by
  cases op with
  | put artifact relyingParty issuer message =>
    cases named : checkArtifact artifact with
    | error failure =>
      rw [ArtifactMap.step, ArtifactLedger.step, ArtifactLedger.put, ArtifactMap.stored,
        run_expiring, named]
      exact ⟨rfl, stored⟩
    | ok =>
      cases sum : l.now.add? lifetime with
      | none =>
        rw [ArtifactMap.step, ArtifactLedger.step, ArtifactLedger.put, ArtifactMap.stored,
          run_expiring, named, stored.now, sum]
        exact ⟨rfl, stored⟩
      | some expiration =>
        obtain ⟨metrics, ran⟩ := stored.run_put named sum relyingParty issuer message
        rw [ArtifactMap.step, ArtifactLedger.step, ArtifactLedger.put, ran, named, sum]
        -- The storage refuses an artifact that is there.
        by_cases live : (l.live? artifact).isSome
        · rw [if_pos live]
          dsimp only
          rw [if_pos ⟨rfl, live⟩]
          exact ⟨rfl, stored.now, stored.civil, stored.readable, stored.live⟩
        · rw [if_neg live]
          dsimp only
          rw [if_neg fun both => live both.2]
          exact ⟨rfl, stored.put artifact (stored.civil.add? sum)⟩
  | get artifact =>
    obtain ⟨metrics, ran⟩ := stored.run_get lifetime artifact
    rw [ArtifactMap.step, ran]
    exact ⟨rfl, stored.get artifact⟩
  | contains artifact =>
    obtain ⟨metrics, ran⟩ := stored.run_get lifetime artifact
    rw [ArtifactMap.step, contains, Task.run_then, ran]
    exact ⟨rfl, stored.get artifact⟩
  | remove artifact => exact ⟨rfl, stored.remove artifact⟩
  | sweep => exact ⟨rfl, stored⟩
  | advance instant civil =>
    have forward : l.now ≤ l.now.latest instant := (Instant.latest_le_iff.1 (Instant.le_refl _)).1
    have later : (l.now.latest instant).IsCivil := by
      rw [Instant.latest]
      split
      · exact civil
      · exact stored.civil
    refine ⟨rfl, congrArg (·.latest instant) stored.now, later, stored.readable, fun other => ?_⟩
    have before := congrArg (unexpired (l.now.latest instant)) (stored.live other)
    rwa [unexpired_unexpired forward, unexpired_recordOf, live?, liveAt_liveAt forward] at before

end stored

/-! ## One specification -/

/-- A map that has not been used. -/
def unused {κ α : Type} (now : Instant) (metrics : Metrics) : ArtifactScope (Keyed κ α) :=
  ⟨now, metrics, .empty⟩

/-- What a map answers, from its start, is what a ledger answers, and no answer tells whether the
map has been swept. A message for a blank artifact is refused and changes nothing; nor does one
whose expiration would be out of range. -/
structure FollowsLedger (m : ArtifactMap ν) (reuse : Reuse) (lifetime : Span)
    (start : ArtifactScope ν) : Prop where
  answers : ∀ ops, ArtifactOp.answers m.step ops start
    = ArtifactOp.answers (ArtifactLedger.step reuse lifetime) ops (blank start.now)
  sweep : ∀ before rest, ArtifactOp.answers m.step (before ++ .sweep :: rest) start
    = ArtifactOp.answers m.step (before ++ rest) start
  blank : ∀ artifact relyingParty issuer message s, (Text.trim artifact).isEmpty = true →
    (m.put artifact relyingParty issuer message).run s
      = (.failed (.invalidArgument "artifact cannot be empty"), s)
  overflow : ∀ artifact relyingParty issuer message s, (Text.trim artifact).isEmpty = false →
    s.now.add? lifetime = none →
    (m.put artifact relyingParty issuer message).run s = (.overflow, s)

/-- It is enough that the answers are those of the ledger, and that messages are put only after the
common checks. -/
theorem followsLedger_of_answers {m : ArtifactMap ν} {reuse : Reuse} {start : ArtifactScope ν}
    (answers : ∀ ops, ArtifactOp.answers m.step ops start
      = ArtifactOp.answers (ArtifactLedger.step reuse lifetime) ops (blank start.now))
    (expiring : ∀ artifact relyingParty issuer message, ∃ next : Instant → Task _ Unit,
      m.put artifact relyingParty issuer message = do
        .ofExcept (checkArtifact artifact)
        let expiration ← ArtifactScope.expiration lifetime
        next expiration) :
    m.FollowsLedger reuse lifetime start where
  answers := answers
  sweep before rest := by
    rw [answers, answers, ArtifactOp.answers_append, ArtifactOp.answers_append]
    rfl
  blank artifact relyingParty issuer message s empty := by
    obtain ⟨next, same⟩ := expiring artifact relyingParty issuer message
    rw [same, run_expiring, checkArtifact, if_pos empty]
  overflow artifact relyingParty issuer message s visible beyond := by
    obtain ⟨next, same⟩ := expiring artifact relyingParty issuer message
    rw [same, run_expiring, checkArtifact, visible, beyond]
    rfl

/-- The answers of the map in memory are those of the ledger. -/
theorem answers_inMemory (start : Instant) (lifetime : Span) (metrics : Metrics)
    (ops : List ArtifactOp) :
    ArtifactOp.answers (inMemory lifetime).step ops (unused start metrics)
        = ArtifactOp.answers (ArtifactLedger.step .replaces lifetime) ops (blank start) ∧
      IsKeptInMemory (ArtifactOp.after (inMemory lifetime).step ops (unused start metrics))
        (ArtifactOp.after (ArtifactLedger.step .replaces lifetime) ops (blank start)) := by
  have empty : IsKeptInMemory (unused start metrics) (blank start) := ⟨rfl, fun _ => rfl⟩
  exact ArtifactOp.answers_eq (fun op _ _ kept => kept.step op) ops empty

/-- The answers of the map in a storage are those of the ledger. -/
theorem answers_stored {start : Instant} (civil : start.IsCivil) (lifetime : Span)
    (metrics : Metrics) (ops : List ArtifactOp) :
    ArtifactOp.answers (stored StoredTexts.service lifetime).step ops (unused start metrics)
        = ArtifactOp.answers (ArtifactLedger.step .isRefused lifetime) ops (blank start) ∧
      IsStored
        (ArtifactOp.after (stored StoredTexts.service lifetime).step ops (unused start metrics))
        (ArtifactOp.after (ArtifactLedger.step .isRefused lifetime) ops (blank start)) := by
  have empty : IsStored (unused start metrics) (blank start) := ⟨rfl, civil, nofun, fun _ => rfl⟩
  exact ArtifactOp.answers_eq (fun op _ _ stored => stored.step op) ops empty

/-- **Both artifact maps refine one specification.** The map in memory answers every run as the
ledger does in which a new message takes the place of an old one, the map in a storage as the ledger
in which it is refused; as long as no message is put under a live artifact, their answers agree.
A message for a live artifact takes the place of the entry in memory; in the storage it fails and
leaves the records as they are. -/
theorem maps_follow_ledger {start : Instant} (civil : start.IsCivil) (lifetime : Span)
    (metrics metrics' : Metrics) :
    (inMemory lifetime).FollowsLedger .replaces lifetime (unused start metrics) ∧
    (stored StoredTexts.service lifetime).FollowsLedger .isRefused lifetime
      (unused start metrics') ∧
    ∀ ops,
      (Fresh lifetime ops (blank start) →
        ArtifactOp.answers (inMemory lifetime).step ops (unused start metrics)
          = ArtifactOp.answers (stored StoredTexts.service lifetime).step ops
            (unused start metrics')) ∧
      ∀ artifact relyingParty issuer message expiration,
        (∀ s l, s = ArtifactOp.after (inMemory lifetime).step ops (unused start metrics) →
          l = ArtifactOp.after (ArtifactLedger.step .replaces lifetime) ops (blank start) →
          (l.live? artifact).isSome → l.now.add? lifetime = some expiration →
          ∃ later, ((inMemory lifetime).put artifact relyingParty issuer message).run s
            = (.ok (), ⟨s.now, later, s.contents.insert artifact
              ⟨artifact, issuer, relyingParty, message, expiration⟩⟩)) ∧
        ∀ s l,
          s = ArtifactOp.after (stored StoredTexts.service lifetime).step ops
            (unused start metrics') →
          l = ArtifactOp.after (ArtifactLedger.step .isRefused lifetime) ops (blank start) →
          (l.live? artifact).isSome → l.now.add? lifetime = some expiration →
          ∃ later, ((stored StoredTexts.service lifetime).put artifact relyingParty issuer
              message).run s
            = (.failed (.duplicateArtifact artifact), ⟨s.now, later, s.contents⟩) := by
  have memory := answers_inMemory start lifetime metrics
  have storage := answers_stored civil lifetime metrics'
  refine ⟨followsLedger_of_answers (fun ops => (memory ops).1) fun _ _ _ _ => ⟨_, rfl⟩,
    followsLedger_of_answers (fun ops => (storage ops).1) fun _ _ _ _ => ⟨_, rfl⟩,
    fun ops => ⟨fun fresh => ?_, fun artifact relyingParty issuer message expiration => ⟨?_, ?_⟩⟩⟩
  · rw [(memory ops).1, (storage ops).1]
    exact answers_of_fresh fresh
  · rintro s l rfl rfl live sum
    have named := ((isNamed_blank start).after ops).of_live live
    exact run_put_inMemory _ named ((memory ops).2.now ▸ sum) relyingParty issuer message
  · rintro s l rfl rfl live sum
    have named := ((isNamed_blank start).after ops).of_live live
    obtain ⟨later, ran⟩ := (storage ops).2.run_put named sum relyingParty issuer message
    exact ⟨later, by rw [ran, if_pos live]⟩

/-! ### An artifact that is used again -/

/-- The beginning of 2024. -/
def newYear : Instant := ⟨1704067200, 0⟩

/-- A minute later. -/
def minuteLater : Instant := ⟨1704067260, 0⟩

theorem newYear_isCivil : newYear.IsCivil := ⟨by decide, by decide, by decide, by decide⟩

theorem minuteLater_isCivil : minuteLater.IsCivil := ⟨by decide, by decide, by decide, by decide⟩

/-- An artifact that is live for a minute, and is used again at the instant at which it expires. -/
def reuse : List ArtifactOp :=
  [.put "AR" "sp" "idp" "first", .get "AR", .advance minuteLater minuteLater_isCivil,
    .contains "AR", .put "AR" "sp" "idp" "second", .sweep, .get "AR", .remove "AR", .get "AR"]

/-- What is answered. -/
def reuseAnswers : List ArtifactAnswer :=
  [.done (.ok ()), .found (.ok (some ⟨"AR", "idp", "sp", "first", ⟨1704067260, 0⟩⟩)),
    .told (.ok false), .done (.ok ()),
    .found (.ok (some ⟨"AR", "idp", "sp", "second", ⟨1704067320, 0⟩⟩)), .done (.ok ()),
    .found (.ok none)]

/-- One message is put, and is live. -/
def onePut : List ArtifactOp := [.put "AR" "sp" "idp" "first"]

theorem answers_reuse :
    newYear.IsCivil ∧ Fresh (.ofSeconds 60) reuse (blank newYear) ∧
      ArtifactOp.answers (inMemory (.ofSeconds 60)).step reuse (unused newYear .empty)
        = reuseAnswers ∧
      ArtifactOp.answers (stored StoredTexts.service (.ofSeconds 60)).step reuse
        (unused newYear .empty) = reuseAnswers ∧
      (((inMemory (.ofSeconds 60)).put "AR" "sp" "idp" "second").run
        (ArtifactOp.after (inMemory (.ofSeconds 60)).step onePut (unused newYear .empty))).1
        = .ok () ∧
      (((stored StoredTexts.service (.ofSeconds 60)).put "AR" "sp" "idp" "second").run
        (ArtifactOp.after (stored StoredTexts.service (.ofSeconds 60)).step onePut
          (unused newYear .empty))).1 = .failed (.duplicateArtifact "AR") := by
  have fresh : Fresh (.ofSeconds 60) reuse (blank newYear) := by decide
  have listed : ArtifactOp.answers (ArtifactLedger.step .replaces (.ofSeconds 60)) reuse
      (blank newYear) = reuseAnswers := by decide
  obtain ⟨memory, -, agree⟩ := maps_follow_ledger newYear_isCivil (.ofSeconds 60) .empty .empty
  have answered := (memory.answers reuse).trans listed
  obtain ⟨replaced, refused⟩ := (agree onePut).2 "AR" "sp" "idp" "second" minuteLater
  obtain ⟨later, put⟩ := replaced _ _ rfl rfl (by decide) (by decide)
  obtain ⟨later', put'⟩ := refused _ _ rfl rfl (by decide) (by decide)
  exact ⟨newYear_isCivil, fresh, answered, ((agree reuse).1 fresh).symm.trans answered,
    by rw [put], by rw [put']⟩

end Federation.ArtifactMap
