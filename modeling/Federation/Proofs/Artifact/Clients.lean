/-
# Clients of one storage

Several clients may use one map that keeps its artifacts in a storage. Each call of a client is
carried out update by update: the storage is read, written or told to delete at once, but between
two such updates other clients have their turns, and the clock goes on.

What is left of a call takes one of a few forms. Which of them there may be is a matter of what the
call has come upon so far; an *allowance* says it. One update of a call leads to another form, and
does one thing to the storage at most.

## Main definitions

- `ArtifactCall`: the calls of a client.
- `Allowance`, `Left`: the forms that may be left of a call.
- `Effect`: what one update of a call does.

## Main results

- `Left.oneStep`: an update of a call that takes one of the forms.
-/

import Federation.Proofs.Artifact.Maps
import Federation.Proofs.Task.Interleaving

namespace Federation.ArtifactMap

open Federation.Time

/-! ## Calls -/

/-- The calls of a client. -/
inductive ArtifactCall where
  | get (artifact : String)
  | contains (artifact : String)
  | put (artifact relyingParty issuer message : String)
  | remove (artifact : String)
deriving DecidableEq

/-- What a client is told. -/
inductive ArtifactReply where
  | found (entry : Option ArtifactEntry)
  | told (isThere : Bool)
  | done
deriving DecidableEq

/-- The map in a storage in memory. -/
abbrev shared (lifetime : Span) : ArtifactMap StoredTexts := stored StoredTexts.service lifetime

/-- The scope of the map. -/
abbrev Scope := ArtifactScope StoredTexts

namespace ArtifactCall

/-- What is done for a call. -/
def body (lifetime : Span) : ArtifactCall → Task Scope ArtifactReply
  | get artifact => do return .found (← (shared lifetime).get artifact)
  | contains artifact => do return .told (← (shared lifetime).contains artifact)
  | put artifact relyingParty issuer message => do
    (shared lifetime).put artifact relyingParty issuer message
    return .done
  | remove artifact => do
    (shared lifetime).remove artifact
    return .done

/-- The call asks what is there under an artifact. -/
inductive Looks : ArtifactCall → String → Prop where
  | get (artifact : String) : Looks (.get artifact) artifact
  | contains (artifact : String) : Looks (.contains artifact) artifact

/-- What the client is told of the live entry. -/
def answer : ArtifactCall → Option ArtifactEntry → ArtifactReply
  | contains _, o => .told o.isSome
  | _, o => .found o

variable {lifetime : Span} {c : ArtifactCall} {artifact : String}

theorem Looks.body_eq (looks : c.Looks artifact) :
    c.body lifetime = do return c.answer (← (shared lifetime).get artifact) := by
  cases looks with
  | get => rfl
  | contains => exact Task.bind_assoc _ _ _

end ArtifactCall

open ArtifactCall

/-! ## What is left of a call -/

variable {lifetime : Span} {c : ArtifactCall} {artifact other : String} {e : ArtifactEntry}
  {s s' : Scope} {t t' : Task Scope ArtifactReply} {outcome : Outcome ArtifactReply}

/-- An expired entry is about to be taken out. -/
def dropping (artifact : String) : Task Scope (Option ArtifactEntry) := do
  discard StoredTexts.service artifact
  ArtifactScope.count "get" "expired"
  return none

/-- An entry has been read, and it is to be told whether it is live. -/
def considering (artifact : String) (e : ArtifactEntry) : Task Scope (Option ArtifactEntry) := do
  let now ← Task.read (·.now)
  if e.isExpired now then dropping artifact
  else do
    ArtifactScope.count "get" "hit"
    return some e

/-- An entry is about to be put. -/
def creating (artifact : String) (e : ArtifactEntry) : Task Scope Unit := do
  let created ← ArtifactScope.call fun now contents =>
    StoredTexts.service.create storageContext artifact e.text e.expiration now contents
  if created then ArtifactScope.count "put" "success"
  else do
    ArtifactScope.count "put" "duplicate"
    .fail (.duplicateArtifact artifact)

/-- What is left changes nothing in the storage and comes to an outcome. -/
def Quiet (outcome : Outcome ArtifactReply) : Task Scope ArtifactReply → Prop
  | .ended result => result = outcome
  | .act update next =>
    ∀ s, (update s).now = s.now ∧ (update s).contents = s.contents ∧ Quiet outcome (next s)
  | .pause next => Quiet outcome next
  | .await _ _ => False

/-- What calls may have come upon. -/
structure Allowance where
  /-- The artifacts that may be removed. -/
  removed : String → Prop
  /-- The entries that may have been read. -/
  considered : String → ArtifactEntry → Prop
  /-- The artifacts of which an entry may have been found to be expired. -/
  dropped : String → Prop
  /-- The entries that may be about to be put. -/
  created : ArtifactCall → ArtifactEntry → Prop
  /-- What may have come of a call. -/
  ended : ArtifactCall → Outcome ArtifactReply → Prop

/-- What may be left of a call that has come upon nothing but what is allowed. -/
inductive Left (lifetime : Span) (A : Allowance) : ArtifactCall → Task Scope ArtifactReply → Prop
    where
  | fresh {c : ArtifactCall} (may : ∀ artifact, c = .remove artifact → A.removed artifact) :
      Left lifetime A c (c.body lifetime)
  | considering {c : ArtifactCall} {artifact : String} {e : ArtifactEntry}
      (looks : c.Looks artifact) (may : A.considered artifact e) :
      Left lifetime A c (do return c.answer (← considering artifact e))
  | dropping {c : ArtifactCall} {artifact : String} (looks : c.Looks artifact)
      (may : A.dropped artifact) :
      Left lifetime A c (do return c.answer (← dropping artifact))
  | creating {artifact relyingParty issuer message : String} {e : ArtifactEntry}
      (may : A.created (.put artifact relyingParty issuer message) e) :
      Left lifetime A (.put artifact relyingParty issuer message) (do
        creating artifact e
        return .done)
  | through {c : ArtifactCall} {t : Task Scope ArtifactReply} {outcome : Outcome ArtifactReply}
      (quiet : Quiet outcome t) (may : A.ended c outcome) : Left lifetime A c t

/-- What one update of a call does to the storage at an instant, and what is left. -/
inductive Effect (lifetime : Span) (A : Allowance) (c : ArtifactCall) (now : Instant)
    (records : StoredTexts) : Task Scope ArtifactReply → StoredTexts → Prop where
  | still {t : Task Scope ArtifactReply} (left : Left lifetime A c t) :
      Effect lifetime A c now records t records
  /-- A record is dropped that has expired. -/
  | lapsed {t : Task Scope ArtifactReply} {artifact : String} {record : StoredText}
      (left : Left lifetime A c t) (found : records.get? (storageContext, artifact) = some record)
      (expired : record.expiration ≤ now) :
      Effect lifetime A c now records t (records.erase (storageContext, artifact))
  /-- A record is taken out because what had been read before was expired. -/
  | dropped {t : Task Scope ArtifactReply} {artifact : String} (left : Left lifetime A c t)
      (may : A.dropped artifact) :
      Effect lifetime A c now records t (records.erase (storageContext, artifact))
  /-- An artifact is removed. -/
  | removed {t : Task Scope ArtifactReply} {artifact : String} (left : Left lifetime A c t)
      (may : A.removed artifact) :
      Effect lifetime A c now records t (records.erase (storageContext, artifact))
  /-- A message is put, and the call will be answered so. -/
  | stored {t : Task Scope ArtifactReply} {artifact relyingParty issuer message : String}
      {e : ArtifactEntry} (asked : c = .put artifact relyingParty issuer message)
      (may : A.created c e)
      (free : unexpired now (records.get? (storageContext, artifact)) = none)
      (quiet : Quiet (.ok .done) t) :
      Effect lifetime A c now records t
        (records.insert (storageContext, artifact) (recordOf e))

/-- Every artifact that is stored was written from an entry that is read back from it. -/
def IsLegible (records : StoredTexts) : Prop :=
  ∀ artifact record, records.get? (storageContext, artifact) = some record →
    ∃ e, e.expiration.IsCivil ∧ record = recordOf e

/-- What calls come upon in a state is allowed. -/
structure Allowance.Admits (A : Allowance) (lifetime : Span) (s : Scope) : Prop where
  miss : ∀ c artifact, c.Looks artifact →
    unexpired s.now (s.contents.get? (storageContext, artifact)) = none →
    A.ended c (.ok (c.answer none))
  hit : ∀ artifact e, e.expiration.IsCivil →
    unexpired s.now (s.contents.get? (storageContext, artifact)) = some (recordOf e) →
    A.considered artifact e
  live : ∀ c artifact e, c.Looks artifact → A.considered artifact e → s.now < e.expiration →
    A.ended c (.ok (c.answer (some e)))
  expired : ∀ artifact e, A.considered artifact e → e.expiration ≤ s.now → A.dropped artifact
  dropped : ∀ c artifact, c.Looks artifact → A.dropped artifact → A.ended c (.ok (c.answer none))
  created : ∀ artifact relyingParty issuer message expiration,
    s.now.add? lifetime = some expiration →
    A.created (.put artifact relyingParty issuer message)
      ⟨artifact, issuer, relyingParty, message, expiration⟩
  removed : ∀ artifact, A.ended (.remove artifact) (.ok .done)
  failed : ∀ artifact relyingParty issuer message failure,
    A.ended (.put artifact relyingParty issuer message) (.failed failure)
  overflow : ∀ artifact relyingParty issuer message,
    A.ended (.put artifact relyingParty issuer message) .overflow

variable {A A' : Allowance}

/-- What is allowed where less is allowed is allowed where more is. -/
theorem Left.mono (left : Left lifetime A c t) (removed : ∀ a, A.removed a → A'.removed a)
    (considered : ∀ a e, A.considered a e → A'.considered a e)
    (dropped : ∀ a, A.dropped a → A'.dropped a)
    (created : ∀ c e, A.created c e → A'.created c e)
    (ended : ∀ c outcome, A.ended c outcome → A'.ended c outcome) : Left lifetime A' c t := by
  cases left with
  | fresh may => exact .fresh fun artifact same => removed artifact (may artifact same)
  | considering looks may => exact .considering looks (considered _ _ may)
  | dropping looks may => exact .dropping looks (dropped _ may)
  | creating may => exact .creating (created _ _ may)
  | through quiet may => exact .through quiet (ended _ _ may)

theorem quiet_count (operation outcome : String) (reply : ArtifactReply) :
    Quiet (.ok reply) (do
      ArtifactScope.count operation outcome
      return reply) :=
  fun _ => ⟨rfl, rfl, rfl⟩

/-- An update of what is quiet. -/
theorem Quiet.oneStep (quiet : Quiet outcome t) (s : Scope) :
    (t.oneStep s).2.now = s.now ∧ (t.oneStep s).2.contents = s.contents ∧
      Quiet outcome (t.oneStep s).1 := by
  cases t with
  | ended result => exact ⟨rfl, rfl, quiet⟩
  | act update next => exact quiet s
  | pause next => exact ⟨rfl, rfl, quiet⟩
  | await ready next => exact quiet.elim

/-! ## One update -/

/-- What is done about what has been read. -/
def heeding (artifact : String) : Option String → Task Scope (Option ArtifactEntry)
  | none => do
    ArtifactScope.count "get" "miss"
    return none
  | some text =>
    match ArtifactEntry.ofText text with
    | .error _ => do
      discard StoredTexts.service artifact
      return none
    | .ok e => considering artifact e

theorem get_eq (lifetime : Span) (artifact : String) :
    (shared lifetime).get artifact
      = .act (fun s => ⟨s.now, s.metrics, (s.contents.read storageContext artifact s.now).2⟩)
          fun s => heeding artifact (s.contents.read storageContext artifact s.now).1 := rfl

/-- A message for an artifact that is not blank is put once its expiration is known. -/
theorem body_put (named : checkArtifact artifact = .ok ()) (lifetime : Span)
    (relyingParty issuer message : String) :
    (ArtifactCall.put artifact relyingParty issuer message).body lifetime
      = .act id fun s =>
        match s.now.add? lifetime with
        | none => .ended .overflow
        | some expiration => do
          creating artifact ⟨artifact, issuer, relyingParty, message, expiration⟩
          return .done := by
  rw [ArtifactCall.body, shared, stored]
  dsimp only
  rw [named]
  refine congrArg (Task.act id) (funext fun s => ?_)
  show Task.bind (Task.bind (.ofOutcome (.ofOption (s.now.add? lifetime))) _) _ = _
  cases s.now.add? lifetime <;> rfl

/-- Looking for an artifact: an expired record is dropped at once, and a live one is considered. -/
theorem Effect.looking (looks : c.Looks artifact) (admits : A.Admits lifetime s)
    (legible : IsLegible s.contents) :
    Effect lifetime A c s.now s.contents
      (do return c.answer (← heeding artifact
        (s.contents.read storageContext artifact s.now).1))
      (s.contents.read storageContext artifact s.now).2 := by
  have text := fst_read storageContext artifact s.now s.contents
  cases found : s.contents.get? (storageContext, artifact) with
  | none =>
    -- Nothing is stored, so that there is nothing to drop either.
    have nothing : unexpired s.now (s.contents.get? (storageContext, artifact)) = none := by
      rw [found]
      rfl
    have same : s.contents.read storageContext artifact s.now = (none, s.contents) := by
      rw [StoredTexts.read, found]
    rw [same]
    exact .still (.through (quiet_count _ _ _) (admits.miss c artifact looks nothing))
  | some record =>
    obtain ⟨e, civil, rfl⟩ := legible artifact record found
    by_cases expired : e.expiration ≤ s.now
    · -- The record has expired, and reading it is what drops it.
      have not_live : ¬ s.now < e.expiration := Instant.not_lt.2 expired
      have nothing : unexpired s.now (s.contents.get? (storageContext, artifact)) = none := by
        simp [found, unexpired, Option.filter_some, recordOf, not_live]
      have dropped : s.contents.read storageContext artifact s.now
          = (none, s.contents.erase (storageContext, artifact)) := by
        rw [StoredTexts.read, found]
        exact if_pos expired
      rw [dropped]
      exact .lapsed (.through (quiet_count _ _ _) (admits.miss c artifact looks nothing)) found expired
    · -- The record is live now. Whether it is when it is considered is another matter.
      have live := Instant.not_le.1 expired
      have there : unexpired s.now (s.contents.get? (storageContext, artifact))
          = some (recordOf e) := by
        simp [found, unexpired, Option.filter_some, recordOf, live]
      have same : s.contents.read storageContext artifact s.now = (some e.text, s.contents) := by
        rw [StoredTexts.read, found]
        exact if_neg expired
      rw [same, heeding, ArtifactEntry.ofText_text civil]
      exact .still (.considering looks (admits.hit artifact e civil there))

/-- **One update of a call.** It leads to another form that may be left of the call, and has one
effect on the storage at most. -/
theorem Left.oneStep (left : Left lifetime A c t) (admits : A.Admits lifetime s)
    (legible : IsLegible s.contents) :
    (t.oneStep s).2.now = s.now ∧
      Effect lifetime A c s.now s.contents (t.oneStep s).1 (t.oneStep s).2.contents := by
  cases left with
  | fresh may =>
    cases c with
    | get artifact => exact ⟨rfl, .looking (.get artifact) admits legible⟩
    | contains artifact =>
      rw [(Looks.contains artifact).body_eq]
      exact ⟨rfl, .looking (.contains artifact) admits legible⟩
    | put artifact relyingParty issuer message =>
      cases named : checkArtifact artifact with
      | error failure =>
        have refused : (ArtifactCall.put artifact relyingParty issuer message).body lifetime
            = .ended (.failed failure) := by
          rw [ArtifactCall.body, shared, stored]
          dsimp only
          rw [named]
          rfl
        rw [refused]
        exact ⟨rfl, .still (.through rfl (admits.failed _ _ _ _ failure))⟩
      | ok =>
        -- The expiration is settled by the clock at this update, the entry is put at a later one.
        rw [body_put named]
        refine ⟨rfl, .still ?_⟩
        show Left lifetime A _ (match s.now.add? lifetime with
          | none => .ended .overflow
          | some expiration => do
            ArtifactMap.creating artifact ⟨artifact, issuer, relyingParty, message, expiration⟩
            return .done)
        cases sum : s.now.add? lifetime with
        | none => exact .through rfl (admits.overflow _ _ _ _)
        | some expiration => exact .creating (admits.created _ _ _ _ expiration sum)
    | remove artifact =>
      have left : Left lifetime A (.remove artifact) (do
          ArtifactScope.count "remove" "success"
          return .done) := .through (quiet_count _ _ _) (admits.removed artifact)
      exact ⟨rfl, .removed left (may artifact rfl)⟩
  | considering looks may =>
    rename_i artifact e
    -- The clock may have gone on since the entry was read.
    refine ⟨rfl, .still ?_⟩
    show Left lifetime A c (Task.bind (if e.isExpired s.now then ArtifactMap.dropping artifact else _)
      fun o => return c.answer o)
    by_cases expired : e.expiration ≤ s.now
    · rw [if_pos (by simpa [ArtifactEntry.isExpired] using expired)]
      exact .dropping looks (admits.expired artifact e may expired)
    · rw [if_neg (by simpa [ArtifactEntry.isExpired] using expired)]
      have live := Instant.not_le.1 expired
      exact .through (quiet_count _ _ _) (admits.live c artifact e looks may live)
  | dropping looks may =>
    have left : Left lifetime A c (do
        ArtifactScope.count "get" "expired"
        return c.answer none) := .through (quiet_count _ _ _) (admits.dropped c _ looks may)
    exact ⟨rfl, .dropped left may⟩
  | creating may =>
    rename_i artifact relyingParty issuer message e
    refine ⟨rfl, ?_⟩
    show Effect lifetime A _ s.now s.contents
      (Task.bind (if (s.contents.create storageContext artifact e.text e.expiration s.now).1 then _
        else _) _)
      (s.contents.create storageContext artifact e.text e.expiration s.now).2
    rw [create_eq]
    -- Another client may have put the artifact in between, and the storage takes nothing then.
    by_cases live : (unexpired s.now (s.contents.get? (storageContext, artifact))).isSome
    · rw [if_pos live]
      exact .still (.through (fun _ => ⟨rfl, rfl, rfl⟩) (admits.failed _ _ _ _ _))
    · rw [if_neg live]
      exact .stored rfl may (by simpa using live) (quiet_count _ _ _)
  | through quiet may =>
    obtain ⟨now, contents, quiet⟩ := quiet.oneStep s
    rw [contents]
    exact ⟨now, .still (.through quiet may)⟩

end Federation.ArtifactMap
