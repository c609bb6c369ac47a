/-
# Artifact maps and their ledger

What an artifact map answers can be told from a ledger. It lists under every artifact the entry of
the message that was put last and has not been removed since, whether or not the entry is still
live. Expired entries are never struck out: an artifact map does that when it comes upon them, each
at other occasions, and no answer tells when.

Ledgers differ in one thing only. A new message for an artifact that is live takes the place of the
old one, or it is refused.

## Main definitions

- `ArtifactOp`: what is asked of an artifact map, and the passing of time.
- `ArtifactLedger`: what is known of the artifacts that were put.
- `ArtifactLedger.Fresh`: a run in which no message is put under an artifact that is live.

## Main results

- `ArtifactOp.answers_eq`: what takes related steps gives equal answers along a run.
- `ArtifactLedger.answers_of_fresh`: as long as no message is put under a live artifact, both
  ledgers answer alike.
-/

import Mathlib.Logic.Function.Basic
import Federation.Artifact.Entry
import Federation.Outcome
import Federation.Proofs.Time.Text

namespace Federation

open Federation.Time

/-- What is asked of an artifact map, and the passing of time. -/
inductive ArtifactOp where
  | put (artifact relyingParty issuer message : String)
  | get (artifact : String)
  | contains (artifact : String)
  | remove (artifact : String)
  | sweep
  /-- The clock goes on to an instant, unless it is there already or beyond. -/
  | advance (instant : Instant) (civil : instant.IsCivil)

/-- What is answered: whether it was done, what was found, or whether there is anything. -/
inductive ArtifactAnswer where
  | done (outcome : Outcome Unit)
  | found (outcome : Outcome (Option ArtifactEntry))
  | told (outcome : Outcome Bool)
deriving DecidableEq

namespace ArtifactOp

/-- The artifact under which a message is put. -/
def used? : ArtifactOp → Option String
  | put artifact _ _ _ => some artifact
  | _ => none

variable {τ υ : Type} {step : ArtifactOp → τ → Option ArtifactAnswer × τ}
  {step' : ArtifactOp → υ → Option ArtifactAnswer × υ} {t : τ} {u : υ}

/-- The answers along a run. Sweeps and the passing of time are not answered. -/
def answers (step : ArtifactOp → τ → Option ArtifactAnswer × τ) :
    List ArtifactOp → τ → List ArtifactAnswer
  | [], _ => []
  | op :: rest, t => (step op t).1.toList ++ answers step rest (step op t).2

/-- The state after a run. -/
def after (step : ArtifactOp → τ → Option ArtifactAnswer × τ) (ops : List ArtifactOp) (t : τ) : τ :=
  ops.foldl (fun t op => (step op t).2) t

theorem answers_append (before rest : List ArtifactOp) (t : τ) :
    answers step (before ++ rest) t
      = answers step before t ++ answers step rest (after step before t) := by
  induction before generalizing t with
  | nil => rfl
  | cons op before ih =>
    rw [List.cons_append, answers, ih, answers, List.append_assoc, after, after, List.foldl_cons]

/-- Steps that answer alike and keep states related do so throughout a run. -/
theorem answers_eq {Related : τ → υ → Prop}
    (each : ∀ op t u, Related t u →
      (step op t).1 = (step' op u).1 ∧ Related (step op t).2 (step' op u).2)
    (ops : List ArtifactOp) (related : Related t u) :
    answers step ops t = answers step' ops u ∧ Related (after step ops t) (after step' ops u) := by
  induction ops generalizing t u with
  | nil => exact ⟨rfl, related⟩
  | cons op rest ih =>
    obtain ⟨same, later⟩ := each op t u related
    obtain ⟨others, last⟩ := ih later
    exact ⟨by rw [answers, answers, same, others], last⟩

end ArtifactOp

/-! ## The ledger -/

/-- The present instant, and the entry of the message that was put last under an artifact and has
not been removed since. -/
structure ArtifactLedger where
  now : Instant
  held : String → Option ArtifactEntry

/-- What becomes of a new message for an artifact that is live. -/
inductive Reuse where
  /-- It takes the place of the old one. -/
  | replaces
  /-- It is refused. -/
  | isRefused
deriving DecidableEq

namespace ArtifactLedger

/-- A ledger without entries. -/
def blank (now : Instant) : ArtifactLedger := ⟨now, fun _ => none⟩

/-- An entry that is live at an instant. -/
def liveAt (now : Instant) (e : Option ArtifactEntry) : Option ArtifactEntry :=
  e.filter fun e => now < e.expiration

/-- The live entry of an artifact. -/
def live? (l : ArtifactLedger) (artifact : String) : Option ArtifactEntry :=
  liveAt l.now (l.held artifact)

/-- Enters a message, which expires a lifetime from now. -/
def put (reuse : Reuse) (lifetime : Span) (artifact relyingParty issuer message : String)
    (l : ArtifactLedger) : Outcome Unit × ArtifactLedger :=
  match checkArtifact artifact, l.now.add? lifetime with
  | .error failure, _ => (.failed failure, l)
  | .ok (), none => (.overflow, l)
  | .ok (), some expiration =>
    if reuse = .isRefused ∧ (l.live? artifact).isSome then (.failed (.duplicateArtifact artifact), l)
    else
      let e : ArtifactEntry := ⟨artifact, issuer, relyingParty, message, expiration⟩
      (.ok (), { l with held := Function.update l.held artifact (some e) })

/-- What is answered by the ledger, and what becomes of it. -/
def step (reuse : Reuse) (lifetime : Span) :
    ArtifactOp → ArtifactLedger → Option ArtifactAnswer × ArtifactLedger
  | .put artifact relyingParty issuer message, l =>
    let (outcome, l) := l.put reuse lifetime artifact relyingParty issuer message
    (some (.done outcome), l)
  | .get artifact, l => (some (.found (.ok (l.live? artifact))), l)
  | .contains artifact, l => (some (.told (.ok (l.live? artifact).isSome)), l)
  | .remove artifact, l =>
    (some (.done (.ok ())), { l with held := Function.update l.held artifact none })
  | .sweep, l => (none, l)
  | .advance instant _, l => (none, { l with now := l.now.latest instant })

/-- No message is put under an artifact that is live. -/
def Fresh (lifetime : Span) : List ArtifactOp → ArtifactLedger → Prop
  | [], _ => True
  | op :: rest, l =>
    (∀ artifact ∈ op.used?, l.live? artifact = none) ∧
      Fresh lifetime rest (step .replaces lifetime op l).2

instance decidableFresh (lifetime : Span) :
    (ops : List ArtifactOp) → (l : ArtifactLedger) → Decidable (Fresh lifetime ops l)
  | [], _ => .isTrue trivial
  | op :: rest, l =>
    have := decidableFresh lifetime rest (step .replaces lifetime op l).2
    inferInstanceAs (Decidable (_ ∧ _))

variable {lifetime : Span} {l : ArtifactLedger} {now later : Instant} {e : ArtifactEntry}
  {o : Option ArtifactEntry}

theorem liveAt_eq_some : liveAt now o = some e ↔ o = some e ∧ now < e.expiration := by
  simp [liveAt, Option.filter_eq_some_iff]

theorem liveAt_some_of_live (live : now < e.expiration) : liveAt now (some e) = some e :=
  liveAt_eq_some.2 ⟨rfl, live⟩

theorem liveAt_some_of_expired (expired : e.expiration ≤ now) : liveAt now (some e) = none := by
  have not_live : ¬ now < e.expiration := Instant.not_lt.2 expired
  simp [liveAt, not_live]

/-- What is live among updated entries. -/
theorem liveAt_update (now : Instant) (held : String → Option ArtifactEntry)
    (o : Option ArtifactEntry) (artifact other : String) :
    liveAt now (Function.update held artifact o other)
      = if other = artifact then liveAt now o else liveAt now (held other) := by
  rw [Function.update_apply]
  exact apply_ite (liveAt now) _ _ _

/-- What is live later is so now. -/
theorem liveAt_liveAt (forward : now ≤ later) : liveAt later (liveAt now o) = liveAt later o := by
  rw [liveAt, liveAt, liveAt, Option.filter_filter]
  refine congrArg (fun test => o.filter test) (funext fun e => ?_)
  have sooner : later < e.expiration → now < e.expiration := Instant.lt_of_le_of_lt forward
  simpa using sooner

/-- No artifact of a ledger is blank. -/
def IsNamed (l : ArtifactLedger) : Prop :=
  ∀ artifact e, l.held artifact = some e → checkArtifact artifact = .ok ()

theorem isNamed_blank (now : Instant) : (blank now).IsNamed := nofun

theorem IsNamed.update {artifact : String} (named : l.IsNamed)
    (new : ∀ e, o = some e → checkArtifact artifact = .ok ()) :
    IsNamed { l with held := Function.update l.held artifact o } := by
  intro other e held
  dsimp only at held
  rw [Function.update_apply] at held
  split at held
  · rename_i same
    rw [same]
    exact new e held
  · exact named other e held

theorem IsNamed.step {reuse : Reuse} (named : l.IsNamed) (op : ArtifactOp) :
    (step reuse lifetime op l).2.IsNamed := by
  cases op with
  | put artifact relyingParty issuer message =>
    rw [ArtifactLedger.step, put]
    cases visible : checkArtifact artifact with
    | error failure => exact named
    | ok =>
      cases l.now.add? lifetime with
      | none => exact named
      | some expiration =>
        dsimp only
        split
        · exact named
        · exact named.update fun _ _ => visible
  | get artifact => exact named
  | contains artifact => exact named
  | remove artifact => exact named.update nofun
  | sweep => exact named
  | advance instant civil => exact named

theorem IsNamed.after {reuse : Reuse} (named : l.IsNamed) (ops : List ArtifactOp) :
    (ArtifactOp.after (ArtifactLedger.step reuse lifetime) ops l).IsNamed := by
  induction ops generalizing l with
  | nil => exact named
  | cons op rest ih => exact ih (named.step op)

/-- A live artifact is not blank. -/
theorem IsNamed.of_live {artifact : String} (named : l.IsNamed)
    (live : (l.live? artifact).isSome = true) : checkArtifact artifact = .ok () := by
  obtain ⟨e, found⟩ := Option.isSome_iff_exists.1 live
  exact named artifact e (liveAt_eq_some.1 found).1

/-- While no message is put under a live artifact, it does not matter what would become of it. -/
theorem answers_of_fresh {ops : List ArtifactOp} (fresh : Fresh lifetime ops l) :
    ArtifactOp.answers (step .replaces lifetime) ops l
      = ArtifactOp.answers (step .isRefused lifetime) ops l := by
  induction ops generalizing l with
  | nil => rw [ArtifactOp.answers, ArtifactOp.answers]
  | cons op rest ih =>
    obtain ⟨dead, fresh⟩ := fresh
    have same : step .isRefused lifetime op l = step .replaces lifetime op l := by
      cases op with
      | put artifact relyingParty issuer message =>
        simp [step, put, dead artifact rfl]
      | get artifact => rfl
      | contains artifact => rfl
      | remove artifact => rfl
      | sweep => rfl
      | advance instant civil => rfl
    rw [ArtifactOp.answers, ArtifactOp.answers, ih fresh, same]

end ArtifactLedger

end Federation
