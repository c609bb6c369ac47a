/-
# Artifacts that are lost

A message that is put under an artifact should be found there until it expires or is removed.
Among clients of one storage it may be lost: looking for an artifact reads the storage, decides
whether what was read is expired, and only then tells the storage to delete the artifact. If the
artifact was used again in between, the new message is deleted.

## Main definitions

- `IsKept`: whoever looks for an artifact from now on finds an entry until it expires.
- `Endangers`: a call under way has read an older entry, or is about to delete the artifact.

## Main results

- `kept_iff_unendangered`: an entry is kept if and only if no call under way endangers it.
- `reused_artifact_is_lost`: two clients lose a message.
-/

import Federation.Proofs.Artifact.Clients

namespace Federation.ArtifactMap

open Federation.Time ArtifactCall

/-- The clients' calls under way, and the scope of the map. -/
abbrev Clients := List (ArtifactCall × Task Scope ArtifactReply) × Scope

/-- The clock goes forward, and whoever reads the metrics or counts there is no matter. -/
def onward : Drift Scope where
  rel s s' := s.now ≤ s'.now ∧ (s.now.IsCivil → s'.now.IsCivil) ∧ s'.contents = s.contents
  refl _ := ⟨Instant.le_refl _, fun civil => civil, rfl⟩
  trans first second :=
    ⟨Instant.le_trans first.1 second.1, fun civil => second.2.1 (first.2.1 civil),
      second.2.2.trans first.2.2⟩

/-- What may happen among clients, of which every update is a step of its own. -/
abbrev Later (lifetime : Span) (may : ArtifactCall → Prop) : Clients → Clients → Prop :=
  Relation.ReflTransGen (Task.Interleaves Task.oneStep onward (body lifetime) may)

/-- An entry is stored under an artifact. -/
def Holds (s : Scope) (artifact : String) (e : ArtifactEntry) : Prop :=
  s.contents.get? (storageContext, artifact) = some (recordOf e)

/-- An entry that is put for a call, which has read the clock before. -/
inductive Wrote (lifetime : Span) (now : Instant) : ArtifactCall → ArtifactEntry → Prop where
  | intro {artifact relyingParty issuer message : String} {reading expiration : Instant}
      (before : reading ≤ now) (sum : reading.add? lifetime = some expiration) :
      Wrote lifetime now (.put artifact relyingParty issuer message)
        ⟨artifact, issuer, relyingParty, message, expiration⟩

variable {lifetime : Span} {may : ArtifactCall → Prop} {artifact other : String}
  {e e' : ArtifactEntry} {c : ArtifactCall} {t : Task Scope ArtifactReply} {s : Scope}
  {now later : Instant} {start before after : Clients} {records : StoredTexts}

theorem Wrote.mono (wrote : Wrote lifetime now c e) (forward : now ≤ later) :
    Wrote lifetime later c e := by
  cases wrote with
  | intro before sum => exact .intro (Instant.le_trans before forward) sum

theorem ArtifactCall.Looks.artifact_eq (looks : c.Looks artifact) (looks' : c.Looks other) :
    artifact = other := by
  cases looks <;> cases looks' <;> rfl

/-- Entries that can be read are told apart by what is stored. -/
theorem eq_of_recordOf_eq (civil : e.expiration.IsCivil) (same : recordOf e = recordOf e') :
    e = e' := by
  have expirations : e.expiration = e'.expiration := congrArg StoredText.expiration same
  have read := ArtifactEntry.ofText_text civil
  have texts : e.text = e'.text := congrArg StoredText.text same
  rw [texts, ArtifactEntry.ofText_text (expirations ▸ civil)] at read
  exact (Except.ok.inj read).symm

theorem IsLegible.erase (legible : IsLegible records) (key : String × String) :
    IsLegible (records.erase key) := by
  intro other record found
  rw [Keyed.get?_erase] at found
  split at found
  · cases found
  · exact legible other record found

theorem IsLegible.insert (legible : IsLegible records) (key : String × String)
    (civil : e.expiration.IsCivil) : IsLegible (records.insert key (recordOf e)) := by
  intro other record found
  rw [Keyed.get?_insert] at found
  split at found
  · exact ⟨e, civil, (Option.some_inj.1 found).symm⟩
  · exact legible other record found

/-! ## What is true of all clients -/

/-- What calls may have come upon that were started since some moment. Whoever is told that a
message was put had it stored at some moment. -/
def sinceStart (lifetime : Span) (start moment : Clients) : Allowance where
  removed _ := True
  considered _ e := e.expiration.IsCivil
  dropped _ := True
  created c e := e.expiration.IsCivil ∧ Wrote lifetime moment.2.now c e
  ended c outcome := ∀ artifact relyingParty issuer message,
    c = .put artifact relyingParty issuer message → outcome = .ok .done →
    ∃ between e, Later lifetime (fun _ => True) start between ∧
      Later lifetime (fun _ => True) between moment ∧
      Holds between.2 artifact e ∧ Wrote lifetime between.2.now c e

/-- All clients come upon nothing but what is allowed. -/
structure IsRegular (lifetime : Span) (start moment : Clients) : Prop where
  reached : Later lifetime (fun _ => True) start moment
  civil : moment.2.now.IsCivil
  legible : IsLegible moment.2.contents
  left : ∀ (place : Nat) c t, moment.1[place]? = some (c, t) →
    Left lifetime (sinceStart lifetime start moment) c t

theorem admits_sinceStart (civil : before.2.now.IsCivil) :
    (sinceStart lifetime start before).Admits lifetime before.2 where
  miss _ _ looks _ := by rintro _ _ _ _ rfl; cases looks
  hit _ _ readable _ := readable
  live _ _ _ looks _ _ := by rintro _ _ _ _ rfl; cases looks
  expired _ _ _ _ := trivial
  dropped _ _ looks _ := by rintro _ _ _ _ rfl; cases looks
  created _ _ _ _ _ sum := ⟨civil.add? sum, .intro (Instant.le_refl _) sum⟩
  removed _ := by rintro _ _ _ _ same; cases same
  failed _ _ _ _ _ := by rintro _ _ _ _ _ same; cases same
  overflow _ _ _ _ := by rintro _ _ _ _ _ same; cases same

/-- More is allowed later. -/
theorem Left.afterwards (left : Left lifetime (sinceStart lifetime start before) c t)
    (forward : before.2.now ≤ after.2.now) (next : Later lifetime (fun _ => True) before after) :
    Left lifetime (sinceStart lifetime start after) c t := by
  refine left.mono (fun _ may => may) (fun _ _ may => may) (fun _ may => may) ?_ ?_
  · exact fun c e ⟨civil, wrote⟩ => ⟨civil, wrote.mono forward⟩
  · intro c outcome put artifact relyingParty issuer message asked done
    obtain ⟨between, e, reached, left, holds, wrote⟩ :=
      put artifact relyingParty issuer message asked done
    exact ⟨between, e, reached, left.trans next, holds, wrote⟩

theorem IsRegular.next (regular : IsRegular lifetime start before)
    (next : Task.Interleaves Task.oneStep onward (body lifetime) (fun _ => True) before after) :
    IsRegular lifetime start after := by
  have reached := regular.reached.tail next
  have on : Later lifetime (fun _ => True) before after := .single next
  cases next with
  | world calls moved =>
    obtain ⟨forward, civil, same⟩ := moved
    exact ⟨reached, civil regular.civil, same ▸ regular.legible,
      fun place c t found => (regular.left place c t found).afterwards forward on⟩
  | start calls s allowed =>
    refine ⟨reached, regular.civil, regular.legible, Task.forall_start (fun place c t found => ?_) ?_⟩
    · exact (regular.left place c t found).afterwards (Instant.le_refl _) on
    · exact .fresh fun _ _ => trivial
  | @go calls place c t s found =>
    have own := regular.left place c t found
    obtain ⟨still, effect⟩ := own.oneStep (admits_sinceStart regular.civil) regular.legible
    have forward : s.now ≤ (t.oneStep s).2.now := still ▸ Instant.le_refl _
    have others := fun other c t found => (regular.left other c t found).afterwards forward on
    have civil : (t.oneStep s).2.now.IsCivil := still ▸ regular.civil
    -- What the update has left, and that the storage stays legible.
    suffices made : Left lifetime (sinceStart lifetime start
        (calls.set place (c, (t.oneStep s).1), (t.oneStep s).2)) c (t.oneStep s).1 ∧
        IsLegible (t.oneStep s).2.contents from
      ⟨reached, civil, made.2, Task.forall_go others made.1⟩
    have legible := regular.legible
    generalize stored : (t.oneStep s).2.contents = records at effect ⊢
    cases effect with
    | still left => exact ⟨left.afterwards forward on, legible⟩
    | lapsed left _ _ => exact ⟨left.afterwards forward on, legible.erase _⟩
    | dropped left _ => exact ⟨left.afterwards forward on, legible.erase _⟩
    | removed left _ => exact ⟨left.afterwards forward on, legible.erase _⟩
    | stored asked may _ quiet =>
      refine ⟨.through quiet ?_, legible.insert _ may.1⟩
      rintro artifact relyingParty issuer message rfl -
      cases asked
      refine ⟨_, _, reached, .refl, ?_, may.2.mono forward⟩
      rw [Holds, stored, Keyed.get?_insert, if_pos rfl]

/-- A map that has not been used, without clients. -/
def noClients (now : Instant) (metrics : Metrics) : Clients := ([], unused now metrics)

theorem isRegular_of_later {instant : Instant} {metrics : Metrics} (civil : instant.IsCivil)
    (reached : Later lifetime (fun _ => True) (noClients instant metrics) after) :
    IsRegular lifetime (noClients instant metrics) after := by
  induction reached with
  | refl => exact ⟨.refl, civil, nofun, nofun⟩
  | tail _ next ih => exact ih.next next

/-! ## Entries that are kept -/

/-- Whoever looks for an artifact from now on finds the entry until it expires, if nobody begins to
remove it. -/
def IsKept (lifetime : Span) (artifact : String) (e : ArtifactEntry) (moment : Clients) : Prop :=
  ∀ after, Later lifetime (· ≠ .remove artifact) moment after → after.2.now < e.expiration →
    ∀ (place : Nat) c outcome, moment.1.length ≤ place →
      after.1[place]? = some (c, .ended outcome) → c.Looks artifact →
      outcome = .ok (c.answer (some e))

/-- A call under way endangers an entry: it has read an entry that expires before, it has found one
to be expired, or it is about to remove the artifact. -/
inductive Endangers (lifetime : Span) (artifact : String) (e : ArtifactEntry) :
    ArtifactCall → Task Scope ArtifactReply → Prop where
  | considering {c : ArtifactCall} {older : ArtifactEntry} (looks : c.Looks artifact)
      (civil : older.expiration.IsCivil) (sooner : older.expiration < e.expiration) :
      Endangers lifetime artifact e c (do return c.answer (← considering artifact older))
  | dropping {c : ArtifactCall} (looks : c.Looks artifact) :
      Endangers lifetime artifact e c (do return c.answer (← dropping artifact))
  | removing :
      Endangers lifetime artifact e (.remove artifact) ((ArtifactCall.remove artifact).body lifetime)

/-- What calls may have come upon that do not endanger an entry. -/
def sparing (artifact : String) (e : ArtifactEntry) : Allowance where
  removed other := other ≠ artifact
  considered other older := other = artifact → e.expiration ≤ older.expiration
  dropped other := other ≠ artifact
  created _ new := new.expiration.IsCivil
  ended _ _ := True

/-- What calls may have come upon that were started while an entry was stored. -/
def finding (artifact : String) (e : ArtifactEntry) : Allowance where
  removed other := other ≠ artifact
  considered other found := other = artifact → found = e
  dropped other := other ≠ artifact
  created _ new := new.expiration.IsCivil
  ended c outcome := c.Looks artifact → outcome = .ok (c.answer (some e))

/-- A stored entry that is live. -/
structure IsLive (s : Scope) (artifact : String) (e : ArtifactEntry) : Prop where
  holds : Holds s artifact e
  readable : e.expiration.IsCivil
  live : s.now < e.expiration

theorem IsLive.unexpired (live : IsLive s artifact e) :
    unexpired s.now (s.contents.get? (storageContext, artifact)) = some (recordOf e) := by
  rw [live.holds, ArtifactMap.unexpired, Option.filter_some]
  simp [recordOf, live.live]

theorem IsLive.eq_of_unexpired (live : IsLive s artifact e)
    (found : ArtifactMap.unexpired s.now (s.contents.get? (storageContext, artifact))
      = some (recordOf e')) : e' = e := by
  rw [live.unexpired] at found
  exact (eq_of_recordOf_eq live.readable (Option.some_inj.1 found)).symm

theorem IsLive.sparing (live : IsLive s artifact e) (civil : s.now.IsCivil) :
    (sparing artifact e).Admits lifetime s where
  miss _ _ _ _ := trivial
  hit other e' _ found := by
    rintro rfl
    rw [live.eq_of_unexpired found]
    exact Instant.le_refl _
  live _ _ _ _ _ _ := trivial
  expired other older later expired := by
    rintro rfl
    exact Instant.not_le.2 live.live (Instant.le_trans (later rfl) expired)
  dropped _ _ _ _ := trivial
  created _ _ _ _ _ sum := civil.add? sum
  removed _ := trivial
  failed _ _ _ _ _ := trivial
  overflow _ _ _ _ := trivial

theorem IsLive.finding (live : IsLive s artifact e) (civil : s.now.IsCivil) :
    (finding artifact e).Admits lifetime s where
  miss c other looks nothing looks' := by
    obtain rfl := looks.artifact_eq looks'
    rw [live.unexpired] at nothing
    cases nothing
  hit other e' _ found := by
    rintro rfl
    exact live.eq_of_unexpired found
  live c other e' looks same _ looks' := by
    rw [same (looks.artifact_eq looks')]
  expired other e' same expired := by
    rintro rfl
    rw [same rfl] at expired
    exact Instant.not_le.2 live.live expired
  dropped c other looks apart looks' := absurd (looks.artifact_eq looks') apart
  created _ _ _ _ _ sum := civil.add? sum
  removed other := by rintro ⟨⟩
  failed _ _ _ _ _ := by rintro ⟨⟩
  overflow _ _ _ _ := by rintro ⟨⟩

/-- An update that neither removes nor drops an artifact keeps what is live there. -/
theorem Effect.keeps {A : Allowance} (effect : Effect lifetime A c s.now s.contents t records)
    (live : IsLive s artifact e) (removed : ∀ other, A.removed other → other ≠ artifact)
    (dropped : ∀ other, A.dropped other → other ≠ artifact) :
    records.get? (storageContext, artifact) = some (recordOf e) := by
  have elsewhere {other : String} (apart : other ≠ artifact) :
      (storageContext, artifact) ≠ (storageContext, other) := by
    simpa using apart.symm
  cases effect with
  | still left => exact live.holds
  | @lapsed other record left found expired =>
    -- The record that is dropped had expired, and that of the artifact has not.
    have apart : other ≠ artifact := by
      rintro rfl
      obtain rfl := Option.some_inj.1 (live.holds.symm.trans found)
      exact Instant.not_le.2 live.live expired
    rw [Keyed.get?_erase, if_neg (elsewhere apart)]
    exact live.holds
  | dropped left may =>
    rw [Keyed.get?_erase, if_neg (elsewhere (dropped _ may))]
    exact live.holds
  | removed left may =>
    rw [Keyed.get?_erase, if_neg (elsewhere (removed _ may))]
    exact live.holds
  | @stored other _ _ _ _ asked may free quiet =>
    -- The storage takes no record where there is a live one.
    have apart : other ≠ artifact := by
      rintro rfl
      rw [live.unexpired] at free
      cases free
    rw [Keyed.get?_insert, if_neg (elsewhere apart)]
    exact live.holds

/-- What is left of a call after an update that neither removes nor drops an artifact, and that
the entry is still live. -/
theorem IsLive.oneStep {A : Allowance} (live : IsLive s artifact e)
    (left : Left lifetime A c t) (admits : A.Admits lifetime s) (legible : IsLegible s.contents)
    (removed : ∀ other, A.removed other → other ≠ artifact)
    (dropped : ∀ other, A.dropped other → other ≠ artifact)
    (ended : ∀ c, ¬ (∃ artifact, c.Looks artifact) → ∀ outcome, A.ended c outcome) :
    (t.oneStep s).2.now = s.now ∧ IsLive (t.oneStep s).2 artifact e ∧
      Left lifetime A c (t.oneStep s).1 := by
  obtain ⟨still, effect⟩ := left.oneStep admits legible
  have kept : IsLive (t.oneStep s).2 artifact e :=
    ⟨effect.keeps live removed dropped, live.readable, still ▸ live.live⟩
  refine ⟨still, kept, ?_⟩
  generalize (t.oneStep s).2.contents = records at effect
  cases effect with
  | still left => exact left
  | lapsed left _ _ => exact left
  | dropped left _ => exact left
  | removed left _ => exact left
  | stored asked may _ quiet =>
    refine .through quiet (ended c ?_ _)
    rintro ⟨other, looks⟩
    rw [asked] at looks
    cases looks

/-- Until an entry expires it is stored, calls that were under way do not endanger it, and calls
that have been started since find it. -/
structure IsSafe (lifetime : Span) (artifact : String) (e : ArtifactEntry) (count : Nat)
    (moment : Clients) : Prop where
  length : count ≤ moment.1.length
  live : moment.2.now < e.expiration → IsLive moment.2 artifact e
  earlier : moment.2.now < e.expiration → ∀ (place : Nat) c t, moment.1[place]? = some (c, t) →
    place < count → Left lifetime (sparing artifact e) c t
  since : moment.2.now < e.expiration → ∀ (place : Nat) c t, moment.1[place]? = some (c, t) →
    count ≤ place → Left lifetime (finding artifact e) c t

theorem IsSafe.next {count : Nat} (safe : IsSafe lifetime artifact e count before)
    (regular : IsRegular lifetime start before)
    (next : Task.Interleaves Task.oneStep onward (body lifetime) (· ≠ .remove artifact)
      before after) :
    IsSafe lifetime artifact e count after := by
  have length := Nat.le_trans safe.length next.length_le
  cases next with
  | world calls moved =>
    obtain ⟨forward, -, same⟩ := moved
    have sooner := fun (live : _ < e.expiration) => Instant.lt_of_le_of_lt forward live
    refine ⟨length, fun live => ?_, fun live => safe.earlier (sooner live),
      fun live => safe.since (sooner live)⟩
    have before := safe.live (sooner live)
    exact ⟨by rw [Holds, same]; exact before.holds, before.readable, live⟩
  | @start calls s c allowed =>
    refine ⟨length, safe.live, fun live => ?_, fun live => ?_⟩
    · refine Task.forall_start (safe.earlier live) fun early => ?_
      exact absurd safe.length (Nat.not_le.2 early)
    · refine Task.forall_start (safe.since live) fun _ => .fresh fun other asked => ?_
      rintro rfl
      exact allowed asked
  | @go calls place c t s found =>
    -- The clock stands still during an update, so that the entry is still live before it.
    have still : (t.oneStep s).2.now = s.now :=
      ((regular.left place c t found).oneStep (admits_sinceStart regular.civil) regular.legible).1
    by_cases alive : s.now < e.expiration
    · have live := safe.live alive
      by_cases early : place < count
      · have own := safe.earlier alive place c t found early
        obtain ⟨-, kept, left⟩ := live.oneStep own (live.sparing regular.civil) regular.legible
          (fun _ apart => apart) (fun _ apart => apart) fun _ _ _ => trivial
        refine ⟨length, fun _ => kept, fun _ => ?_, fun _ => ?_⟩
        · exact Task.forall_go (safe.earlier alive) fun _ => left
        · exact Task.forall_go (safe.since alive) fun late => absurd early (Nat.not_lt.2 late)
      · have own := safe.since alive place c t found (Nat.not_lt.1 early)
        obtain ⟨-, kept, left⟩ := live.oneStep own (live.finding regular.civil) regular.legible
          (fun _ apart => apart) (fun _ apart => apart) fun _ none _ looks => absurd ⟨_, looks⟩ none
        refine ⟨length, fun _ => kept, fun _ => ?_, fun _ => ?_⟩
        · exact Task.forall_go (safe.earlier alive) fun early' => absurd early' early
        · exact Task.forall_go (safe.since alive) fun _ => left
    · have expired : ¬ (t.oneStep s).2.now < e.expiration := by rwa [still]
      exact ⟨length, fun live => absurd live expired, fun live => absurd live expired,
        fun live => absurd live expired⟩

/-- What may happen if fewer calls may be started may happen if any may. -/
theorem Later.any (next : Later lifetime may before after) :
    Later lifetime (fun _ => True) before after :=
  Relation.ReflTransGen.mono (fun _ _ next => next.mono fun _ _ => trivial) _ _ next

theorem IsSafe.lasts {count : Nat} (safe : IsSafe lifetime artifact e count before)
    (regular : IsRegular lifetime start before)
    (next : Later lifetime (· ≠ .remove artifact) before after) :
    IsSafe lifetime artifact e count after := by
  have both : IsRegular lifetime start after ∧ IsSafe lifetime artifact e count after := by
    induction next with
    | refl => exact ⟨regular, safe⟩
    | tail _ next ih => exact ⟨ih.1.next (next.mono fun _ _ => trivial), ih.2.next ih.1 next⟩
  exact both.2

/-- A call that is over has come to what is allowed, unless it came to it at once. -/
theorem Left.ended {A : Allowance} {outcome : Outcome ArtifactReply}
    (left : Left lifetime A c (.ended outcome)) (takes_time : c.body lifetime ≠ .ended outcome) :
    A.ended c outcome := by
  generalize finished : Task.ended outcome = t at left takes_time
  cases left with
  | fresh may => exact absurd rfl takes_time
  | considering looks may => cases finished
  | dropping looks may => cases finished
  | creating may => cases finished
  | through quiet may =>
    rw [← finished] at quiet
    rwa [quiet]

theorem ArtifactCall.Looks.takes_time (looks : c.Looks artifact)
    (outcome : Outcome ArtifactReply) : c.body lifetime ≠ .ended outcome := by
  rw [looks.body_eq, get_eq]
  rintro ⟨⟩

/-- Nobody is told at once that a message was put. -/
theorem put_takes_time (artifact relyingParty issuer message : String) (reply : ArtifactReply) :
    (ArtifactCall.put artifact relyingParty issuer message).body lifetime ≠ .ended (.ok reply) := by
  cases named : checkArtifact artifact with
  | error failure =>
    rw [body, shared, stored]
    dsimp only
    rw [named]
    rintro ⟨⟩
  | ok =>
    rw [body_put named]
    rintro ⟨⟩

/-- What does not endanger an entry spares it. -/
theorem Left.sparing (left : Left lifetime (sinceStart lifetime start before) c t)
    (harmless : ¬ Endangers lifetime artifact e c t) :
    Left lifetime (sparing artifact e) c t := by
  cases left with
  | fresh may =>
    refine .fresh fun other asked => ?_
    rintro rfl
    rw [asked] at harmless
    exact harmless .removing
  | considering looks may =>
    refine .considering looks ?_
    rintro rfl
    exact Instant.not_lt.1 fun sooner => harmless (.considering looks may sooner)
  | dropping looks may =>
    refine .dropping looks ?_
    rintro rfl
    exact harmless (.dropping looks)
  | creating may => exact .creating may.1
  | through quiet may => exact .through quiet trivial

/-- What nobody endangers is kept. -/
theorem isKept_of_unendangered (regular : IsRegular lifetime start before)
    (live : IsLive before.2 artifact e)
    (harmless : ∀ (place : Nat) c t, before.1[place]? = some (c, t) →
      ¬ Endangers lifetime artifact e c t) :
    IsKept lifetime artifact e before := by
  have safe : IsSafe lifetime artifact e before.1.length before := by
    refine ⟨Nat.le_refl _, fun _ => live, fun _ place c t found _ => ?_,
      fun _ place c t found late => ?_⟩
    · exact (regular.left place c t found).sparing (harmless place c t found)
    · rw [List.getElem?_eq_none late] at found
      cases found
  intro after next alive place c outcome late finished looks
  have left := (safe.lasts regular next).since alive place c _ finished late
  exact left.ended (looks.takes_time outcome) looks

/-! ## Entries that are lost -/

/-- Then a call may go on by one update. -/
theorem Later.exists_go {place : Nat} (next : Later lifetime may before after)
    (found : after.1[place]? = some (c, t)) :
    ∃ beyond, Later lifetime may before beyond ∧ beyond.2 = (t.oneStep after.2).2 ∧
      beyond.1[place]? = some (c, (t.oneStep after.2).1) ∧ beyond.1.length = after.1.length := by
  obtain ⟨within, -⟩ := List.getElem?_eq_some_iff.1 found
  exact ⟨_, next.tail (.go after.2 found), rfl, List.getElem?_set_self within, List.length_set⟩

/-- Once a record is gone, whoever looks for it next finds nothing. -/
theorem Later.exists_found_none (next : Later lifetime (· ≠ .remove artifact) before after)
    (gone : after.2.contents.get? (storageContext, artifact) = none) :
    ∃ beyond, Later lifetime (· ≠ .remove artifact) before beyond ∧
      beyond.2.now = after.2.now ∧
      beyond.1[after.1.length]? = some (.get artifact, .ended (.ok (.found none))) := by
  have begun := next.tail (.start after.1 after.2 (c := .get artifact) (by rintro ⟨⟩))
  obtain ⟨reading, next, same, found, -⟩ := Later.exists_go begun List.getElem?_concat_length
  have nothing : after.2.contents.read storageContext artifact after.2.now
      = (none, after.2.contents) := by
    rw [StoredTexts.read, gone]
  have read : ((ArtifactCall.get artifact).body lifetime).oneStep after.2
      = (do
          ArtifactScope.count "get" "miss"
          return .found none, after.2) := by
    show (Task.bind (heeding artifact (after.2.contents.read storageContext artifact after.2.now).1) _,
      (⟨after.2.now, after.2.metrics,
        (after.2.contents.read storageContext artifact after.2.now).2⟩ : Scope)) = _
    rw [nothing]
    rfl
  rw [read] at same found
  obtain ⟨counted, next, same', found, -⟩ := Later.exists_go next found
  exact ⟨counted, next, by rw [same', same]; rfl, found⟩

/-- A call that endangers an entry may go on until it has deleted the artifact, before the entry
expires. -/
theorem Endangers.exists_gone (endangers : Endangers lifetime artifact e c t)
    (civil : before.2.now.IsCivil) (live : before.2.now < e.expiration) {place : Nat}
    (found : before.1[place]? = some (c, t)) :
    ∃ after, Later lifetime (· ≠ .remove artifact) before after ∧
      after.2.now < e.expiration ∧
      after.2.contents.get? (storageContext, artifact) = none ∧
      after.1.length = before.1.length := by
  have here : Later lifetime (· ≠ .remove artifact) before before := .refl
  have erased (s : Scope) :
      (s.contents.erase (storageContext, artifact)).get? (storageContext, artifact) = none := by
    rw [Keyed.get?_erase, if_pos rfl]
  cases endangers with
  | @considering c older looks readable sooner =>
    -- The clock goes on until the older entry is expired, and the newer one is not.
    have forward := Instant.latest_le_iff.1 (Instant.le_refl (before.2.now.latest older.expiration))
    have alive : before.2.now.latest older.expiration < e.expiration := by
      rw [Instant.latest]
      split
      · exact sooner
      · exact live
    have civil : (before.2.now.latest older.expiration).IsCivil := by
      rw [Instant.latest]
      split
      · exact readable
      · exact civil
    have waited : Later lifetime (· ≠ .remove artifact) before
        (before.1, { before.2 with now := before.2.now.latest older.expiration }) :=
      here.tail (.world before.1 ⟨forward.1, fun _ => civil, rfl⟩)
    obtain ⟨judged, next, same, found, length⟩ := Later.exists_go waited found
    have expired : older.isExpired (before.2.now.latest older.expiration) = true := by
      simpa [ArtifactEntry.isExpired] using forward.2
    have left : ((do return c.answer (← ArtifactMap.considering artifact older)) :
        Task Scope ArtifactReply).oneStep
          { before.2 with now := before.2.now.latest older.expiration }
        = (do return c.answer (← ArtifactMap.dropping artifact),
          { before.2 with now := before.2.now.latest older.expiration }) := by
      show (Task.bind (if older.isExpired _ then _ else _) _, _) = _
      rw [if_pos expired]
      rfl
    rw [left] at same found
    obtain ⟨after, next, same', -, length'⟩ := Later.exists_go next found
    refine ⟨after, next, ?_, ?_, length'.trans length⟩
    · rw [same', same]
      exact alive
    · rw [same']
      exact erased _
  | dropping looks =>
    obtain ⟨after, next, same, -, length⟩ := Later.exists_go here found
    exact ⟨after, next, by rw [same]; exact live, by rw [same]; exact erased _, length⟩
  | removing =>
    obtain ⟨after, next, same, -, length⟩ := Later.exists_go here found
    exact ⟨after, next, by rw [same]; exact live, by rw [same]; exact erased _, length⟩

/-- What somebody endangers may be lost. -/
theorem Endangers.not_isKept (endangers : Endangers lifetime artifact e c t)
    (civil : before.2.now.IsCivil) (live : before.2.now < e.expiration) {place : Nat}
    (found : before.1[place]? = some (c, t)) : ¬ IsKept lifetime artifact e before := by
  intro kept
  obtain ⟨after, next, alive, gone, length⟩ := endangers.exists_gone civil live found
  obtain ⟨beyond, next, same, missed⟩ := Later.exists_found_none next gone
  have answered := kept beyond next (same ▸ alive) after.1.length _ _ (Nat.le_of_eq length.symm)
    missed (.get artifact)
  cases answered

/-- **When an artifact is kept.** Of all clients of one storage, whoever has been told that a message
was put had its entry stored at some moment, until a lifetime after a reading of the clock during the
call. From any moment at which a live entry is stored, whoever looks for the artifact finds it until
it expires, whatever the clients do but begin to remove it, if and only if no call under way
endangers it. -/
theorem kept_iff_unendangered {instant : Instant} (civil : instant.IsCivil) (lifetime : Span)
    (metrics : Metrics) (moment : Clients)
    (reached : Later lifetime (fun _ => True) (noClients instant metrics) moment) :
    (∀ (place : Nat) artifact relyingParty issuer message,
      moment.1[place]? = some (.put artifact relyingParty issuer message, .ended (.ok .done)) →
      ∃ between e, Later lifetime (fun _ => True) (noClients instant metrics) between ∧
        Later lifetime (fun _ => True) between moment ∧ Holds between.2 artifact e ∧
        Wrote lifetime between.2.now (.put artifact relyingParty issuer message) e) ∧
    ∀ artifact e, Holds moment.2 artifact e → moment.2.now < e.expiration →
      (IsKept lifetime artifact e moment ↔
        ∀ (place : Nat) c t, moment.1[place]? = some (c, t) →
          ¬ Endangers lifetime artifact e c t) := by
  have regular := isRegular_of_later civil reached
  refine ⟨fun place artifact relyingParty issuer message finished => ?_,
    fun artifact e holds alive => ⟨fun kept place c t found endangers => ?_, fun harmless => ?_⟩⟩
  · have left := regular.left place _ _ finished
    exact left.ended (put_takes_time _ _ _ _ _) artifact relyingParty issuer message rfl rfl
  · exact endangers.not_isKept regular.civil alive found kept
  · obtain ⟨e', readable, same⟩ := regular.legible artifact _ holds
    obtain rfl := eq_of_recordOf_eq readable same.symm
    exact isKept_of_unendangered regular ⟨holds, readable, alive⟩ harmless

/-! ### A schedule -/

/-- What happens in a schedule: the clock goes on, a call is started, or one goes on. -/
inductive Event where
  | clock (instant : Instant) (civil : instant.IsCivil)
  | start (c : ArtifactCall)
  | go (place : Nat)

/-- What comes of an event. -/
def Event.happen (lifetime : Span) (moment : Clients) : Event → Clients
  | .clock instant _ => (moment.1, { moment.2 with now := moment.2.now.latest instant })
  | .start c => (moment.1 ++ [(c, c.body lifetime)], moment.2)
  | .go place =>
    match moment.1[place]? with
    | some (c, t) => (moment.1.set place (c, (t.oneStep moment.2).1), (t.oneStep moment.2).2)
    | none => moment

/-- What comes of a schedule. -/
def play (lifetime : Span) (events : List Event) (moment : Clients) : Clients :=
  events.foldl (Event.happen lifetime) moment

/-- What happens in a schedule may happen. -/
theorem later_play (lifetime : Span) {events : List Event}
    (allowed : ∀ c, .start c ∈ events → may c) (moment : Clients) :
    Later lifetime may moment (play lifetime events moment) := by
  induction events generalizing moment with
  | nil => exact .refl
  | cons event rest ih =>
    refine .trans ?_ (ih (fun c among => allowed c (List.mem_cons_of_mem _ among)) _)
    cases event with
    | clock instant civil =>
      have forward := (Instant.latest_le_iff.1 (Instant.le_refl (moment.2.now.latest instant))).1
      refine .single (.world moment.1 ⟨forward, fun before => ?_, rfl⟩)
      show (moment.2.now.latest instant).IsCivil
      rw [Instant.latest]
      split
      · exact civil
      · exact before
    | start c => exact .single (.start moment.1 moment.2 (allowed c List.mem_cons_self))
    | go place =>
      rw [Event.happen]
      split
      · rename_i found
        exact .single (.go moment.2 found)
      · exact .refl

/-- What has come of a call. -/
def replyAt (place : Nat) (moment : Clients) : Option (Outcome ArtifactReply) :=
  match moment.1[place]? with
  | some (_, .ended outcome) => some outcome
  | _ => none

/-- What a call asks. -/
def callAt (place : Nat) (moment : Clients) : Option ArtifactCall := moment.1[place]?.map (·.1)

/-- One message is put, and nobody else is there. -/
def putAlone : List Event := [.start (.put "AR" "sp" "idp" "first"), .go 0, .go 0, .go 0]

/-- The entry of the message. -/
def aloneEntry : ArtifactEntry := ⟨"AR", "idp", "sp", "first", minuteLater⟩

theorem isKept_putAlone :
    newYear.IsCivil ∧
      Later (.ofSeconds 60) (fun _ => True) (noClients newYear .empty)
        (play (.ofSeconds 60) putAlone (noClients newYear .empty)) ∧
      IsKept (.ofSeconds 60) "AR" aloneEntry
        (play (.ofSeconds 60) putAlone (noClients newYear .empty)) := by
  have reached : Later (.ofSeconds 60) (fun _ => True) (noClients newYear .empty)
      (play (.ofSeconds 60) putAlone (noClients newYear .empty)) :=
    later_play _ (fun _ _ => trivial) _
  have holds : Holds (play (.ofSeconds 60) putAlone (noClients newYear .empty)).2 "AR" aloneEntry :=
    rfl
  refine ⟨newYear_isCivil, reached, ?_⟩
  refine ((kept_iff_unendangered newYear_isCivil _ _ _ reached).2 "AR" aloneEntry holds
    (by decide +kernel)).2 ?_
  -- The only call is over.
  rintro (_ | place) c t found endangers
  · obtain ⟨rfl, rfl⟩ := Prod.mk.inj (Option.some_inj.1 found)
    cases endangers
  · cases found

/-- One client has read a message that is about to expire. It expires, and another client uses the
artifact again. -/
def reuseBeside : List Event :=
  [.start (.put "AR" "sp" "idp" "first"), .go 0, .go 0, .go 0, .start (.get "AR"), .go 1,
    .clock minuteLater minuteLater_isCivil,
    .start (.put "AR" "sp" "idp" "second"), .go 2, .go 2, .go 2]

/-- The first client goes on, and then the second one looks for its message. -/
def lookAgain : List Event := [.go 1, .go 1, .go 1, .start (.get "AR"), .go 3, .go 3]

/-- The moment at which the second message has been put. -/
def reusedMoment : Clients := play (.ofSeconds 60) reuseBeside (noClients newYear .empty)

/-- **A message is lost.** Nobody removes anything. The second message has been put, and is still to
live for a minute; then a client looks for it, and at that very instant finds nothing. -/
theorem reused_artifact_is_lost :
    ∃ after : Clients,
      Later (.ofSeconds 60) (fun c => ∀ artifact, c ≠ .remove artifact) (noClients newYear .empty)
        reusedMoment ∧
      callAt 2 reusedMoment = some (.put "AR" "sp" "idp" "second") ∧
      replyAt 2 reusedMoment = some (.ok .done) ∧
      Holds reusedMoment.2 "AR" ⟨"AR", "idp", "sp", "second", ⟨1704067320, 0⟩⟩ ∧
      callAt 3 reusedMoment = none ∧
      Later (.ofSeconds 60) (fun c => ∀ artifact, c ≠ .remove artifact) reusedMoment after ∧
      callAt 3 after = some (.get "AR") ∧
      replyAt 3 after = some (.ok (.found none)) ∧
      after.2.now = minuteLater ∧ minuteLater < ⟨1704067320, 0⟩ := by
  have unremoved : ∀ events ∈ [reuseBeside, lookAgain], ∀ c, .start c ∈ events →
      ∀ artifact, c ≠ .remove artifact := by
    intro events among c started artifact same
    rw [same] at started
    simp only [List.mem_cons, List.not_mem_nil, or_false] at among
    rcases among with rfl | rfl
    · simp [reuseBeside] at started
    · simp [lookAgain] at started
  refine ⟨play (.ofSeconds 60) lookAgain reusedMoment, later_play _ (unremoved _ (by simp)) _,
    by rfl, by rfl, by rfl, by rfl, later_play _ (unremoved _ (by simp)) _, by rfl, ?_⟩
  decide +kernel

end Federation.ArtifactMap
