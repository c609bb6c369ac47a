/-
# Operations are counted once

Three families of counters tell how often something was done and what came of it: pulls of a
document, readings of artifacts, and queries. Each should grow by one, under the right label,
whenever such an operation is over.

Queries are counted in one place, behind everything that may come of them, and are counted
without exception. The other two are counted branch by branch, and one branch was missed in
each. A pull whose document is rejected by a filter ends in that failure, as does one whose
document cannot be read or holds no entity, but only the others are counted. A reading that
meets a text that is no entry drops it and answers that there is none, as does one that meets
an expired entry, but only the others are counted.

## Main definitions

* `PullSource.Rejects` — a filter rejects the document that a pull is answered with
* `ArtifactMap.IsUnreadable` — a storage answers a reading with a text that is no entry
* `PullSource.tally`, `Resolver.tally` — the label of an outcome

## Main results

* `PullSource.tallies_refresh` — a pull is counted unless its document is rejected
* `ArtifactMap.counts_get_stored` — a reading is counted unless it is of an unreadable text
* `Resolver.counts_resolve` — a query is counted, whatever happens meanwhile
* `operations_count_once` — all three together
-/

import Federation.Artifact.Map
import Federation.Proofs.Artifact.Entries
import Federation.Proofs.Origin.Pulling
import Federation.Proofs.Resolver.Reporting
import Federation.Proofs.Resolver.Soundness

namespace Federation

open Federation.Metadata Federation.Time Federation.Task Metrics

variable {ε ν : Type}

/-! ## Pulls -/

namespace Origin.PullSource

variable {source : PullSource} {network : Network ν} {filters : FilterChain}
  {context : Filter.Context} {s : OriginScope (PullState ν)} {delivery : Delivery}

/-- The label under which a pull is counted, if it does not end out of range. -/
def tally : Outcome RefreshOutcome → Option String
  | .ok (.updated _ _) => some "success"
  | .ok (.unchanged _) => some "not_modified"
  | .failed _ => some "failure"
  | _ => none

/-- A document can be read, asks for a delay within reach, and is rejected by a filter. -/
def TurnsAway (source : PullSource) (filters : FilterChain) (context : Filter.Context)
    (delivery : Delivery) : Prop :=
  ∃ document delay failure, Document.loadBytes delivery.body = .ok document ∧
    source.schedule.nextDelay document.cacheSeconds document.validUntil context.now = some delay ∧
    filterDocuments filters context [document] = .error failure

/-- The document that a pull delivers is rejected by a filter. -/
def Rejects (source : PullSource) (network : Network ν) (filters : FilterChain)
    (context : Filter.Context) (s : OriginScope (PullState ν)) : Prop :=
  ∃ delivery, ((source.pull network).run s).1 = .ok (some delivery) ∧
    source.TurnsAway filters context delivery

/-- How a pull ends as far as the metrics are concerned: it fails and they are as they were, or
it is counted. -/
def Tallies (source : PullSource) (rejected : Prop) (before : Metrics)
    (ran : Outcome RefreshOutcome × OriginScope (PullState ν)) : Prop :=
  (rejected → (∃ failure, ran.1 = .failed failure) ∧ ran.2.metrics = before) ∧
    (¬ rejected →
      CountsOnce before ran.2.metrics (.originFetch source.name) (tally ran.1))

theorem countsOnce_originFetch (m : Metrics) (name outcome : String) (seconds : Float) :
    CountsOnce m (m.originFetch name outcome seconds) (.originFetch name) (some outcome) := by
  apply countsOnce_count
  intro one other same
  exact (Counter.originFetch.inj same).2

theorem tallies_load (source : PullSource) (filters : FilterChain) (context : Filter.Context)
    (delivery : Delivery) (s : OriginScope (PullState ν)) :
    source.Tallies (source.TurnsAway filters context delivery) s.metrics
      ((source.load filters context delivery).run s) := by
  have counted (outcome : String) := countsOnce_originFetch s.metrics source.name outcome 0.0
  rw [load]
  cases loaded : Document.loadBytes delivery.body with
  | error failure =>
    refine ⟨?_, fun _ => counted "failure"⟩
    rintro ⟨document, delay, rejected, same, -⟩
    cases loaded.symm.trans same
  | ok document =>
    dsimp only
    cases scheduled : source.schedule.nextDelay document.cacheSeconds document.validUntil
      context.now with
    | none =>
      refine ⟨?_, fun _ => countsOnce_none s.metrics _⟩
      rintro ⟨other, delay, rejected, same, reached, -⟩
      obtain rfl := Except.ok.inj (loaded.symm.trans same)
      cases scheduled.symm.trans reached
    | some delay =>
      cases filtered : filterDocuments filters context [document] with
      | error failure =>
        -- The missed branch: the failure of the filters is passed on before anything is counted.
        refine ⟨fun _ => ⟨⟨failure, rfl⟩, rfl⟩, fun accepted => ?_⟩
        exact absurd ⟨document, delay, failure, loaded, scheduled, filtered⟩ accepted
      | ok entities =>
        have passes : ¬ source.TurnsAway filters context delivery := by
          rintro ⟨other, delay, rejected, same, -, found⟩
          obtain rfl := Except.ok.inj (loaded.symm.trans same)
          cases filtered.symm.trans found
        refine ⟨fun rejected => absurd rejected passes, fun _ => ?_⟩
        cases entities with
        | nil => exact counted "failure"
        | cons e rest => exact counted "success"

theorem metrics_pull (source : PullSource) (network : Network ν) (s : OriginScope (PullState ν)) :
    ((source.pull network).run s).2.metrics = s.metrics := by
  rw [run_pull]

theorem pull_ne_overflow (source : PullSource) (network : Network ν)
    (s : OriginScope (PullState ν)) : ((source.pull network).run s).1 ≠ .overflow := by
  rw [run_pull]
  cases (network.exchange (source.request s.state.pulled) s.state.network).1 with
  | error reason => simp
  | ok r =>
    dsimp only
    rw [accepted]
    split
    · simp
    · split
      · split <;> simp
      · simp

/-- A pull is counted once under the label of its outcome, unless its document is rejected by a
filter: then it fails and nothing is counted. -/
theorem tallies_refresh (source : PullSource) (network : Network ν) (filters : FilterChain)
    (context : Filter.Context) (s : OriginScope (PullState ν)) :
    source.Tallies (source.Rejects network filters context s) s.metrics
      ((source.refresh network filters context).run s) := by
  have uncounted := metrics_pull source network s
  have ends := pull_ne_overflow source network s
  rw [refresh, run_then, run_attempt, Rejects]
  generalize (source.pull network).run s = pulled at uncounted ends ⊢
  obtain ⟨outcome, m⟩ := pulled
  have counted (name : String) := countsOnce_originFetch m.metrics source.name name 0.0
  rw [← show m.metrics = s.metrics from uncounted]
  cases outcome with
  | overflow => exact absurd rfl ends
  | failed failure =>
    -- Nothing is delivered, so that there is nothing to reject.
    refine ⟨?_, fun _ => counted "failure"⟩
    rintro ⟨delivery, delivered, -⟩
    cases delivered
  | ok delivered =>
    cases delivered with
    | none =>
      refine ⟨?_, fun _ => counted "not_modified"⟩
      rintro ⟨delivery, delivered, -⟩
      cases delivered
    | some delivery =>
      -- What has been delivered decides whether it is rejected.
      have told : (∃ other, Outcome.ok (some delivery) = .ok (some other) ∧
          source.TurnsAway filters context other) ↔ source.TurnsAway filters context delivery := by
        simp
      rw [told]
      exact tallies_load source filters context delivery m

end Origin.PullSource

/-! ## Readings of artifacts -/

namespace ArtifactMap

variable {storage : StorageService ν} {lifetime : Span} {artifact : String}
  {s s' : ArtifactScope ν}

/-- What a storage has under an artifact is a text that is no entry. -/
def IsUnreadable (storage : StorageService ν) (artifact : String) (s : ArtifactScope ν) : Prop :=
  ∃ text fault, (storage.read storageContext artifact s.now s.contents).1 = .ok (some text) ∧
    ArtifactEntry.ofText text = .error fault

theorem countsOnce_get (m : Metrics) (outcome : String) :
    CountsOnce m (m.count (.artifactOperation "get" outcome)) (.artifactOperation "get")
      (some outcome) := by
  apply countsOnce_count
  intro one other same
  exact (Counter.artifactOperation.inj same).2

theorem run_call {α : Type} (f : Instant → ν → Except Failure α × ν) (s : ArtifactScope ν) :
    (ArtifactScope.call f).run s
      = (.ofExcept (f s.now s.contents).1, { s with contents := (f s.now s.contents).2 }) := rfl

/-- Deleting may fail, and counts nothing. -/
theorem run_discard (storage : StorageService ν) (artifact : String) (s : ArtifactScope ν) :
    (discard storage artifact).run s
      = ((Outcome.ofExcept (storage.delete storageContext artifact s.contents).1).map fun _ => (),
        { s with contents := (storage.delete storageContext artifact s.contents).2 }) := by
  rw [discard, run_then, run_call]
  cases (storage.delete storageContext artifact s.contents).1 <;> rfl

/-- A reading that gives an answer is counted once, under `hit` if there is an entry and under
`miss` or `expired` if there is none, unless it met a text that is no entry: then nothing is
counted. -/
theorem counts_get_stored {found : Option ArtifactEntry}
    (ran : ((stored storage lifetime).get artifact).run s = (.ok found, s')) :
    (IsUnreadable storage artifact s → s'.metrics = s.metrics) ∧
      (¬ IsUnreadable storage artifact s → ∃ reading : Reading, reading.entry? = found ∧
        CountsOnce s.metrics s'.metrics (.artifactOperation "get") (some reading.outcome)) := by
  have counted (name : String) := countsOnce_get s.metrics name
  rw [stored, run_then, run_call] at ran
  rw [IsUnreadable]
  generalize storage.read storageContext artifact s.now s.contents = answered at ran ⊢
  obtain ⟨answer, contents⟩ := answered
  cases answer with
  | error failure => cases ran
  | ok kept =>
    cases kept with
    | none =>
      cases ran
      refine ⟨?_, fun _ => ⟨.miss, rfl, counted "miss"⟩⟩
      rintro ⟨text, fault, same, -⟩
      cases same
    | some text =>
      simp only [Outcome.ofExcept, proceed_ok] at ran
      cases read : ArtifactEntry.ofText text with
      | error fault =>
        -- The missed branch: the text is dropped, and that there is no entry is not counted.
        refine ⟨fun _ => ?_, fun readable => absurd ⟨text, fault, rfl, read⟩ readable⟩
        simp only [read, run_then, run_discard] at ran
        cases deleted : (storage.delete storageContext artifact contents).1 with
        | error failure =>
          rw [deleted] at ran
          cases ran
        | ok was =>
          rw [deleted] at ran
          cases ran
          rfl
      | ok e =>
        refine ⟨?_, fun _ => ?_⟩
        · rintro ⟨other, fault, same, refused⟩
          cases same
          cases read.symm.trans refused
        · simp only [read, run_then, run_read, proceed_ok] at ran
          split at ran
          · simp only [run_then, run_discard] at ran
            cases deleted : (storage.delete storageContext artifact contents).1 with
            | error failure =>
              rw [deleted] at ran
              cases ran
            | ok was =>
              rw [deleted] at ran
              cases ran
              exact ⟨.expired, rfl, counted "expired"⟩
          · cases ran
            exact ⟨.hit e, rfl, counted "hit"⟩

end ArtifactMap

/-! ## Queries -/

namespace Resolver

variable {r : Resolver ε} {query : Criteria} {s s' : ResolverState ε}
  {outcome : Outcome (List Entity)}

/-- The label under which a query is counted, if it does not end out of range. -/
def tally : Outcome (List Entity) → Option String
  | .ok [] => some "not_found"
  | .ok _ => some "found"
  | .failed _ => some "failed"
  | .overflow => none

/-- No query of a resolver has been counted. -/
def uncounted (r : Resolver ε) : Drift (ResolverState ε) where
  rel s s' := ∀ outcome,
    s'.metrics.value (.resolution r.id outcome) = s.metrics.value (.resolution r.id outcome)
  refl _ _ := rfl
  trans first second outcome := (second outcome).trans (first outcome)

/-- Whatever others do meanwhile, they neither end the life of the resolver nor are their own
queries of it counted. -/
def attended (r : Resolver ε) : Drift (ResolverState ε) where
  rel s s' := s'.lifecycle = s.lifecycle ∧ r.uncounted.rel s s'
  refl s := ⟨rfl, r.uncounted.refl s⟩
  trans first second := ⟨second.1.trans first.1, r.uncounted.trans first.2 second.2⟩

theorem below_uncounted : r.attended.Below r.uncounted := fun _ _ moved => moved.2

theorem uncounted_of_metrics (same : s'.metrics = s.metrics) : r.uncounted.rel s s' :=
  fun outcome => by rw [same]

theorem overlooks_uncounted : Overlooks r r.attended r.uncounted :=
  ⟨below_uncounted, fun _ _ unreported => unreported.resolutions⟩

theorem uncounted_forget (id : String) :
    (forget id : Task (ResolverState ε) Unit).Keeps r.attended r.uncounted :=
  keeps_change below_uncounted fun _ => uncounted_of_metrics rfl

theorem uncounted_gaugeSize : r.gaugeSize.Keeps r.attended r.uncounted :=
  keeps_change below_uncounted fun _ _ => rfl

theorem uncounted_insertRecords (id : String) (entities : List Entity) (now : Instant) :
    (r.insertRecords id entities now).Keeps r.attended r.uncounted := by
  apply (keeps_ended _).bind
  intro records
  split
  · exact keeps_pure []
  · apply Keeps.bind
    · exact keeps_change below_uncounted fun s => uncounted_of_metrics rfl
    · exact fun _ => keeps_pure _

theorem uncounted_unpersist (id : String) (records : List CacheRecord) :
    (r.unpersist id records).Keeps r.attended r.uncounted :=
  overlooks_uncounted.keeps (unreported_unpersist records)

theorem uncounted_persist (entities : List Entity) :
    (r.persist entities).Keeps r.attended r.uncounted :=
  overlooks_uncounted.keeps (unreported_persist entities)

theorem uncounted_acceptAbsence (id : String) (stale : Option (List CacheRecord)) (now : Instant) :
    (r.acceptAbsence id stale now).Keeps r.attended r.uncounted := by
  have noted : (r.acceptAbsence id none now).Keeps r.attended r.uncounted :=
    overlooks_uncounted.keeps unreported_acceptAbsence_none
  cases stale with
  | none => exact noted
  | some records =>
    apply (uncounted_forget id).bind
    intro _
    apply uncounted_gaugeSize.bind
    intro _
    exact (uncounted_unpersist id records).bind fun _ => noted

theorem uncounted_acceptDescriptions (id : String) (entities : List Entity) (now : Instant) :
    (r.acceptDescriptions id entities now).Keeps r.attended r.uncounted := by
  apply (uncounted_insertRecords id entities now).bind
  intro inserted
  apply (uncounted_persist inserted).bind
  intro _
  exact uncounted_gaugeSize.bind fun _ => keeps_pure inserted

theorem uncounted_acceptFailure (id : String) (stale : Option (List CacheRecord)) (now : Instant)
    (failure : Failure) : (r.acceptFailure id stale now failure).Keeps r.attended r.uncounted := by
  cases stale with
  | none => exact keeps_ended _
  | some records =>
    rw [acceptFailure]
    split
    · apply (keeps_ended _).bind
      intro until_
      exact (overlooks_uncounted.keeps (unreported_retain until_)).bind fun _ => keeps_pure _
    · apply (uncounted_forget id).bind
      intro _
      apply uncounted_gaugeSize.bind
      intro _
      exact (uncounted_unpersist id records).bind fun _ => keeps_ended _

theorem uncounted_acceptAnswer (entities : List Entity) (now : Instant) :
    (r.acceptAnswer entities now).Keeps r.attended r.uncounted := by
  apply (keeps_collect _ _).bind
  · intro all
    exact uncounted_gaugeSize.bind fun _ => keeps_pure _
  · intro group
    apply (uncounted_insertRecords group.1 group.2 now).bind
    intro inserted
    exact (uncounted_persist inserted).bind fun _ => keeps_pure _

theorem takesIn_uncounted (records : r.origin.RecordsFetches) :
    TakesIn r r.attended r.uncounted where
  toOverlooks := overlooks_uncounted
  records := records
  absence := uncounted_acceptAbsence
  descriptions := uncounted_acceptDescriptions
  failure := uncounted_acceptFailure
  answer entities now := (uncounted_acceptAnswer entities now).restores

theorem countsOnce_resolution (m : Metrics) (id outcome : String) :
    CountsOnce m (m.count (.resolution id outcome)) (.resolution id) (some outcome) := by
  apply countsOnce_count
  intro one other same
  exact (Counter.resolution.inj same).2

theorem tally_ofExcept (found : Except Failure (List Entity)) :
    tally (.ofExcept found) = some (resolution found) := by
  cases found with
  | error failure => rfl
  | ok entities => cases entities <;> rfl

/-- A resolver that is initialized is found so, and nothing is counted on the way. -/
theorem runs_requireInitialized {checked : Outcome Unit} (ready : s.lifecycle = .initialized)
    (ran : r.requireInitialized.Runs r.attended s checked s') :
    checked = .ok () ∧ r.uncounted.rel s s' := by
  obtain ⟨m, ⟨awake, before⟩, ran⟩ := ran
  dsimp only at ran
  rw [show m.lifecycle = .initialized from awake.trans ready] at ran
  obtain ⟨rfl, rfl⟩ := ran
  exact ⟨rfl, before⟩

/-- A query of a resolver that is initialized is counted once, under the label of its outcome,
whatever happens while it is answered. -/
theorem counts_resolve (records : r.origin.RecordsFetches) (ready : s.lifecycle = .initialized)
    (ran : (r.resolve query).Runs r.attended s outcome s') (ends : outcome ≠ .overflow) :
    CountsOnce s.metrics s'.metrics (.resolution r.id) (tally outcome) := by
  have takes := takesIn_uncounted records
  rcases runs_bind.1 ran with ⟨⟨⟩, m, checked, ran⟩ | ⟨failure, -, checked⟩ | ⟨-, checked⟩
  · have before := (runs_requireInitialized ready checked).2
    -- What is left is the attempt to answer the query, and behind it the count.
    rcases runs_bind.1 ran with ⟨found, n, tried, ran⟩ | ⟨failure, -, tried⟩ | ⟨rfl, -⟩
    · have answered := takes.restores_found.attempt m _ n tried (by simp)
      obtain ⟨n', ⟨-, waited⟩, rfl, rfl⟩ := ran
      have same := r.uncounted.trans before (r.uncounted.trans answered waited)
      rw [tally_ofExcept]
      exact (countsOnce_resolution n'.metrics r.id _).after same
    · obtain ⟨result, -, same⟩ := runs_attempt tried
      cases result <;> cases same
    · exact absurd rfl ends
  · cases (runs_requireInitialized ready checked).1
  · cases (runs_requireInitialized ready checked).1

end Resolver

/-! ## All three -/

open Origin Resolver in
/-- **Operations are counted once.** A pull adds one under the label of its outcome, unless its
document is rejected by a filter. A reading of an artifact that gives an answer adds one, unless
it met a text that is no entry. In these two cases nothing is recorded at all. A query of a
resolver that is initialized adds one under the label of its outcome, whatever happens while it
is answered. -/
theorem operations_count_once {τ : Type} :
    (∀ (source : PullSource) (network : Network ν) (filters : FilterChain)
      (context : Filter.Context) (s : OriginScope (PullState ν)),
      let ran := (source.refresh network filters context).run s
      (source.Rejects network filters context s →
        (∃ failure, ran.1 = .failed failure) ∧ ran.2.metrics = s.metrics) ∧
      (¬ source.Rejects network filters context s →
        CountsOnce s.metrics ran.2.metrics (.originFetch source.name) (PullSource.tally ran.1))) ∧
    (∀ (storage : StorageService τ) (lifetime : Span) (artifact : String)
      (s s' : ArtifactScope τ) (found : Option ArtifactEntry),
      ((ArtifactMap.stored storage lifetime).get artifact).run s = (.ok found, s') →
      (ArtifactMap.IsUnreadable storage artifact s → s'.metrics = s.metrics) ∧
      (¬ ArtifactMap.IsUnreadable storage artifact s →
        ∃ reading : ArtifactMap.Reading, reading.entry? = found ∧
          CountsOnce s.metrics s'.metrics (.artifactOperation "get") (some reading.outcome))) ∧
    ∀ (r : Resolver ε) (query : Criteria) (s s' : ResolverState ε)
      (outcome : Outcome (List Entity)),
      r.origin.RecordsFetches → s.lifecycle = .initialized →
      (r.resolve query).Runs r.attended s outcome s' → outcome ≠ .overflow →
      CountsOnce s.metrics s'.metrics (.resolution r.id) (Resolver.tally outcome) := by
  refine ⟨?_, ?_, ?_⟩
  · intro source network filters context s
    exact source.tallies_refresh network filters context s
  · intro storage lifetime artifact s s' found ran
    exact ArtifactMap.counts_get_stored ran
  · intro r query s s' outcome records ready ran ends
    exact counts_resolve records ready ran ends

/-! ## What is counted, and what is not -/

namespace Origin.PullSource

/-- The document of the source states no end of its validity, which a filter asks for. -/
theorem rejects_prepared : federation.Rejects replay [.validUntil none] pulling prepared :=
  ⟨delivered, run_pull_prepared, .group described, .ofSeconds 14400, _, loadBytes_delivered, rfl,
    rfl⟩

/-- Another filter leaves most of its entities. -/
theorem not_rejects_prepared : ¬ federation.Rejects replay choosing pulling prepared := by
  rintro ⟨delivery, pulled, document, delay, failure, loaded, -, rejected⟩
  obtain rfl : delivered = delivery :=
    Option.some_inj.1 (Outcome.ok.inj (run_pull_prepared.symm.trans pulled))
  cases loadBytes_delivered.symm.trans loaded
  cases filterDocuments_described.symm.trans rejected

end Origin.PullSource

namespace ArtifactMap

/-- A storage that holds something else under an artifact. -/
def garbled : ArtifactScope StoredTexts :=
  ⟨⟨0, 0⟩, .empty, Keyed.empty.insert (storageContext, "AR") ⟨"?", ⟨60, 0⟩⟩⟩

theorem isUnreadable_garbled : IsUnreadable StoredTexts.service "AR" garbled :=
  ⟨"?", .grammar, rfl, rfl⟩

/-- An entry for a minute. -/
def minute : ArtifactEntry := ⟨"AR", "idp", "sp", "message", ⟨60, 0⟩⟩

/-- A storage that holds the entry under its artifact. -/
def holding : ArtifactScope StoredTexts :=
  ⟨⟨0, 0⟩, .empty, Keyed.empty.insert (storageContext, "AR") ⟨minute.text, ⟨60, 0⟩⟩⟩

theorem ofText_minute : ArtifactEntry.ofText minute.text = .ok minute :=
  ArtifactEntry.ofText_text ⟨by decide, by decide, by decide, fun leap => absurd leap (by decide)⟩

theorem run_get_holding :
    ((stored StoredTexts.service .zero).get "AR").run holding
      = (.ok (some minute),
        { holding with metrics := holding.metrics.count (.artifactOperation "get" "hit") }) := by
  have kept : StoredTexts.service.read storageContext "AR" holding.now holding.contents
      = (.ok (some minute.text), holding.contents) := rfl
  have live : minute.isExpired holding.now = false := by decide
  rw [stored, run_then, run_call, kept]
  simp only [Outcome.ofExcept, proceed_ok, ofText_minute, run_then, run_read, live]
  rfl

end ArtifactMap

open Origin Origin.PullSource ArtifactMap Resolver

/-- A pull whose document is rejected leaves no trace, and neither does a reading of something
else than an entry. A pull that brings something does, and so do a reading that finds an entry and
a query that is answered. -/
theorem operations_count_once_but_two :
    ((federation.refresh replay [.validUntil none] pulling).run prepared).2.metrics
        = prepared.metrics ∧
      ((federation.refresh replay choosing pulling).run prepared).2.metrics.value
        (.originFetch "http" "success") = 1 ∧
      (((stored StoredTexts.service .zero).get "AR").run garbled).2.metrics = garbled.metrics ∧
      (((stored StoredTexts.service .zero).get "AR").run holding).2.metrics.value
        (.artifactOperation "get" "hit") = 1 ∧
      (afterQuery .standard "https://idp.example.org" (.ok (some mixedAnswer)) ⟨0, 0⟩).metrics.value
        (.resolution "r" "found") = 1 := by
  obtain ⟨pulls, readings, queries⟩ := operations_count_once
    (ε := Script) (ν := List (Except String Origin.Response)) (τ := StoredTexts)
  refine ⟨?_, ?_, ?_, ?_, ?_⟩
  · exact ((pulls federation replay [.validUntil none] pulling prepared).1 rejects_prepared).2
  · have once := (pulls federation replay choosing pulling prepared).2 not_rejects_prepared
    rw [run_refresh_prepared.1] at once
    exact once "success"
  · exact (readings StoredTexts.service .zero "AR" garbled _ none rfl).1 isUnreadable_garbled
  · have readable : ¬ IsUnreadable StoredTexts.service "AR" holding := by
      rintro ⟨text, fault, kept, refused⟩
      obtain rfl : minute.text = text := Option.some_inj.1 (Except.ok.inj kept)
      cases ofText_minute.symm.trans refused
    obtain ⟨reading, found, once⟩ :=
      (readings StoredTexts.service .zero "AR" holding _ _ run_get_holding).2 readable
    cases reading <;> cases found
    rw [run_get_holding]
    exact once "hit"
  · have ran := runs_run (rehearsed .standard).attended
      ((rehearsed .standard).resolve { entityId := some "https://idp.example.org" })
      (rehearsal "https://idp.example.org" (.ok (some mixedAnswer)) ⟨0, 0⟩)
    have once := queries (rehearsed .standard) _ _ _ _ (recordsFetches_script false true none) rfl
      ran (by decide) "found"
    have found : Resolver.tally (((rehearsed .standard).resolve
        { entityId := some "https://idp.example.org" }).run
        (rehearsal "https://idp.example.org" (.ok (some mixedAnswer)) ⟨0, 0⟩)).1 = some "found" := by
      decide
    rw [found] at once
    exact once

/-- The document of a pull is rejected, so that the pull fails, and no failure is counted. What
is under an artifact is no entry, so that a reading finds none, and no reading is counted. -/
theorem rejected_pull_and_unreadable_artifact_are_uncounted :
    let pulled := (federation.refresh replay [.validUntil none] pulling).run prepared
    let read := ((stored StoredTexts.service .zero).get "AR").run garbled
    ¬ CountsOnce prepared.metrics pulled.2.metrics (.originFetch federation.name)
        (PullSource.tally pulled.1) ∧
      read.1 = .ok none ∧
      ∀ label, ¬ CountsOnce garbled.metrics read.2.metrics (.artifactOperation "get")
        (some label) := by
  have pulled := (federation.tallies_refresh replay [.validUntil none] pulling prepared).1
    rejects_prepared
  have answered : ((stored StoredTexts.service .zero).get "AR").run garbled
      = (.ok none, (((stored StoredTexts.service .zero).get "AR").run garbled).2) := rfl
  have read := (counts_get_stored answered).1 isUnreadable_garbled
  refine ⟨fun once => ?_, rfl, fun label once => once.ne read⟩
  obtain ⟨⟨failure, failed⟩, same⟩ := pulled
  rw [failed] at once
  exact once.ne same

end Federation
