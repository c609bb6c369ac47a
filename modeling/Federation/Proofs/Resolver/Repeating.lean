/-
# Asking again at once

A query for an entity that has been answered is answered the same if it is asked again at once, and
the origin is not asked a second time: for either something that is live is in the store by then, or
the entity is believed absent. This is so where a policy is lasting, so that nothing ends the moment
it begins. There is one exception. If the origin describes the entity and no description is valid
any longer, nothing is stored, but the entity is not believed absent either. Then every query for it
comes to the origin.

## Main definitions

- `CachePolicy.IsLasting`: a policy under which nothing ends the moment it begins.
- `Settles`: what is held of an entity answers queries for it.
- `BringsOutdated`: the origin describes an entity, but no description is valid any longer.

## Main results

- `settles_of_resolveEntityId`: what is held after a query, apart from the exception.
- `begun_of_misses`: a query that misses is one fetch.
- `repeats_unless_outdated`: when a query that is asked again is answered the same without a fetch.
- `outdated_entity_is_fetched_again`: the exception, at work.
-/

import Federation.Proofs.Resolver.Fetching
import Federation.Proofs.Resolver.Settled
import Federation.Proofs.Resolver.Sharing
import Federation.Proofs.Resolver.Soundness

namespace Federation

open Federation.Metadata Federation.Time Federation.Task ResolverState

/-- A policy under which nothing ends the moment it begins: neither a record, nor the belief in the
absence of an entity, nor the time for which a record is retained after a failure. -/
structure CachePolicy.IsLasting (policy : CachePolicy) : Prop where
  shortest : .zero < policy.shortest
  negative : ∃ duration, policy.negative = some duration ∧ .zero < duration
  interval : ∀ interval, policy.onFailure = .retain interval → .zero < interval

namespace Resolver

variable {ε : Type} {clock : Drift Instant} {s m : ResolverState ε} {now : Instant} {id : String}
  {query : Criteria} {entities es all : List Entity} {records : List CacheRecord}

theorem ordered_of_check {r : Resolver ε} (checked : r.check = .ok ()) :
    r.policy.shortest ≤ r.policy.longest := by
  rw [check] at checked
  split at checked
  · cases checked
  · split at checked
    · cases checked
    · split at checked
      · cases checked
      · rename_i ordered
        exact Int.not_lt.1 ordered

/-! ## What answers by itself -/

/-- What is held of an entity answers queries for it, with some descriptions: they are live, or
there is none and the entity is believed absent. -/
structure Settles (s : ResolverState ε) (id : String) (es : List Entity) : Prop where
  live : liveOf s id = es
  marked : es = [] → ∃ until_, s.negative.get? id = some until_ ∧ s.now < until_

theorem Settles.not_misses (settles : Settles s id es) : ¬ Misses s id := by
  intro missing
  obtain ⟨until_, marked, future⟩ :=
    settles.marked (settles.live ▸ liveOf_eq_nil_iff.2 missing.expired)
  exact Instant.not_lt.2 (missing.unmarked until_ marked) future

theorem settles_of_not_misses (held : ¬ Misses s id) : Settles s id (liveOf s id) where
  live := rfl
  marked none_live := by
    by_contra unmarked
    refine held ⟨liveOf_eq_nil_iff.1 none_live, fun until_ marked => ?_⟩
    exact Instant.not_lt.1 fun future => unmarked ⟨until_, marked, future⟩

/-- Records that are live settle what they describe. -/
theorem settles_of_live (found : s.store.find? id = some records) (some_made : records ≠ [])
    (live : ∀ record ∈ records, s.now < record.expiration) :
    Settles s id (records.map (·.entity)) where
  live := by
    rw [liveOf, BackingStore.recordsOf_eq_of_find? found, List.filter_eq_self.2]
    intro record listed
    simpa [CacheRecord.isExpired, Instant.not_le] using live record listed
  marked none_made := absurd (List.map_eq_nil_iff.1 none_made) some_made

/-- So does a marker in force, if nothing is stored. -/
theorem settles_of_marked {until_ : Instant} (absent : s.store.find? id = none)
    (marked : s.negative.get? id = some until_) (future : s.now < until_) : Settles s id [] where
  live := by
    rw [liveOf, BackingStore.recordsOf, absent]
    rfl
  marked _ := ⟨until_, marked, future⟩

theorem Settles.congr (settles : Settles s id es) (live : liveOf m id = liveOf s id)
    (negative : m.negative = s.negative) (now : m.now = s.now) : Settles m id es where
  live := live.trans settles.live
  marked none_live := by
    rw [negative, now]
    exact settles.marked none_live

/-! ## What a query leaves behind -/

/-- Descriptions of which none is valid leave everything as it was. -/
theorem run_acceptDescriptions_of_outdated (r : Resolver ε) (id : String) (s : ResolverState ε)
    (recorded : r.policy.records now entities = .ok []) :
    ∃ metrics, (r.acceptDescriptions id entities now).run s
      = (.ok [], { s with metrics := metrics }) := by
  have unkept : r.persist ([] : List Entity) = (pure () : Task (ResolverState ε) Unit) := by
    rw [persist]
    cases r.persistence <;> rfl
  rw [acceptDescriptions, insertRecords, recorded]
  simp only [run_then, run_ofOutcome, proceed_ok, List.isEmpty_nil, if_true, run_pure, unkept]
  exact ⟨_, rfl⟩

/-- Records are made of descriptions unless none of these is valid. -/
theorem records_eq_nil_iff {policy : CachePolicy}
    (recorded : policy.records now (ownOf id entities) = .ok records) :
    records = [] ↔ validOf id entities now = [] := by
  rw [validOf, ← CachePolicy.map_entity_records recorded, List.map_eq_nil_iff]

/-- An entity that is absent is believed to be, which settles it. -/
theorem settles_of_acceptAbsence (r : Resolver ε) (lasting : r.policy.IsLasting)
    {stale : Option (List CacheRecord)} (held : s.store.find? id = stale)
    (given : ((r.acceptAbsence id stale now).run s).1 = .ok es)
    (still : now = ((r.acceptAbsence id stale now).run s).2.now) :
    Settles ((r.acceptAbsence id stale now).run s).2 id es := by
  have ran := runs_run (elsewhere .anyhow) (r.acceptAbsence id stale now) s
  obtain ⟨unstored, left⟩ := ensures_absent r held _ _ ran
  obtain ⟨rfl, marked⟩ := left es given
  obtain ⟨duration, believed, positive⟩ := lasting.negative
  obtain ⟨until_, reached, marked⟩ := marked duration believed
  exact settles_of_marked unstored marked (still ▸ Instant.lt_of_add? positive reached)

/-- The records that are made of descriptions settle an entity, if any is made. -/
theorem settles_of_acceptDescriptions (r : Resolver ε) (lasting : r.policy.IsLasting)
    (ordered : r.policy.shortest ≤ r.policy.longest)
    (some_made : r.policy.records now entities ≠ .ok [])
    (given : ((r.acceptDescriptions id entities now).run s).1 = .ok es)
    (still : now = ((r.acceptDescriptions id entities now).run s).2.now) :
    Settles ((r.acceptDescriptions id entities now).run s).2 id es := by
  cases recorded : r.policy.records now entities with
  | failed failure => exact absurd recorded (CachePolicy.records_ne_failed failure)
  | overflow =>
    rw [acceptDescriptions, insertRecords, recorded] at given
    cases given
  | ok records =>
    have ran := runs_run (elsewhere .anyhow) (r.acceptDescriptions id entities now) s
    obtain ⟨found, left⟩ := ensures_cached r recorded _ _ ran
    obtain rfl := left es given
    have some_made : records ≠ [] := by
      rintro rfl
      exact some_made recorded
    rw [if_neg some_made] at found
    refine settles_of_live found some_made fun record made => ?_
    rw [← still]
    exact CachePolicy.lt_expiration_of_mem_records lasting.shortest ordered recorded made

/-- After a failure it is records that were retained that are served, and they are live again. -/
theorem settles_of_acceptFailure (r : Resolver ε) (lasting : r.policy.IsLasting)
    {stale : Option (List CacheRecord)} {failure : Failure} (held : s.store.find? id = stale)
    (inhabited : stale ≠ some [])
    (given : ((r.acceptFailure id stale now failure).run s).1 = .ok es)
    (still : now = ((r.acceptFailure id stale now failure).run s).2.now) :
    Settles ((r.acceptFailure id stale now failure).run s).2 id es := by
  have ran := runs_run (elsewhere .anyhow) (r.acceptFailure id stale now failure) s
  obtain ⟨-, served⟩ := ensures_stale r _ _ ran
  obtain ⟨records, interval, rfl, retained, rfl⟩ := served es given
  cases reached : now.add? interval with
  | none =>
    -- There is no such instant, and then nothing is returned.
    rw [acceptFailure, retained] at given
    dsimp only at given
    rw [reached] at given
    cases given
  | some until_ =>
    rw [run_acceptFailure_of_retain r retained reached] at still ⊢
    have found : (s.store.extendExpiration id until_).2.find? id
        = some (records.map (.extend until_)) := by
      rw [BackingStore.find?_extendExpiration, if_pos rfl, held]
      rfl
    have some_held : records.map (CacheRecord.extend until_) ≠ [] := by
      rintro none_held
      exact inhabited (by rw [List.map_eq_nil_iff.1 none_held])
    have same : (records.map (CacheRecord.extend until_)).map (·.entity) = records.map (·.entity) := by
      rw [List.map_map]
      rfl
    rw [← same]
    refine settles_of_live found some_held fun record listed => ?_
    obtain ⟨old, -, rfl⟩ := List.mem_map.1 listed
    rw [← still]
    -- Retention lasts for a while, so that the records are live at the time.
    have later : now < until_ := Instant.lt_of_add? (lasting.interval interval retained) reached
    exact Instant.lt_of_lt_of_le later (Instant.latest_le_iff.1 (Instant.le_refl _)).2

/-- An entity that was fetched, with whatever came of it, is settled, unless the origin describes
it and no description is valid any longer. -/
theorem settles_of_fetchEntity (r : Resolver ε) (lasting : r.policy.IsLasting)
    (ordered : r.policy.shortest ≤ r.policy.longest) (inhabited : s.store.find? id ≠ some [])
    (given : ((r.fetchEntity id query).run s).1 = .ok es)
    (current : ∀ entities, r.answer query s = .ok (some entities) → ownOf id entities ≠ [] →
      validOf id entities s.now ≠ []) :
    Settles ((r.fetchEntity id query).run s).2 id es := by
  have still : s.now = ((r.fetchEntity id query).run s).2.now :=
    ((settled_allows id).keeps_fetchEntity r s _ _ (runs_run (elsewhere .stopped) _ s)).now
  have held : (r.answeredState id query s).store.find? id = (reading s id).store.find? id := rfl
  rw [run_fetchEntity_answered] at given still ⊢
  cases asked : r.answer query s with
  | overflow =>
    rw [asked] at given
    cases given
  | failed failure =>
    rw [asked] at given still
    refine settles_of_acceptFailure r lasting held (fun empty => ?_) given still
    rw [find?_reading, Option.map_eq_some_iff] at empty
    obtain ⟨records, found, none_held⟩ := empty
    exact inhabited (List.map_eq_nil_iff.1 none_held ▸ found)
  | ok document =>
    rw [asked] at given still
    cases document with
    | none => exact settles_of_acceptAbsence r lasting held given still
    | some entities =>
      dsimp only at given still ⊢
      by_cases foreign : ownOf id entities = []
      · rw [if_pos foreign] at given still ⊢
        exact settles_of_acceptAbsence r lasting held given still
      · rw [if_neg foreign] at given still ⊢
        refine settles_of_acceptDescriptions r lasting ordered (fun none_made => ?_) given still
        -- No records are made of an answer only if nothing in it is valid.
        exact current entities asked foreign ((records_eq_nil_iff none_made).1 rfl)

/-- The origin is asked for an entity and describes it, but no description is valid any longer. -/
structure BringsOutdated (r : Resolver ε) (query : Criteria) (id : String) (s : ResolverState ε) :
    Prop where
  missing : Misses s id
  described : ∃ entities, r.answer query (r.counted s) = .ok (some entities) ∧
    ownOf id entities ≠ [] ∧ validOf id entities s.now = []

/-- Whatever comes of a query for an entity settles it, apart from that. -/
theorem settles_of_resolveEntityId (r : Resolver ε) (vacant : s.flights.AreVacant)
    (inhabited : s.store.find? id ≠ some []) (lasting : r.policy.IsLasting)
    (ordered : r.policy.shortest ≤ r.policy.longest)
    (given : ((r.resolveEntityId id query).run s).1 = .ok es)
    (current : ¬ r.BringsOutdated query id s) :
    Settles ((r.resolveEntityId id query).run s).2 id es := by
  by_cases missing : Misses s id
  · obtain ⟨m, flights, asking, ran⟩ := exists_isAsking_run r query vacant missing
    rw [ran] at given ⊢
    have inhabited := asking.find?_ne_some_nil inhabited
    have settled := settles_of_fetchEntity r lasting ordered inhabited given ?_
    · exact settled.congr rfl rfl rfl
    · intro entities answered own outdated
      rw [asking.answer] at answered
      exact current ⟨missing, entities, answered, own, asking.now ▸ outdated⟩
  · obtain ⟨metrics, ran⟩ := run_resolveEntityId_of_held r query missing
    rw [ran] at given ⊢
    obtain rfl := Outcome.ok.inj given
    exact (settles_of_not_misses missing).congr (liveOf_reading (s := s) id) rfl rfl

/-- In that case an entity is missing afterwards as it was before. -/
theorem misses_of_bringsOutdated (r : Resolver ε) (vacant : s.flights.AreVacant)
    (outdated : r.BringsOutdated query id s)
    (given : ((r.resolveEntityId id query).run s).1 = .ok es) :
    Misses ((r.resolveEntityId id query).run s).2 id := by
  obtain ⟨missing, entities, answered, own, none_valid⟩ := outdated
  obtain ⟨m, flights, asking, ran⟩ := exists_isAsking_run r query vacant missing
  have fetched := run_fetchEntity_answered r id query m
  rw [asking.answer, answered] at fetched
  dsimp only at fetched
  rw [if_neg own, asking.now] at fetched
  rw [ran, fetched] at given ⊢
  cases recorded : r.policy.records s.now (ownOf id entities) with
  | failed failure => exact absurd recorded (CachePolicy.records_ne_failed failure)
  | overflow =>
    rw [acceptDescriptions, insertRecords, recorded] at given
    cases given
  | ok records =>
    obtain rfl := (records_eq_nil_iff recorded).2 none_valid
    obtain ⟨metrics, left⟩ :=
      run_acceptDescriptions_of_outdated r id (r.answeredState id query m) recorded
    have asked_missing := asking.misses missing
    rw [left]
    exact ⟨asked_missing.reading.expired, asked_missing.unmarked⟩

/-! ## What is noted of a query -/

section Noted

variable {r : Resolver ε} {t t' : ResolverState (Tally × ε)}

/-- Nothing is noted. -/
def Unnoted (t t' : ResolverState (Tally × ε)) : Prop := t'.origin.1 = t.origin.1

theorem unnoted_of_quiet (t t' : ResolverState (Tally × ε)) (quiet : Quiet t t') : Unnoted t t' :=
  quiet.tally

/-- A change that does not reach the origin, and what follows it. -/
theorem unnoted_change_bind {α : Type}
    {f : ResolverState (Tally × ε) → ResolverState (Tally × ε)}
    {k : Unit → Task (ResolverState (Tally × ε)) α} (aside : ∀ t, (f t).origin = t.origin)
    (next : (k ()).Within Unnoted True True) : (change f >>= k).Within Unnoted True True := by
  have changed : (change f).Within Unnoted True True :=
    within_change fun t => congrArg Prod.fst (aside t)
  exact changed.bind fun _ => next

theorem unnoted_acceptAbsence (r : Resolver (Tally × ε)) (stale : Option (List CacheRecord)) :
    (r.acceptAbsence id stale now).Within Unnoted True True := by
  have marked : (r.acceptAbsence id none now).Within Unnoted True True := by
    rw [acceptAbsence]
    cases r.policy.negative with
    | none => exact within_pure []
    | some duration =>
      refine (within_ofOutcome _).bind fun until_ => ?_
      exact unnoted_change_bind (fun _ => rfl) (within_pure [])
  cases stale with
  | none => exact marked
  | some records =>
    refine unnoted_change_bind (fun _ => rfl) ?_
    refine ((within_gaugeSize r).mono unnoted_of_quiet).bind fun _ => ?_
    exact ((within_unpersist r records).mono unnoted_of_quiet).bind fun _ => marked

theorem unnoted_acceptDescriptions (r : Resolver (Tally × ε)) (entities : List Entity) :
    (r.acceptDescriptions id entities now).Within Unnoted True True := by
  have inserted : (r.insertRecords id entities now).Within Unnoted True True := by
    refine (within_ofOutcome _).bind fun records => ?_
    split
    · exact within_pure []
    · exact unnoted_change_bind (fun _ => rfl) (within_pure _)
  refine inserted.bind fun stored => ?_
  refine ((within_persist r stored).mono unnoted_of_quiet).bind fun _ => ?_
  exact ((within_gaugeSize r).mono unnoted_of_quiet).bind fun _ => within_pure stored

theorem unnoted_acceptFailure (r : Resolver (Tally × ε)) (stale : Option (List CacheRecord))
    (failure : Failure) : (r.acceptFailure id stale now failure).Within Unnoted True True := by
  cases stale with
  | none => exact trivial
  | some records =>
    rw [acceptFailure]
    cases r.policy.onFailure with
    | retain interval =>
      refine (within_ofOutcome _).bind fun until_ => ?_
      exact unnoted_change_bind (fun _ => rfl) (within_pure _)
    | evict =>
      refine unnoted_change_bind (fun _ => rfl) ?_
      refine ((within_gaugeSize r).mono unnoted_of_quiet).bind fun _ => ?_
      exact ((within_unpersist r records).mono unnoted_of_quiet).bind fun _ => trivial

/-- Fetching an entity is one fetch. -/
theorem begun_fetchEntity (r : Resolver ε) (asked : query.entityId = some id)
    (t : ResolverState (Tally × ε)) :
    ((r.watched.fetchEntity id query).run t).2.origin.1.begun = id :: t.origin.1.begun := by
  have noted : (r.watched.answeredState id query t).origin.1.begun = id :: t.origin.1.begun :=
    Origin.begun_watched_fetch asked _
  have rest {α : Type} {task : Task (ResolverState (Tally × ε)) α}
      (within : task.Within Unnoted True True) :
      (task.run (r.watched.answeredState id query t)).2.origin.1.begun = id :: t.origin.1.begun := by
    have unnoted := within.run (fun _ => rfl) (fun _ _ _ first second => second.trans first)
      (r.watched.answeredState id query t)
    rw [unnoted, noted]
  rw [run_fetchEntity_answered]
  split
  · exact rest (unnoted_acceptFailure _ _ _)
  · exact rest (unnoted_acceptAbsence _ _)
  · split
    · exact rest (unnoted_acceptAbsence _ _)
    · exact rest (unnoted_acceptDescriptions _ _)
  · exact noted

/-- A query that misses is one fetch. -/
theorem begun_of_misses (r : Resolver ε) (vacant : t.flights.AreVacant)
    (ready : t.lifecycle = .initialized) (asked : query.entityId = some id)
    (missing : Misses t id) :
    ((r.watched.resolve query).run t).2.origin.1.begun = id :: t.origin.1.begun := by
  obtain ⟨metrics, ran⟩ := exists_run_resolve r.watched ready asked
  obtain ⟨m, flights, asking, fetched⟩ := exists_isAsking_run r.watched query vacant missing
  have same : m.origin = t.origin := congrArg OriginScope.state asking.part
  rw [ran, fetched]
  exact (begun_fetchEntity r asked m).trans (by rw [same])

/-- A query that does not miss is none. -/
theorem run_resolve_of_settles (r : Resolver ε) (ready : s.lifecycle = .initialized)
    (asked : query.entityId = some id) (settles : Settles s id es) :
    ((r.resolve query).run s).1 = .ok (keepRole query es) ∧
      ((r.resolve query).run s).2.origin = s.origin := by
  obtain ⟨metrics, ran⟩ := exists_run_resolve r ready asked
  obtain ⟨metrics', answered⟩ := run_resolveEntityId_of_held r query settles.not_misses
  rw [ran, answered, settles.live]
  exact ⟨rfl, rfl⟩

end Noted

/-! ## Asking twice -/

/-- **When asking again is no fetch.** Under a policy that is lasting, a query for an entity that has
been answered is answered the same if it is asked again at the same instant, whatever has become of
the origin and the persistent cache, and the origin is not asked. This fails only if the first
query came to the origin and all the descriptions of the entity that the origin gave had ceased to
be valid. Then the second query is another fetch. -/
theorem repeats_unless_outdated (r : Resolver ε) {s m : ResolverState (Tally × ε)}
    (reached : Reachable r.watched clock s) (ready : s.lifecycle = .initialized)
    (checked : r.check = .ok ()) (lasting : r.policy.IsLasting) (asked : query.entityId = some id)
    (answered : ((r.watched.resolve query).run s).1 = .ok es)
    (still : Elsewhere .stopped ((r.watched.resolve query).run s).2 m) :
    let again := (r.watched.resolve query).run m
    (¬ r.watched.BringsOutdated query id s →
      again.1 = .ok es ∧ again.2.origin.1.begun = m.origin.1.begun) ∧
    (r.watched.BringsOutdated query id s →
      again.2.origin.1.begun = id :: m.origin.1.begun) := by
  have ends : ((r.watched.resolve query).run s).1 ≠ .overflow := by
    rw [answered]
    simp
  have vacant_after := (reached.next (.resolve r.watched query ends)).vacant
  have ready_after : m.lifecycle = .initialized :=
    still.lifecycle.trans ((run_resolve_settled r.watched query).lifecycle.trans ready)
  have now_after : m.now = ((r.watched.resolve query).run s).2.now := still.now.symm
  obtain ⟨metrics, ran⟩ := exists_run_resolve r.watched ready asked
  rw [ran] at answered still now_after vacant_after
  obtain ⟨all, given, rfl⟩ := Outcome.map_eq_ok.1 answered
  refine ⟨fun current => ?_, fun outdated => ?_⟩
  · -- What was found is kept, or nothing was found and that is marked: either answers the query
    -- again.
    have settled := settles_of_resolveEntityId r.watched reached.vacant
      (reached.isSound.inhabited id) lasting (ordered_of_check checked) given current
    have settled : Settles m id all :=
      settled.congr (liveOf_congr still.store now_after) still.negative now_after
    obtain ⟨same, unasked⟩ := run_resolve_of_settles r.watched ready_after asked settled
    exact ⟨same, by rw [unasked]⟩
  · -- Nothing was kept of what was brought, and no absence was marked.
    have missing := misses_of_bringsOutdated r.watched reached.vacant outdated given
    refine begun_of_misses r (still.flights ▸ vacant_after) ready_after asked ⟨?_, ?_⟩
    · rw [still.store, now_after]
      exact missing.expired
    · rw [still.negative, now_after]
      exact missing.unmarked

/-! ### At work -/

/-- The rehearsal, with an origin that is watched. -/
def watchedRehearsal (answer : Except Failure (Option Document)) :
    ResolverState (Tally × Origin.Script) :=
  { ResolverState.start [] (.memory (.empty false))
      (Tally.empty, answering "https://idp.example.org" answer) ⟨0, 0⟩ with
    lifecycle := .initialized }

theorem reachable_watchedRehearsal (answer : Except Failure (Option Document)) :
    Reachable (rehearsed .standard).watched .forward (watchedRehearsal answer) := by
  have ran : (Call.prepare.task (rehearsed .standard).watched).Runs (elsewhere .forward)
      (.start [] (.memory (.empty false))
        (Tally.empty, answering "https://idp.example.org" answer) ⟨0, 0⟩) (.ok ())
      (watchedRehearsal answer) := Task.runs_of_run_eq rfl
  exact ⟨_, _, _, _, .single (.call .prepare _ ran (by simp))⟩

theorem isLasting_standard : CachePolicy.standard.IsLasting where
  shortest := by decide
  negative := ⟨_, rfl, by decide⟩
  interval := by
    rintro _ ⟨⟩
    decide

/-- The rehearsal, nine hours after the entity was fetched, when the origin fails. -/
def failingLater : ResolverState (Tally × Origin.Script) :=
  let fetched := (((rehearsed .standard).watched.resolve
    { entityId := some "https://idp.example.org" }).run
      (watchedRehearsal (.ok (some (.entity (.ofId "https://idp.example.org")))))).2
  { fetched with
    now := ⟨32400, 0⟩
    origin := (fetched.origin.1,
      answering "https://idp.example.org" (.error (.fetchFailed "down"))) }

theorem reachable_failingLater :
    Reachable (rehearsed .standard).watched .forward failingLater := by
  have ticked : (⟨0, 0⟩ : Instant) ≤ ⟨32400, 0⟩ := by decide
  have fetched := (reachable_watchedRehearsal
    (.ok (some (.entity (.ofId "https://idp.example.org"))))).next
      (.resolve _ { entityId := some "https://idp.example.org" } (by decide))
  exact fetched.next (.elsewhere ⟨ticked, rfl, rfl, rfl, rfl, rfl, rfl⟩)

/-- A copy that is served because the origin fails is served again without another fetch. -/
theorem stale_entity_is_not_fetched_again :
    let query : Criteria := { entityId := some "https://idp.example.org" }
    let r := (rehearsed .standard).watched
    let first := (r.resolve query).run failingLater
    let again := (r.resolve query).run first.2
    first.1 = .ok [.ofId "https://idp.example.org"] ∧
      again.1 = .ok [.ofId "https://idp.example.org"] ∧
      again.2.origin.1.begun = ["https://idp.example.org", "https://idp.example.org"] := by
  intro query r first again
  have served : first.1 = .ok [.ofId "https://idp.example.org"] := by decide
  have failing : r.answer query (r.counted failingLater)
      = .failed (.resolutionFailed query.shown (.fetchFailed "down")) := by decide
  have current : ¬ r.BringsOutdated query "https://idp.example.org" failingLater := by
    rintro ⟨-, entities, described, -⟩
    cases failing.symm.trans described
  have begun : first.2.origin.1.begun
      = ["https://idp.example.org", "https://idp.example.org"] := by decide
  have ready : failingLater.lifecycle = .initialized := by decide
  have quiet : Elsewhere .stopped first.2 first.2 := (elsewhere .stopped).refl _
  obtain ⟨same, unasked⟩ := (repeats_unless_outdated (rehearsed .standard)
    reachable_failingLater ready rfl isLasting_standard rfl served quiet).1 current
  refine ⟨served, same, ?_⟩
  rw [unasked]
  exact begun

/-- An entity whose only description has ceased to be valid is fetched again at once. -/
theorem outdated_entity_is_fetched_again :
    let query : Criteria := { entityId := some "https://idp.example.org" }
    let r := rehearsed .standard
    let s := watchedRehearsal
      (.ok (some (.entity ((Entity.ofId "https://idp.example.org").withValidUntil ⟨-3600, 0⟩))))
    let first := (r.watched.resolve query).run s
    let again := (r.watched.resolve query).run first.2
    Reachable r.watched .forward s ∧ s.lifecycle = .initialized ∧ r.check = .ok () ∧
      r.policy.IsLasting ∧ first.1 = .ok [] ∧ again.1 = .ok [] ∧
      first.2.origin.1.begun = ["https://idp.example.org"] ∧
      again.2.origin.1.begun = ["https://idp.example.org", "https://idp.example.org"] :=
  ⟨reachable_watchedRehearsal _, rfl, rfl, isLasting_standard, by decide, by decide, by decide,
    by decide⟩

end Resolver

end Federation
