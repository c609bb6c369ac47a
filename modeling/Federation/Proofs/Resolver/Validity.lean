/-
# What is held and served beyond its validity

A record is made to end with the validity of its description. Only the extension of expired
records after a failure of the origin does not look at the validity. So a policy that drops
them holds and serves nothing beyond its validity, and a policy that retains them does both.

## Main results

- `Reachable.isBounded`: how far every record reaches, under any policy.
- `served_valid`: what is served is valid, or the policy retains.
- `withinValidity_iff_evict`: which policies hold and serve nothing beyond its validity.
- `withdrawn_description_is_served`: a policy that retains, at work.
-/

import Federation.Proofs.Resolver.Fetching
import Federation.Proofs.Resolver.Settled
import Federation.Proofs.Resolver.Soundness
import Federation.Proofs.Time.Range

namespace Federation

open Federation.Metadata Federation.Time Federation.Task ResolverState

/-! ## How far records reach -/

/-- A record expires with its description at the latest, unless it was retained for the
interval of the policy. -/
def CacheRecord.IsBounded (policy : CachePolicy) (reading : Instant → Prop)
    (record : CacheRecord) : Prop :=
  ∀ until_, record.entity.validUntil = some until_ → record.expiration ≤ until_ ∨
    ∃ interval now, policy.onFailure = .retain interval ∧ reading now ∧
      now.add? interval = some record.expiration

namespace Holdings

variable {policy : CachePolicy} {reading : Instant → Prop} {now : Instant} {h h' : Holdings}

/-- No step makes a record reach further than that. -/
theorem isBounded_step (taken : CacheStep policy now h h') (read : reading now)
    (bounded : h.store.Satisfies fun _ => CacheRecord.IsBounded policy reading) :
    h'.store.Satisfies fun _ => CacheRecord.IsBounded policy reading := by
  cases taken with
  | read id => exact bounded.get fun _ bounded => bounded
  | fill id entities records own recorded some_valid =>
    refine bounded.insert fun record made until_ states => ?_
    exact .inl (CachePolicy.expiration_le_of_mem_records recorded made states)
  | drop id => exact bounded.remove
  | mark id duration until_ believed reached absent => exact bounded
  -- Only here is an expiration set without a look at the validity.
  | keep id interval until_ retained reached =>
    refine bounded.extendExpiration fun record bounded valid states => ?_
    rw [CacheRecord.extend, Instant.latest]
    split
    · exact .inr ⟨interval, now, retained, read, reached⟩
    · exact bounded valid states
  | forget id => exact bounded.remove
  | clear => exact bounded.clear
  | sweep => exact bounded.cleanup

theorem isBounded_course (course : Course policy reading h h')
    (bounded : h.store.Satisfies fun _ => CacheRecord.IsBounded policy reading) :
    h'.store.Satisfies fun _ => CacheRecord.IsBounded policy reading :=
  course.preserves (fun _ _ _ read taken bounded => isBounded_step taken read bounded) bounded

end Holdings

namespace Resolver

variable {ε : Type} {clock : Drift Instant} {s s' : ResolverState ε} {query : Criteria}

/-- **How far records reach.** Whatever the calls and the answers of the origin, a record
expires with its description at the latest, unless it was retained after a failure. -/
theorem Reachable.isBounded {r : Resolver ε} (reached : Reachable r clock s) :
    s.store.Satisfies fun _ => CacheRecord.IsBounded r.policy (clock.rel · s.now) := by
  obtain ⟨indexes, course⟩ := reached.course
  exact Holdings.isBounded_course course (BackingStore.satisfies_empty indexes)

/-- What is held and has expired is missed, since it is not believed absent. -/
theorem Reachable.misses_of_expired {r : Resolver ε} (reached : Reachable r clock s) {id : String}
    {records : List CacheRecord} (found : s.store.find? id = some records)
    (expired : ∀ record ∈ records, record.expiration ≤ s.now) : Misses s id := by
  constructor
  · rw [BackingStore.recordsOf_eq_of_find? found]
    exact expired
  · intro until_ marked
    rcases reached.isSound.apart id with absent | unmarked
    · cases found.symm.trans absent
    · cases marked.symm.trans unmarked

/-- What is served is valid when the query begins, or the policy retains. -/
theorem served_valid (r : Resolver ε) (reached : Reachable r .forward s) {es : List Entity}
    (ran : (r.resolve query).Runs (elsewhere .forward) s (.ok es) s') {e : Entity} (listed : e ∈ es)
    {until_ : Instant} (states : e.validUntil = some until_) :
    s.now < until_ ∨ ∃ interval, r.policy.onFailure = .retain interval := by
  have answered := ensures_resolve r reached.vacant _ s' ran
  obtain ⟨now, h, id, since, course, -, record, held, rfl, reason⟩ := (answered.2 es rfl e listed).1
  have bounded : h.store.Satisfies fun _ => CacheRecord.IsBounded r.policy fun _ => True := by
    obtain ⟨indexes, before⟩ := reached.course
    refine Holdings.isBounded_course (course.mono fun _ _ => trivial) ?_
    exact Holdings.isBounded_course (before.mono fun _ _ => trivial)
      (BackingStore.satisfies_empty indexes)
  rcases reason with live | valid | retained
  · rcases bounded id record held until_ states with ends | ⟨interval, -, retained, -⟩
    · exact .inl (Instant.lt_of_le_of_lt since (Instant.lt_of_lt_of_le live ends))
    · exact .inr ⟨interval, retained⟩
  -- What was just fetched was valid when it was recorded.
  · rw [Entity.isValidAt, states] at valid
    refine .inl (Instant.lt_of_le_of_lt since ?_)
    simpa using valid
  · exact .inr retained

/-! ## A description that lapses

Under a policy with modest durations that retains, the rehearsal fetches a description that is
valid for a second, and asks for it again long afterwards, when the origin fails. -/

/-- The durations for which a policy keeps records are modest. -/
structure KeepsModestly (policy : CachePolicy) : Prop where
  shortest : policy.shortest.IsModest
  longest : policy.longest.IsModest
  interval : ∀ interval, policy.onFailure = .retain interval → interval.IsModest

/-- A description that is valid for a second. -/
def lapsing : Entity := (Entity.ofId "https://idp.example.org").withValidUntil ⟨1, 0⟩

/-- The rehearsal, long after the description was fetched. -/
def lapsed (policy : CachePolicy) : ResolverState Origin.Script :=
  later (afterQuery policy "https://idp.example.org" (.ok (some (.entity lapsing))) ⟨0, 0⟩)
    "https://idp.example.org" (.error (.fetchFailed "down")) ⟨10000000000, 0⟩

variable {policy : CachePolicy}

/-- The description is recorded when it comes, until the end of its validity at most. -/
theorem records_lapsing (modest : KeepsModestly policy) :
    ∃ record, policy.records ⟨0, 0⟩ [lapsing] = .ok [record] ∧ record.entity = lapsing ∧
      record.expiration ≤ ⟨1, 0⟩ := by
  have kept : (policy.longest.clamp policy.shortest policy.longest).IsModest :=
    modest.shortest.clamp modest.longest policy.longest
  obtain ⟨t, reached, -⟩ := Instant.exists_add? (t := ⟨0, 0⟩) (by decide) (by decide) kept
  have ends : policy.endOf lapsing ⟨0, 0⟩ policy.longest = .ok (t.earliest ⟨1, 0⟩) := by
    rw [CachePolicy.endOf, reached]
    rfl
  have expires : policy.expiration lapsing ⟨0, 0⟩ = .ok (some (t.earliest ⟨1, 0⟩)) := by
    show (policy.endOf lapsing ⟨0, 0⟩ policy.longest).map some = _
    rw [ends]
    rfl
  refine ⟨⟨lapsing, t.earliest ⟨1, 0⟩, ⟨0, 0⟩⟩, ?_, rfl, Instant.earliest_le_right _ _⟩
  rw [CachePolicy.records, CachePolicy.record, expires]
  rfl

/-- What the query for the description leaves. -/
theorem exists_fetched (modest : KeepsModestly policy) :
    let s := rehearsal "https://idp.example.org" (.ok (some (.entity lapsing))) ⟨0, 0⟩
    let asked := ((rehearsed policy).resolve { entityId := some "https://idp.example.org" }).run s
    ∃ record, record.entity = lapsing ∧ record.expiration ≤ ⟨1, 0⟩ ∧ asked.1 = .ok [lapsing] ∧
      asked.2.store.find? "https://idp.example.org" = some [record] := by
  intro s asked
  obtain ⟨record, recorded, same, ends⟩ := records_lapsing modest
  have before : Reachable (rehearsed policy) .forward s := reachable_rehearsal _ _ _ _ _
  have missing : Misses s "https://idp.example.org" := by
    constructor
    · intro record listed
      cases listed
    · intro until_ marked
      cases marked
  have answered : (rehearsed policy).answer { entityId := some "https://idp.example.org" }
      ((rehearsed policy).counted s) = .ok (some [lapsing]) := rfl
  have ran : asked.1 = .ok [lapsing] := by
    rw [← same]
    exact run_resolve_of_document _ before.vacant rfl rfl missing answered (by decide) recorded rfl
  have finished : asked.1 ≠ .overflow := ne_of_eq_of_ne ran (by simp)
  refine ⟨record, same, ends, ran, ?_⟩
  rcases held_of_document _ before.vacant rfl rfl missing answered finished with
    ⟨foreign, -⟩ | ⟨-, records, recorded', left⟩
  · exact absurd foreign (by decide)
  · obtain rfl := Outcome.ok.inj (recorded.symm.trans recorded')
    exact left

/-- The description is held when it has lapsed. -/
theorem exists_lapsed (modest : KeepsModestly policy) :
    ∃ record, record.entity = lapsing ∧ Reachable (rehearsed policy) .forward (lapsed policy) ∧
      (lapsed policy).lifecycle = .initialized ∧ Misses (lapsed policy) "https://idp.example.org" ∧
      (lapsed policy).store.find? "https://idp.example.org" = some [record] := by
  obtain ⟨record, same, ends, ran, found⟩ := exists_fetched modest
  have finished := ne_of_eq_of_ne ran (by simp : Outcome.ok [lapsing] ≠ .overflow)
  let query : Criteria := { entityId := some "https://idp.example.org" }
  let s := rehearsal "https://idp.example.org" (.ok (some (.entity lapsing))) ⟨0, 0⟩
  have settled : Settled .stopped s (((rehearsed policy).resolve query).run s).2 :=
    run_resolve_settled _ query
  have reached : Reachable (rehearsed policy) .forward (lapsed policy) := by
    refine Reachable.later ((reachable_rehearsal _ _ _ _ _).next (.resolve _ _ finished)) ?_ _ _
    rw [← settled.now]
    exact (by decide : (⟨0, 0⟩ : Instant) ≤ ⟨10000000000, 0⟩)
  refine ⟨record, same, reached, settled.lifecycle, reached.misses_of_expired found ?_, found⟩
  intro other listed
  obtain rfl := List.mem_singleton.1 listed
  exact Instant.le_trans ends (by decide : (⟨1, 0⟩ : Instant) ≤ ⟨10000000000, 0⟩)

/-- Under a policy that retains, the description is served all the same when the origin fails,
and kept for longer. -/
theorem exists_kept_beyond_validity (modest : KeepsModestly policy) {interval : Span}
    (retained : policy.onFailure = .retain interval) :
    ∃ s s' record, Reachable (rehearsed policy) .forward s ∧
      ((rehearsed policy).resolve { entityId := some "https://idp.example.org" }).Runs
        (elsewhere .forward) s (.ok [lapsing]) s' ∧
      Reachable (rehearsed policy) .forward s' ∧ ⟨1, 0⟩ ≤ s.now ∧
      record ∈ s'.store.recordsOf "https://idp.example.org" ∧ record.entity = lapsing ∧
      ⟨1, 0⟩ < record.expiration := by
  obtain ⟨record, same, reached, ready, missing, found⟩ := exists_lapsed modest
  let query : Criteria := { entityId := some "https://idp.example.org" }
  let s := lapsed policy
  -- A century before that time is still long after the end of the validity.
  obtain ⟨until_, extended, after, -⟩ := Instant.exists_add? (t := ⟨10000000000, 0⟩) (by decide)
    (by decide) (modest.interval interval retained)
  have failed : (rehearsed policy).answer query ((rehearsed policy).counted s)
      = .failed (.resolutionFailed query.shown (.fetchFailed "down")) := rfl
  obtain ⟨served, kept⟩ := run_resolve_of_failure _ reached.vacant ready rfl missing found failed
    retained extended
  have served : (((rehearsed policy).resolve query).run s).1 = .ok [lapsing] := by
    rw [served]
    show Outcome.ok [record.entity] = _
    rw [same]
  have ends : (((rehearsed policy).resolve query).run s).1 ≠ .overflow := by simp [served]
  refine ⟨s, _, (record.touch s.now).extend until_, reached, runs_of_run_eq (Prod.ext served rfl),
    reached.next (.resolve _ query ends), (by decide : (⟨1, 0⟩ : Instant) ≤ ⟨10000000000, 0⟩), ?_,
    same, ?_⟩
  · rw [BackingStore.recordsOf_eq_of_find? kept]
    exact List.mem_singleton_self _
  · have later : until_ ≤ ((record.touch s.now).extend until_).expiration :=
      (Instant.latest_le_iff.1 (Instant.le_refl _)).2
    refine Instant.lt_of_lt_of_le ?_ later
    rw [Instant.lt_iff]
    dsimp only at after ⊢
    omega

/-! ## Policies -/

/-- Under a policy, no record expires after the validity of its description. -/
def HoldsWithinValidity (policy : CachePolicy) : Prop :=
  ∀ (ε : Type) (r : Resolver ε) (s : ResolverState ε), r.policy = policy →
    Reachable r .forward s → ∀ id, ∀ record ∈ s.store.recordsOf id, ∀ until_,
      record.entity.validUntil = some until_ → record.expiration ≤ until_

/-- Under a policy, no description is served whose validity is over. -/
def ServesWithinValidity (policy : CachePolicy) : Prop :=
  ∀ (ε : Type) (r : Resolver ε) (s : ResolverState ε), r.policy = policy →
    Reachable r .forward s → ∀ query es s',
      (r.resolve query).Runs (elsewhere .forward) s (.ok es) s' → ∀ e ∈ es, ∀ until_,
        e.validUntil = some until_ → s.now < until_

theorem withinValidity_of_evict (evicting : policy.onFailure = .evict) :
    HoldsWithinValidity policy ∧ ServesWithinValidity policy := by
  constructor
  · rintro ε r s rfl reached id record listed until_ states
    rcases reached.isBounded id record listed until_ states with ends | ⟨i, -, retained, -⟩
    · exact ends
    · cases evicting.symm.trans retained
  · rintro ε r s rfl reached query es s' ran e listed until_ states
    rcases served_valid r reached ran listed states with valid | ⟨i, retained⟩
    · exact valid
    · cases evicting.symm.trans retained

theorem beyondValidity_of_retain (modest : KeepsModestly policy) {interval : Span}
    (retained : policy.onFailure = .retain interval) :
    ¬ HoldsWithinValidity policy ∧ ¬ ServesWithinValidity policy := by
  obtain ⟨s, s', record, reached, ran, reached', past, listed, same, beyond⟩ :=
    exists_kept_beyond_validity modest retained
  have states : record.entity.validUntil = some ⟨1, 0⟩ := by rw [same]; rfl
  constructor
  · intro holds
    have ends := holds _ _ s' rfl reached' _ record listed _ states
    exact Instant.not_le.2 beyond ends
  · intro serves
    have valid := serves _ _ s rfl reached _ _ s' ran lapsing List.mem_cons_self ⟨1, 0⟩ rfl
    exact Instant.not_lt.2 past valid

/-- **Which policies stay within validity.** A policy that drops expired records when the
origin fails holds no record that outlives its description and serves none that is not valid.
Of policies whose durations are within a century, no other does either. Under any policy the
records that outlive their descriptions are those that were retained. -/
theorem withinValidity_iff_evict (policy : CachePolicy) :
    (policy.onFailure = .evict → HoldsWithinValidity policy ∧ ServesWithinValidity policy) ∧
    (KeepsModestly policy →
      (HoldsWithinValidity policy ↔ policy.onFailure = .evict) ∧
      (ServesWithinValidity policy ↔ policy.onFailure = .evict)) ∧
    ∀ (ε : Type) (r : Resolver ε) (s : ResolverState ε), r.policy = policy →
      Reachable r .forward s →
        s.store.Satisfies fun _ => CacheRecord.IsBounded policy (· ≤ s.now) := by
  refine ⟨withinValidity_of_evict, fun modest => ?_, ?_⟩
  · cases onFailure : policy.onFailure with
    | evict =>
      obtain ⟨holds, serves⟩ := withinValidity_of_evict onFailure
      exact ⟨iff_of_true holds rfl, iff_of_true serves rfl⟩
    | retain interval =>
      obtain ⟨outlives, outdated⟩ := beyondValidity_of_retain modest onFailure
      exact ⟨iff_of_false outlives (by simp), iff_of_false outdated (by simp)⟩
  · rintro ε r s rfl reached
    exact reached.isBounded

/-- A description that is valid for a quarter of an hour and cached for ten minutes is
retained for ten more when the origin fails meanwhile, and served when it is not valid any
longer, although the origin has withdrawn it. -/
theorem withdrawn_description_is_served :
    let r := rehearsed .standard
    let query : Criteria := { entityId := some "https://idp.example.org" }
    let brief := { Entity.ofId "https://idp.example.org" with
      validUntil := some ⟨900, 0⟩, cacheSeconds := some 600 }
    let fetched := afterQuery .standard "https://idp.example.org" (.ok (some (.entity brief)))
      ⟨0, 0⟩
    let failing := later fetched "https://idp.example.org" (.error (.fetchFailed "down")) ⟨720, 0⟩
    let retained := ((r.resolve query).run failing).2
    let withdrawn := later retained "https://idp.example.org" (.ok none) ⟨960, 0⟩
    Reachable r .forward withdrawn ∧
      (withdrawn.store.recordsOf "https://idp.example.org").map (·.expiration) = [⟨1320, 0⟩] ∧
      ((r.resolve query).run withdrawn).1 = .ok [brief] := by
  intro r query brief fetched failing retained withdrawn
  have started := reachable_rehearsal .forward .standard "https://idp.example.org"
    (.ok (some (.entity brief))) ⟨0, 0⟩
  have fetching : Reachable r .forward fetched := started.next (.resolve r query (by decide))
  have ticked : fetched.now ≤ ⟨720, 0⟩ := by decide
  have waiting : Reachable r .forward failing := fetching.later ticked _ _
  have retaining : Reachable r .forward retained := waiting.next (.resolve r query (by decide))
  have ticked : retained.now ≤ ⟨960, 0⟩ := by decide
  exact ⟨retaining.later ticked _ _, by decide, by decide⟩

end Resolver

end Federation
