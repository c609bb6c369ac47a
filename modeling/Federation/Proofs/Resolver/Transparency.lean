/-
# Whether the cache shows

Suppose that the origin, after the filters, always describes an entity by the same list. A cache
that does not show would answer every query for the entity with the descriptions in the list that
are valid, whatever was asked, cleared and cleaned up before. Each description is recorded with an
expiration of its own, though, and while one of them is live the others are not fetched again. So
the cache shows where descriptions that are valid at the same time do not stay live together, and
only there. It never shows by a description that is not valid.

## Main definitions

- `Resolver.IsSteady`: the origin always describes an entity by the same list.
- `CachePolicy.IsSplit`: of the descriptions that are valid, some are live and some are not.
- `Resolver.RoutineReachable`: what resolving, clearing and cleaning up lead to.

## Main results

- `IsDrawn.routineNext`: what is held of the entity is left of one recording of the list.
- `transparent_iff`: when the cache does not show.
- `expired_description_is_withheld`: a list for which it shows.
-/

import Mathlib.Data.List.Basic
import Federation.Proofs.Resolver.Fetching
import Federation.Proofs.Resolver.Settled

namespace Federation

open Federation.Metadata Federation.Time Federation.Task ResolverState

/-! ## What is left of a recording -/

namespace CachePolicy

variable {policy : CachePolicy} {entities : List Entity} {now later : Instant}
  {held records : List CacheRecord}

/-- Nothing is left, or records that were made of descriptions at one time, without some that are
expired. All of them were last used at the same time, so they become idle together. -/
def IsLeft (policy : CachePolicy) (entities : List Entity) (now : Instant)
    (held : List CacheRecord) : Prop :=
  held = [] ∨ ∃ since records used keep, since ≤ now ∧ policy.records since entities = .ok records ∧
    (∀ record ∈ records, now < record.expiration → keep record = true) ∧
    held = (records.filter keep).map (.touch used)

theorem IsLeft.of_records (recorded : policy.records now entities = .ok records)
    (past : now ≤ later) : policy.IsLeft entities later records := by
  refine .inr ⟨now, records, now, fun _ => true, past, recorded, fun _ _ _ => rfl, ?_⟩
  rw [List.filter_eq_self.2 fun _ _ => rfl, map_touch_records recorded]

theorem IsLeft.mono (left : policy.IsLeft entities now held) (past : now ≤ later) :
    policy.IsLeft entities later held := by
  rcases left with nothing | ⟨since, records, used, keep, before, recorded, kept, same⟩
  · exact .inl nothing
  · refine .inr ⟨since, records, used, keep, Instant.le_trans before past, recorded, ?_, same⟩
    exact fun record made live => kept record made (Instant.lt_of_le_of_lt past live)

theorem IsLeft.touch (left : policy.IsLeft entities now held) (used : Instant) :
    policy.IsLeft entities now (held.map (.touch used)) := by
  rcases left with rfl | ⟨since, records, before_used, keep, before, recorded, kept, rfl⟩
  · exact .inl rfl
  · refine .inr ⟨since, records, used, keep, before, recorded, kept, ?_⟩
    rw [List.map_map]
    rfl

theorem exists_isIdle_touch (now used : Instant) (limit : Option Span) :
    ∃ idle, ∀ record : CacheRecord, (record.touch used).isIdle now limit = idle := by
  cases limit with
  | none => exact ⟨false, fun _ => rfl⟩
  | some limit => exact ⟨limit < now.span used, fun _ => rfl⟩

/-- Of records that were used together, either all are idle or none is. So evicting leaves
nothing, or what is not expired. -/
theorem IsLeft.evict (left : policy.IsLeft entities now held) (limit : Option Span) :
    policy.IsLeft entities now (held.filter fun record => !record.isDue now limit) := by
  rcases left with rfl | ⟨since, records, used, keep, before, recorded, kept, rfl⟩
  · exact .inl rfl
  · obtain ⟨idle, alike⟩ := exists_isIdle_touch now used limit
    have due (record : CacheRecord) :
        (record.touch used).isDue now limit = (record.isExpired now || idle) :=
      congrArg (record.isExpired now || ·) (alike record)
    cases idle with
    | true =>
      refine .inl (List.filter_eq_nil_iff.2 fun used_record listed => ?_)
      obtain ⟨record, -, rfl⟩ := List.mem_map.1 listed
      simp [due]
    | false =>
      refine .inr ⟨since, records, used, fun record => !record.isExpired now && keep record, before,
        recorded, fun record made live => ?_, ?_⟩
      · simp [CacheRecord.isExpired, Instant.not_le.2 live, kept record made live]
      · rw [List.filter_map, List.filter_filter]
        congr 1
        refine List.filter_congr fun record _ => ?_
        simp [due]

/-- What is live of what is left is what is live of the recording. -/
theorem IsLeft.map_entity_live (left : policy.IsLeft entities now held)
    (some_live : (held.filter fun record => !record.isExpired now) ≠ []) :
    ∃ since ≤ now, policy.records since entities ≠ .overflow ∧
      (held.filter fun record => !record.isExpired now).map (·.entity)
        = (entities.filter (policy.isLive since now)).map (·.withoutWireForm) := by
  rcases left with rfl | ⟨since, records, used, keep, before, recorded, kept, rfl⟩
  · exact absurd rfl some_live
  · refine ⟨since, before, by simp [recorded], ?_⟩
    rw [← map_entity_live_records recorded, List.filter_map, List.map_map, List.filter_filter]
    congr 1
    refine List.filter_congr fun record made => ?_
    show (!record.isExpired now && keep record) = !record.isExpired now
    by_cases live : now < record.expiration
    · simp [kept record made live]
    · simp [CacheRecord.isExpired, Instant.not_lt.1 live]

/-- Of the descriptions that are valid now, some are still live if all were recorded at an earlier
time, and some are not. -/
structure IsSplit (policy : CachePolicy) (entities : List Entity) (since now : Instant) :
    Prop where
  inRange : policy.records since entities ≠ .overflow
  some_live : ∃ e ∈ entities, policy.isLive since now e = true
  some_dead : ∃ e ∈ entities, e.isValidAt now = true ∧ policy.isLive since now e = false

theorem filter_isLive_sublist (policy : CachePolicy) (entities : List Entity)
    (since now : Instant) :
    (entities.filter (policy.isLive since now)).Sublist (entities.filter (·.isValidAt now)) :=
  List.monotone_filter_right entities fun _ live => isValidAt_of_isLive live

/-- All that is valid is live exactly if no more is valid than is live. -/
theorem map_isLive_eq_iff {since : Instant} :
    (entities.filter (policy.isLive since now)).map (·.withoutWireForm)
        = (entities.filter (·.isValidAt now)).map (·.withoutWireForm) ↔
      ∀ e ∈ entities, e.isValidAt now = true → policy.isLive since now e = true := by
  have sublist := filter_isLive_sublist policy entities since now
  constructor
  · intro same e listed valid
    have lengths := congrArg List.length same
    rw [List.length_map, List.length_map] at lengths
    have kept : e ∈ entities.filter (policy.isLive since now) := by
      rw [sublist.eq_of_length lengths]
      exact List.mem_filter.2 ⟨listed, valid⟩
    exact (List.mem_filter.1 kept).2
  · intro all_live
    congr 1
    refine List.filter_congr fun e listed => Bool.eq_iff_iff.2 ⟨isValidAt_of_isLive, ?_⟩
    exact all_live e listed

/-! ### Descriptions that state the same duration -/

theorem isValidAt_of_le {e : Entity} {since : Instant} (valid : e.isValidAt now = true)
    (past : since ≤ now) : e.isValidAt since = true := by
  rw [Entity.isValidAt] at valid ⊢
  cases states : e.validUntil with
  | none => rfl
  | some until_ =>
    rw [states] at valid
    exact decide_eq_true (Instant.lt_of_le_of_lt past (of_decide_eq_true valid))

/-- While a description is valid, it is live until the lifetime that began with its recording
ends. -/
theorem endOf_isLive {e : Entity} {since : Instant} {requested : Span}
    (valid : e.isValidAt now = true) :
    (match (policy.endOf e since requested).map some with
      | .ok (some expiration) => decide (now < expiration)
      | _ => false)
      = (since.add? (requested.clamp policy.shortest policy.longest)).any (now < ·) := by
  rw [endOf]
  cases since.add? (requested.clamp policy.shortest policy.longest) with
  | none => rfl
  | some expiration =>
    rw [Entity.isValidAt] at valid
    cases states : e.validUntil with
    | none => rfl
    | some until_ =>
      rw [states] at valid
      have before : now < until_ := of_decide_eq_true valid
      simp [Outcome.map, Outcome.bind, Instant.lt_earliest_iff, before]

/-- Of the descriptions that are valid, those that state the same duration are live together. -/
theorem isLive_congr {e e' : Entity} {since : Instant} (past : since ≤ now)
    (alike : e.cacheDuration = e'.cacheDuration) (valid : e.isValidAt now = true)
    (valid' : e'.isValidAt now = true) : policy.isLive since now e = policy.isLive since now e' := by
  rw [isLive, isLive, expiration, expiration, isValidAt_of_le valid past,
    isValidAt_of_le valid' past, alike]
  cases e'.cacheDuration with
  | unstated => exact (endOf_isLive valid).trans (endOf_isLive valid').symm
  | stated d => exact (endOf_isLive valid).trans (endOf_isLive valid').symm
  | unrepresentable => rfl

theorem not_isSplit_of_cacheDuration {since : Instant} (past : since ≤ now)
    (alike : ∀ e ∈ entities, ∀ e' ∈ entities, e.cacheDuration = e'.cacheDuration) :
    ¬ IsSplit policy entities since now := by
  rintro ⟨-, ⟨e, listed, live⟩, e', listed', valid', dead⟩
  have together : policy.isLive since now e = policy.isLive since now e' :=
    isLive_congr past (alike e listed e' listed') (isValidAt_of_isLive live) valid'
  cases dead.symm.trans (together.symm.trans live)

end CachePolicy

namespace Resolver

open CachePolicy

variable {ε : Type} {r : Resolver ε} {policy : CachePolicy} {s s' m : ResolverState ε}
  {id : String} {query : Criteria} {entities : List Entity} {now since : Instant}

/-! ## An origin that does not change its mind -/

/-- The origin, after the filters, always describes an entity by the descriptions of it in a list.
Asked without an ID, it may pass the entity over. -/
structure IsSteady (r : Resolver ε) (id : String) (entities : List Entity) : Prop where
  describes : ∀ query now s outcome s', query.entityId = some id →
    (r.fetchAndFilter query now).Runs (elsewhere .forward) s outcome s' →
    ∃ answer, outcome = .ok answer ∧ ownOf id (answer.getD []) = ownOf id entities
  passes : ∀ query now s answer s', query.entityId = none →
    (r.fetchAndFilter query now).Runs (elsewhere .forward) s (.ok (some answer)) s' →
    ownOf id answer = [] ∨ ownOf id answer = ownOf id entities

/-! ## What is held -/

/-- What is held of an entity is left of one recording of its descriptions, and it is believed
absent only if there are none. -/
structure IsDrawn (policy : CachePolicy) (id : String) (entities : List Entity)
    (s : ResolverState ε) : Prop where
  held : policy.IsLeft (ownOf id entities) s.now (s.store.recordsOf id)
  marked : ∀ until_, s.negative.get? id = some until_ → ownOf id entities = []

/-- How a resolver moves that holds of an entity what is drawn from a list. -/
def drawing (policy : CachePolicy) (id : String) (entities : List Entity) :
    Drift (ResolverState ε) where
  rel s s' := s.now ≤ s'.now ∧ (IsDrawn policy id entities s → IsDrawn policy id entities s')
  refl s := ⟨Instant.le_refl s.now, fun drawn => drawn⟩
  trans first second := ⟨Instant.le_trans first.1 second.1, second.2 ∘ first.2⟩

/-- What leaves the records of an entity alone and marks it no more than before. -/
theorem drawing_of_recordsOf (later : s.now ≤ s'.now)
    (held : s'.store.recordsOf id = s.store.recordsOf id)
    (marked : ∀ until_, s'.negative.get? id = some until_ → s.negative.get? id = some until_) :
    (drawing policy id entities).rel s s' := by
  refine ⟨later, fun drawn => ⟨?_, fun until_ found => drawn.marked until_ (marked until_ found)⟩⟩
  rw [held]
  exact drawn.held.mono later

/-- What takes an entity out. -/
theorem drawing_of_gone (later : s.now ≤ s'.now) (gone : s'.store.recordsOf id = [])
    (marked : ∀ until_, s'.negative.get? id = some until_ → s.negative.get? id = some until_) :
    (drawing policy id entities).rel s s' := by
  refine ⟨later, fun drawn => ⟨.inl gone, fun until_ found => ?_⟩⟩
  exact drawn.marked until_ (marked until_ found)

theorem drawing_allowsFlying (policy : CachePolicy) (id : String) (entities : List Entity)
    (other : String) :
    AllowsFlying .forward (drawing policy id entities : Drift (ResolverState ε)) other where
  below s s' moved := drawing_of_recordsOf moved.now (by rw [moved.store]) fun until_ marked =>
    moved.negative ▸ marked
  read m now := by
    refine ⟨Instant.le_refl m.now, fun drawn => ⟨?_, drawn.marked⟩⟩
    show policy.IsLeft _ m.now ((m.store.get other now).2.recordsOf id)
    rw [BackingStore.recordsOf_get]
    split
    · rename_i same
      exact same ▸ drawn.held.touch now
    · exact drawn.held
  fly m _ := ⟨Instant.le_refl m.now, fun drawn => ⟨drawn.held, drawn.marked⟩⟩

theorem drawing_below :
    (elsewhere .forward : Drift (ResolverState ε)).Below (drawing policy id entities) :=
  (drawing_allowsFlying policy id entities id).below

/-- What is done to another entity leaves what is held of this one. -/
theorem drawing_allows_of_ne {other : String} (foreign : id ≠ other) :
    Allows .forward (drawing policy id entities : Drift (ResolverState ε)) other where
  __ := drawing_allowsFlying policy id entities other
  fill m records := by
    refine drawing_of_recordsOf (Instant.le_refl m.now) ?_ fun until_ marked => ?_
    · rw [BackingStore.recordsOf_insert, if_neg foreign]
    · simpa [Keyed.get?_erase, foreign] using marked
  drop m := by
    refine drawing_of_recordsOf (Instant.le_refl m.now) ?_ fun until_ marked => marked
    rw [BackingStore.recordsOf_remove, if_neg foreign]
  mark m until_ := by
    refine drawing_of_recordsOf (Instant.le_refl m.now) rfl fun until_ marked => ?_
    simpa [Keyed.get?_insert, foreign] using marked
  retain m until_ := by
    refine drawing_of_recordsOf (Instant.le_refl m.now) ?_ fun until_ marked => marked
    rw [BackingStore.recordsOf_extendExpiration, if_neg foreign]

/-! ## Queries -/

/-- Recording the descriptions of an entity leaves what is held of it drawn from them. -/
theorem drawing_insertRecords (r : Resolver ε) (read : now ≤ s.now) :
    (r.insertRecords id (ownOf id entities) now).Ensures (elsewhere .forward) s
      ((drawing r.policy id entities).rel s) fun _ _ => True := by
  have unmoved := (drawing r.policy id entities).refl s
  refine ensures_ofOutcome_bind unmoved fun records recorded => ?_
  split
  · exact ensures_pure unmoved trivial
  · refine ensures_change_bind fun m drifted => ensures_pure ?_ trivial
    refine ⟨drifted.now, fun drawn => ⟨?_, fun until_ marked => ?_⟩⟩
    · show r.policy.IsLeft _ m.now ((m.store.insert id records).recordsOf id)
      rw [BackingStore.recordsOf_insert, if_pos rfl]
      exact .of_records recorded (Instant.le_trans read drifted.now)
    · simp [Keyed.get?_erase] at marked

/-- A query for the entity records what the origin always describes it by, or marks it as absent
if that is nothing. -/
theorem drawing_fetchEntity (steady : r.IsSteady id entities) (asked : query.entityId = some id) :
    (r.fetchEntity id query).Keeps (elsewhere .forward) (drawing r.policy id entities) := by
  have reading : AllowsReading .forward (drawing r.policy id entities : Drift (ResolverState ε)) id :=
    (drawing_allowsFlying r.policy id entities id).toAllowsReading
  -- Accepting an absence empties the entry and marks it, which is right where the origin has no
  -- description.
  have absent (none_own : ownOf id entities = []) (stale : Option (List CacheRecord))
      (now : Instant) :
      (r.acceptAbsence id stale now).Keeps (elsewhere .forward) (drawing r.policy id entities) := by
    refine keeps_acceptAbsence drawing_below (fun m => ?_) (fun m until_ => ?_) r stale
    · refine drawing_of_gone (Instant.le_refl m.now) ?_ fun until_ marked => marked
      rw [BackingStore.recordsOf_remove, if_pos rfl]
    · exact ⟨Instant.le_refl m.now, fun drawn => ⟨drawn.held, fun _ _ => none_own⟩⟩
  refine keeps_of_ensures fun s => ensures_read_bind fun m drifted => ?_
  have moved : (drawing r.policy id entities).rel s m := drawing_below s m drifted
  refine reading.keeps_recordsOf.bind_ensures_from moved fun stale m₁ moved read => ?_
  -- The origin is steady: whatever happens meanwhile, it describes the entity as before.
  have gives : ∀ outcome m₂, (r.fetchAndFilter query m.now).Runs (elsewhere .forward) m₁ outcome m₂ →
      outcome ≠ .overflow → ∃ answer, outcome = .ok answer ∧
        (drawing r.policy id entities).rel s m₂ ∧ m.now ≤ m₂.now ∧
          ownOf id (answer.getD []) = ownOf id entities := by
    intro outcome m₂ ran _
    obtain ⟨answer, rfl, same⟩ := steady.describes query m.now m₁ outcome m₂ asked ran
    have aside := keeps_fetchAndFilter r m₁ _ m₂ ran
    exact ⟨answer, rfl, (drawing r.policy id entities).trans moved (drawing_below m₁ m₂ aside),
      Instant.le_trans read.1 aside.now, same⟩
  -- It never answers out of range either.
  have stops : ∀ m₂, (r.fetchAndFilter query m.now).Runs (elsewhere .forward) m₁ .overflow m₂ →
      (drawing r.policy id entities).rel s m₂ := by
    intro m₂ ran
    obtain ⟨answer, same, -⟩ := steady.describes query m.now m₁ _ m₂ asked ran
    cases same
  refine ensures_attempt_bind_of_ok gives stops ?_
  rintro answer m₂ ⟨moved, later, same⟩
  cases answer with
  | none => exact (absent same.symm stale m.now).ensures_from moved
  | some answer =>
    dsimp only
    split
    · rename_i none_matching
      exact (absent (same.symm.trans none_matching) stale m.now).ensures_from moved
    · rw [show answer.filter (·.entityId == id) = ownOf id entities from same]
      refine ((drawing_insertRecords r later).after moved).bind fun stored m₃ moved _ => ?_
      refine ((keeps_persist r stored).widen drawing_below).bind_ensures_from moved
        fun _ m₄ moved _ => ?_
      refine ((keeps_gaugeSize r).widen drawing_below).bind_ensures_from moved
        fun _ m₅ moved _ => ?_
      exact ensures_pure moved trivial

/-- Of the groups of an answer, only that of the entity matters. If there is one, the origin
describes the entity by it as always. -/
theorem drawing_insertGroup {answer group : List Entity} {other : String}
    (passes : ownOf id answer = [] ∨ ownOf id answer = ownOf id entities)
    (grouped : (other, group) ∈ groupById answer) (read : now ≤ s.now) :
    (r.insertRecords other group now).Ensures (elsewhere .forward) s
      ((drawing r.policy id entities).rel s) fun _ _ => True := by
  by_cases same : id = other
  · subst same
    obtain ⟨e, listed, described⟩ := mem_ids_groupById.1 (List.mem_map.2 ⟨_, grouped, rfl⟩)
    have some_own : ownOf id answer ≠ [] := fun none_own =>
      ownOf_eq_nil_iff.1 none_own e listed described
    rw [eq_ownOf_of_mem_groupById grouped, passes.resolve_left some_own]
    exact drawing_insertRecords r read
  · exact ((drawing_allows_of_ne same).keeps_insertRecords r group).ensures_from
      ((drawing r.policy id entities).refl s)

/-- A query without an ID records what the origin describes the entity by, if it does. -/
theorem drawing_fetchSecondary (steady : r.IsSteady id entities) (unasked : query.entityId = none) :
    (r.fetchSecondary query).Keeps (elsewhere .forward) (drawing r.policy id entities) := by
  rw [fetchSecondary]
  split
  · exact keeps_pure []
  refine keeps_of_ensures fun s => ensures_read_bind fun m drifted => ?_
  have moved : (drawing r.policy id entities).rel s m := drawing_below s m drifted
  have aside : (r.fetchAndFilter query m.now).Ensures (elsewhere .forward) m
      ((elsewhere .forward).rel m) fun _ _ => True :=
    (keeps_fetchAndFilter r).ensures_from ((elsewhere .forward).refl m)
  refine (aside.and ensures_ran).bind_of (fun m₁ aside => ?_) fun answer m₁ aside ran => ?_
  · exact (drawing r.policy id entities).trans moved (drawing_below m m₁ aside.1)
  have later : m.now ≤ m₁.now := aside.1.now
  have moved := (drawing r.policy id entities).trans moved (drawing_below m m₁ aside.1)
  cases answer with
  | none => exact ensures_pure moved trivial
  | some answer =>
    -- Each group is inserted at the time of the answer, and the origin is steady in what it tells.
    have each : ∀ group ∈ groupById answer, ∀ m₂,
        (drawing r.policy id entities).rel m₁ m₂ →
        (do
          let stored ← r.insertRecords group.1 group.2 m.now
          r.persist stored
          return stored).Ensures (elsewhere .forward) m₂ ((drawing r.policy id entities).rel m₂)
            fun _ _ => True := by
      rintro ⟨other, group⟩ grouped m₂ before
      have inserted : (r.insertRecords other group m.now).Ensures (elsewhere .forward) m₂
          ((drawing r.policy id entities).rel m₂) fun _ _ => True :=
        drawing_insertGroup (steady.passes query m.now m answer m₁ unasked ran.2) grouped
          (Instant.le_trans later before.1)
      refine inserted.bind fun stored m₃ moved _ => ?_
      refine ((keeps_persist r stored).widen drawing_below).bind_ensures_from moved
        fun _ m₄ moved _ => ?_
      exact ensures_pure moved trivial
    refine ((ensures_collect (fun _ _ _ _ _ => trivial) each).after moved).bind
      fun stored m₂ moved _ => ?_
    refine ((keeps_gaugeSize r).widen drawing_below).bind_ensures_from moved
      fun _ m₃ moved _ => ?_
    exact ensures_pure moved trivial

theorem drawing_resolve (steady : r.IsSteady id entities) (query : Criteria) :
    (r.resolve query).Keeps (elsewhere .forward) (drawing r.policy id entities) := by
  refine keeps_resolve_of drawing_below (fun other query asked => ?_)
    fun unasked => drawing_fetchSecondary steady unasked
  by_cases same : id = other
  · subst same
    exact (drawing_allowsFlying r.policy id entities id).keeps_resolveEntityId
      (drawing_fetchEntity steady asked)
  · exact (drawing_allows_of_ne same).keeps_resolveEntityId r

/-! ## Whatever is called -/

/-- Does a call resolve, clear or clean up? -/
def Call.isRoutine : Call → Bool
  | resolve _ => true
  | clear => true
  | clearEntity _ => true
  | cleanup => true
  | _ => false

/-- The world around a resolver moves, the clock forward, or the resolver resolves, clears or
cleans up, or meets a date or duration out of range while it does. -/
inductive RoutineNext (r : Resolver ε) (s s' : ResolverState ε) : Prop where
  | elsewhere (moved : Elsewhere .forward s s')
  | call (c : Call) (routine : c.isRoutine = true) (outcome : Outcome Unit)
      (ran : (c.task r).Runs (ResolverState.elsewhere .forward) s outcome s')
      (ends : outcome ≠ .overflow)
  | overrun (c : Call) (routine : c.isRoutine = true) (m : ResolverState ε)
      (ran : (c.task r).Runs (ResolverState.elsewhere .forward) s .overflow m) (left : s' = m.unwound)

/-- An initialized resolver that holds nothing and has nothing under way. -/
structure IsBlank (s : ResolverState ε) : Prop where
  ready : s.lifecycle = .initialized
  empty : ∀ id, s.store.find? id = none
  unmarked : ∀ id, s.negative.get? id = none
  vacant : s.flights.AreVacant

/-- The states to which resolving, clearing and cleaning up lead, in whatever order. -/
def RoutineReachable (r : Resolver ε) (s : ResolverState ε) : Prop :=
  ∃ s₀, IsBlank s₀ ∧ Relation.ReflTransGen (RoutineNext r) s₀ s

theorem RoutineNext.next (step : RoutineNext r s s') : Next r .forward s s' := by
  cases step with
  | elsewhere moved => exact .elsewhere moved
  | call c _ outcome ran ends => exact .call c outcome ran ends
  | overrun c _ m ran left => exact .overrun c m ran left

theorem RoutineReachable.resolve (reached : r.RoutineReachable s) (query : Criteria)
    (ends : ((r.resolve query).run s).1 ≠ .overflow) :
    r.RoutineReachable ((r.resolve query).run s).2 := by
  obtain ⟨s₀, blank, steps⟩ := reached
  have step : RoutineNext r s (((Call.resolve query).task r).run s).2 := by
    refine .call (.resolve query) rfl _ (runs_run _ _ s) fun overflowed => ends ?_
    rw [run_resolve_call] at overflowed
    exact Outcome.map_eq_overflow.1 overflowed
  rw [run_resolve_call] at step
  exact ⟨s₀, blank, steps.tail step⟩

/-- Time passes. -/
theorem RoutineReachable.later (reached : r.RoutineReachable s) (past : s.now ≤ now) :
    r.RoutineReachable { s with now := now } := by
  obtain ⟨s₀, blank, steps⟩ := reached
  exact ⟨s₀, blank, steps.tail (.elsewhere ⟨past, rfl, rfl, rfl, rfl, rfl, rfl⟩)⟩

theorem settled_of_isRoutine (r : Resolver ε) {c : Call} (routine : c.isRoutine = true) :
    (c.task r).Keeps (elsewhere .forward) (settled .forward) := by
  have below : (elsewhere .forward : Drift (ResolverState ε)).Below (settled .forward) :=
    (settled_allows "").below
  have still (m : ResolverState ε) := Instant.le_refl m.now
  cases c with
  | resolve query => exact (settled_resolve r).bind fun _ => keeps_pure ()
  | clear => exact keeps_clear below (fun m => ⟨still m, rfl, rfl, rfl⟩) r
  | clearEntity other => exact keeps_clearEntity below (fun m => ⟨still m, rfl, rfl, rfl⟩) r
  | cleanup =>
    exact (keeps_cleanup below (fun m _ => ⟨still m, rfl, rfl, rfl⟩) r).bind fun _ => keeps_pure ()
  | _ => cases routine

theorem drawing_of_isRoutine (steady : r.IsSteady id entities) {c : Call}
    (routine : c.isRoutine = true) :
    (c.task r).Keeps (elsewhere .forward) (drawing r.policy id entities) := by
  cases c with
  | resolve query => exact (drawing_resolve steady query).bind fun _ => keeps_pure ()
  | clear =>
    refine keeps_clear drawing_below (fun m => ?_) r
    refine drawing_of_gone (Instant.le_refl m.now) ?_ fun until_ marked => by cases marked
    rw [BackingStore.recordsOf, BackingStore.find?_clear]
    rfl
  | clearEntity other =>
    refine keeps_clearEntity drawing_below (fun m => ?_) r
    -- Clearing an entity takes markers away and sets none.
    have marked (until_ : Instant) (found : (m.negative.erase other).get? id = some until_) :
        m.negative.get? id = some until_ := by
      rw [Keyed.get?_erase] at found
      split at found
      · cases found
      · exact found
    by_cases same : id = other
    · refine drawing_of_gone (Instant.le_refl m.now) ?_ marked
      rw [BackingStore.recordsOf_remove, if_pos same]
    · refine drawing_of_recordsOf (Instant.le_refl m.now) ?_ marked
      rw [BackingStore.recordsOf_remove, if_neg same]
  | cleanup =>
    refine (keeps_cleanup drawing_below (fun m limit => ?_) r).bind fun _ => keeps_pure ()
    refine ⟨Instant.le_refl m.now, fun drawn => ⟨?_, fun until_ marked => ?_⟩⟩
    -- A cleanup evicts one entity after another.
    · refine BackingStore.cleanup_induction
        (P := fun store => r.policy.IsLeft (ownOf id entities) m.now (store.recordsOf id))
        (fun store other left => ?_) drawn.held
      rw [BackingStore.recordsOf_evict]
      split
      · rename_i same
        exact same ▸ left.evict limit
      · exact left
    · refine drawn.marked until_ ?_
      have kept := (Keyed.get?_filter m.negative (fun _ until_ => m.now < until_) id).symm.trans marked
      exact (Option.filter_eq_some_iff.1 kept).1
  | _ => cases routine

/-- A step leaves what is held of the entity drawn from the list. -/
theorem IsDrawn.routineNext (steady : r.IsSteady id entities) (step : RoutineNext r s s')
    (drawn : IsDrawn r.policy id entities s) : IsDrawn r.policy id entities s' := by
  cases step with
  | elsewhere moved => exact (drawing_below s s' moved).2 drawn
  | call c routine outcome ran ends =>
    exact (drawing_of_isRoutine steady routine s outcome s' ran).2 drawn
  | overrun c routine m ran left =>
    have drawn := (drawing_of_isRoutine steady routine s _ m ran).2 drawn
    exact left ▸ ⟨drawn.held, drawn.marked⟩

/-- A resolver after any number of steps: it is initialized, has nothing under way, and what it
holds of the entity is drawn from the list. -/
theorem RoutineReachable.isDrawn (reached : r.RoutineReachable s) (steady : r.IsSteady id entities) :
    s.lifecycle = .initialized ∧ s.flights.AreVacant ∧ IsDrawn r.policy id entities s := by
  obtain ⟨s₀, blank, steps⟩ := reached
  induction steps with
  | refl =>
    refine ⟨blank.ready, blank.vacant, .inl ?_, fun until_ marked => ?_⟩
    · rw [BackingStore.recordsOf, blank.empty]
      rfl
    · cases (blank.unmarked id).symm.trans marked
  | tail _ step ih =>
    obtain ⟨ready, vacant, drawn⟩ := ih
    refine ⟨?_, step.next.vacant vacant, drawn.routineNext steady step⟩
    cases step with
    | elsewhere moved => exact moved.lifecycle.trans ready
    | call c routine outcome ran ends =>
      exact (settled_of_isRoutine r routine _ outcome _ ran).lifecycle.trans ready
    | overrun c routine m ran left =>
      rw [left]
      exact (settled_of_isRoutine r routine _ _ m ran).lifecycle.trans ready

/-! ## What a query for the entity finds -/

/-- What comes of a query for an entity and nothing else. -/
def found (r : Resolver ε) (id : String) (s : ResolverState ε) : Outcome (List Entity) :=
  ((r.resolve { entityId := some id }).run s).1

/-- The dates that taking in a list of descriptions of an entity computes are in range: their
expirations, or, if there is none, the end of the belief in its absence. -/
def IsRecordable (policy : CachePolicy) (id : String) (entities : List Entity) (now : Instant) :
    Prop :=
  policy.records now (ownOf id entities) ≠ .overflow ∧
    (ownOf id entities = [] → ∀ duration, policy.negative = some duration →
      now.add? duration ≠ none)

theorem found_of_held (r : Resolver ε) (ready : s.lifecycle = .initialized)
    (held : ¬ Misses s id) : r.found id s = .ok (liveOf s id) := by
  have kept : r.found id s = _ := (run_resolve r ready rfl).1
  obtain ⟨metrics, ran⟩ := run_resolveEntityId_of_held r { entityId := some id } held
  rw [kept, ran]
  rfl

/-- A query that comes to the origin is answered as the list says. -/
theorem found_of_misses (steady : r.IsSteady id entities) (unpersisted : r.persistence = none)
    (ready : s.lifecycle = .initialized) (vacant : s.flights.AreVacant) (missing : Misses s id) :
    r.found id s = .ok (validOf id entities s.now) ∨
      (r.found id s = .overflow ∧ ¬ IsRecordable r.policy id entities s.now) := by
  have same : r.found id s = _ := (run_resolve r ready rfl).1
  obtain ⟨m, asking, outcome, -⟩ := exists_isAsking r { entityId := some id } vacant missing
  obtain ⟨m', -, -, ran⟩ := run_fetchEntity r id { entityId := some id } m
  obtain ⟨answer, answered, own⟩ :=
    steady.describes { entityId := some id } m.now m _ _ rfl (runs_run _ _ m)
  have answered : r.answer { entityId := some id } m = .ok answer := answered
  rw [answered, asking.now] at ran
  -- An absence is accepted where the origin answers nothing, and where it describes other entities
  -- only.
  have absent (none_own : ownOf id entities = []) (stale : Option (List CacheRecord))
      (fetched : (r.fetchEntity id { entityId := some id }).run m
        = (r.acceptAbsence id stale s.now).run m') :
      r.found id s = .ok (validOf id entities s.now) ∨
        (r.found id s = .overflow ∧ ¬ IsRecordable r.policy id entities s.now) := by
    rw [same, outcome, fetched]
    rcases run_acceptAbsence r unpersisted stale with
      gone | ⟨overflowed, duration, believed, beyond⟩
    · rw [gone, validOf, none_own]
      exact .inl rfl
    · rw [overflowed]
      exact .inr ⟨rfl, fun recordable => recordable.2 none_own duration believed beyond⟩
  cases answer with
  | none => exact absent own.symm _ ran
  | some answer =>
    dsimp only at ran
    have own : ownOf id answer = ownOf id entities := own
    rw [own] at ran
    by_cases none_own : ownOf id entities = []
    · rw [if_pos none_own] at ran
      exact absent none_own _ ran
    · rw [if_neg none_own] at ran
      rw [same, outcome, ran, run_acceptDescriptions r unpersisted]
      cases recorded : r.policy.records s.now (ownOf id entities) with
      | ok records =>
        refine .inl ?_
        rw [validOf, ← map_entity_records recorded]
        rfl
      | failed failure => exact absurd recorded (records_ne_failed failure)
      | overflow => exact .inr ⟨rfl, fun recordable => recordable.1 recorded⟩

/-- A query for the entity is answered as the list says, or with those of its descriptions that
are still live of an earlier recording. -/
theorem found_of_isDrawn (steady : r.IsSteady id entities) (unpersisted : r.persistence = none)
    (ready : s.lifecycle = .initialized) (vacant : s.flights.AreVacant)
    (drawn : IsDrawn r.policy id entities s) :
    (r.found id s = .ok (validOf id entities s.now) ∨
      (r.found id s = .overflow ∧ ¬ IsRecordable r.policy id entities s.now)) ∨
      ∃ since ≤ s.now, r.policy.records since (ownOf id entities) ≠ .overflow ∧
        (∃ e ∈ ownOf id entities, r.policy.isLive since s.now e = true) ∧
        r.found id s = .ok (((ownOf id entities).filter (r.policy.isLive since s.now)).map
          (·.withoutWireForm)) := by
  by_cases missing : Misses s id
  · exact .inl (found_of_misses steady unpersisted ready vacant missing)
  · have answered := found_of_held r ready missing
    by_cases some_live : liveOf s id = []
    -- It is a marker that answers, and there is one only if there is nothing to answer with.
    · refine .inl (.inl ?_)
      cases marked : s.negative.get? id with
      | some until_ =>
        rw [answered, some_live, validOf, drawn.marked until_ marked]
        rfl
      | none =>
        refine absurd ⟨liveOf_eq_nil_iff.1 some_live, fun until_ found => ?_⟩ missing
        cases marked.symm.trans found
    · have some_kept : ((s.store.recordsOf id).filter fun record => !record.isExpired s.now) ≠ [] :=
        fun none_kept => some_live (by rw [liveOf, none_kept]; rfl)
      obtain ⟨since, before, inRange, same⟩ := drawn.held.map_entity_live some_kept
      refine .inr ⟨since, before, inRange, ?_, ?_⟩
      · have live : (ownOf id entities).filter (r.policy.isLive since s.now) ≠ [] := by
          intro none_live
          rw [none_live, List.map_nil, List.map_eq_nil_iff] at same
          exact some_kept same
        obtain ⟨e, listed⟩ := List.exists_mem_of_ne_nil _ live
        exact ⟨e, (List.mem_filter.1 listed).1, (List.mem_filter.1 listed).2⟩
      · rw [answered, liveOf, same]

/-! ## When the cache does not show -/

/-- A query for an entity is answered with the valid ones of some descriptions, in their order,
unless it takes them in and a date is out of range. -/
def AnswersAs (r : Resolver ε) (id : String) (entities : List Entity) (s : ResolverState ε) : Prop :=
  r.found id s = .ok (validOf id entities s.now) ∨
    (r.found id s = .overflow ∧ ¬ IsRecordable r.policy id entities s.now)

/-- The first query for an entity that is always described alike records its descriptions, unless
none of them is worth it. -/
theorem held_of_isBlank (steady : r.IsSteady id entities) (unpersisted : r.persistence = none)
    (blank : IsBlank s) (asked : query.entityId = some id) {records : List CacheRecord}
    (recorded : r.policy.records s.now (ownOf id entities) = .ok records)
    (some_made : records ≠ []) :
    ((r.resolve query).run s).1 ≠ .overflow ∧
      ((r.resolve query).run s).2.store.find? id = some records := by
  have missing : Misses s id := by
    refine ⟨fun record listed => ?_, fun until_ marked => ?_⟩
    · rw [BackingStore.recordsOf, blank.empty id] at listed
      cases listed
    · cases (blank.unmarked id).symm.trans marked
  have described : ownOf id entities ≠ [] := by
    intro none_own
    rw [none_own] at recorded
    exact some_made (Outcome.ok.inj recorded).symm
  obtain ⟨answer, answered, own⟩ :=
    steady.describes query s.now (r.counted s) _ _ asked (runs_run _ _ (r.counted s))
  cases answer with
  | none => exact absurd own.symm described
  | some answer =>
    have own : ownOf id answer = ownOf id entities := own
    rw [← own] at recorded described
    have first : ((r.resolve query).run s).1 = _ :=
      run_resolve_of_document r blank.vacant blank.ready asked missing answered described recorded
        unpersisted
    have finished : ((r.resolve query).run s).1 ≠ .overflow := by simp [first]
    refine ⟨finished, ?_⟩
    rcases held_of_document r blank.vacant blank.ready asked missing answered finished with
      ⟨none_own, -⟩ | ⟨-, records', recorded', held⟩
    · exact absurd none_own described
    · obtain rfl := Outcome.ok.inj (recorded'.symm.trans recorded)
      rwa [if_neg some_made] at held

/-- A list of descriptions that are recorded at one time, and asked for again at a later one, when
some of those that are valid are live and some are not. -/
theorem exists_shows_of_isSplit [Nonempty ε] (steady : r.IsSteady id entities)
    (unpersisted : r.persistence = none) (past : since ≤ now)
    (split : IsSplit r.policy (ownOf id entities) since now) :
    ∃ s, r.RoutineReachable s ∧ ¬ r.AnswersAs id entities s := by
  obtain ⟨origin⟩ := ‹Nonempty ε›
  obtain ⟨inRange, ⟨live, live_listed, still_live⟩, dead, dead_listed, valid, not_live⟩ := split
  let query : Criteria := { entityId := some id }
  let s₀ : ResolverState ε :=
    { ResolverState.start [] (.memory (.empty false)) origin since with lifecycle := .initialized }
  let s₁ := ((r.resolve query).run s₀).2
  let s₂ : ResolverState ε := { s₁ with now := now }
  have blank : IsBlank s₀ :=
    ⟨rfl, fun _ => rfl, fun _ => rfl, Flights.areVacant_of_all_eq_nil rfl⟩
  obtain ⟨records, recorded⟩ := CachePolicy.exists_records inRange
  have later := map_entity_live_records recorded now
  have some_later : (records.filter fun record => !record.isExpired now) ≠ [] := by
    intro none_later
    rw [none_later] at later
    have kept := List.mem_filter.2 ⟨live_listed, still_live⟩
    rw [List.map_eq_nil_iff.1 later.symm] at kept
    cases kept
  have some_made : records ≠ [] := fun none_made => some_later (by rw [none_made]; rfl)
  -- The first query records the list.
  have asked : query.entityId = some id := rfl
  obtain ⟨finished, held⟩ :=
    held_of_isBlank steady unpersisted blank asked recorded some_made
  have reached : r.RoutineReachable s₂ := by
    refine (RoutineReachable.resolve ⟨s₀, blank, .refl⟩ query finished).later ?_
    rw [← (run_resolve_settled r query).now]
    exact past
  refine ⟨s₂, reached, ?_⟩
  -- The second query is answered with what is live, which is not all that is valid.
  have live_now : liveOf s₂ id
      = ((ownOf id entities).filter (r.policy.isLive since now)).map (·.withoutWireForm) := by
    rw [liveOf, BackingStore.recordsOf_eq_of_find? (s := s₂.store) held]
    exact later
  have answered : r.found id s₂ = .ok (liveOf s₂ id) := by
    refine found_of_held r (reached.isDrawn steady).1 fun again => ?_
    rw [liveOf_eq_nil_iff.2 again.expired, eq_comm, List.map_eq_nil_iff] at live_now
    have kept := List.mem_filter.2 ⟨live_listed, still_live⟩
    rw [live_now] at kept
    cases kept
  rintro (same | ⟨overflowed, -⟩)
  · rw [answered, live_now] at same
    have all_live := map_isLive_eq_iff.1 (Outcome.ok.inj same) dead dead_listed valid
    cases not_live.symm.trans all_live
  · cases answered.symm.trans overflowed

/-- **When the cache does not show.** Let the origin always describe an entity by the same list.
After any resolving, clearing and cleaning up under a clock that goes forward, a query for the
entity is answered with some of the descriptions that are valid, in their order. It is always
answered with all of them exactly if there are no two times, between which some of the
descriptions expire before others although they stay valid. -/
theorem transparent_iff [Nonempty ε] (steady : r.IsSteady id entities)
    (unpersisted : r.persistence = none) :
    (∀ s, r.RoutineReachable s →
      (∃ answer, r.found id s = .ok answer ∧ answer.Sublist (validOf id entities s.now)) ∨
        (r.found id s = .overflow ∧ ¬ IsRecordable r.policy id entities s.now)) ∧
    ((∀ s, r.RoutineReachable s → r.AnswersAs id entities s) ↔
      ∀ since now, since ≤ now → ¬ IsSplit r.policy (ownOf id entities) since now) := by
  have cases_of (s : ResolverState ε) (reached : r.RoutineReachable s) := by
    obtain ⟨ready, vacant, drawn⟩ := reached.isDrawn steady
    exact found_of_isDrawn steady unpersisted ready vacant drawn
  refine ⟨fun s reached => ?_, fun transparent since now past split => ?_, fun unsplit s reached => ?_⟩
  · rcases cases_of s reached with (same | overflowed) | ⟨since, -, -, -, partly⟩
    · exact .inl ⟨_, same, .refl _⟩
    · exact .inr overflowed
    · exact .inl ⟨_, partly, (filter_isLive_sublist r.policy _ since s.now).map _⟩
  · obtain ⟨s, reached, shows⟩ := exists_shows_of_isSplit steady unpersisted past split
    exact shows (transparent s reached)
  · rcases cases_of s reached with same | ⟨since, before, inRange, some_live, partly⟩
    · exact same
    · refine .inl (partly.trans (congrArg Outcome.ok (map_isLive_eq_iff.2 fun e listed valid => ?_)))
      rw [← Bool.not_eq_false]
      exact fun dead => unsplit since s.now before ⟨inRange, some_live, e, listed, valid, dead⟩

/-! ### At work -/

/-- A resolver whose origin knows nothing but some descriptions, which have been through the
filters. -/
def describing (entities : List Entity) : Resolver Unit where
  id := "r"
  policy := .standard
  origin :=
    { fetch _ := pure (some (.group (.ofEntities entities)))
      refresh _ _ := pure .notApplicable
      isPrefiltered := true
      isSecondary := false
      retryDelay := none }
  filters := []
  warmFilters := []
  persistence := none

theorem isSteady_describing (id : String) (entities : List Entity) :
    (describing entities).IsSteady id (Document.group (.ofEntities entities)).flatten where
  describes query now s outcome s' _ ran := ⟨_, ran.1, rfl⟩
  passes query now s answer s' _ ran := by
    obtain ⟨same, -⟩ := ran
    exact .inr (by rw [Option.some_inj.1 (Outcome.ok.inj same)])

/-- A description that may be cached for some seconds. -/
def cachedFor (seconds : Nat) (registrar : Option String) : Entity :=
  { Entity.ofId "https://idp.example.org" with cacheSeconds := some seconds, registrar := registrar }

/-- Two descriptions of one entity that may be cached equally long. -/
theorem transparent_of_two_alike :
    let entities := [cachedFor 600 none, cachedFor 600 (some "https://federation.example.org")]
    ∀ s, (describing entities).RoutineReachable s →
      (describing entities).AnswersAs "https://idp.example.org" entities s := by
  intro entities
  have alike : ∀ e ∈ entities, ∀ e' ∈ entities, e.cacheDuration = e'.cacheDuration := by decide
  refine (transparent_iff (isSteady_describing _ entities) rfl).2.2 fun since now past => ?_
  exact CachePolicy.not_isSplit_of_cacheDuration past alike

/-- Of two descriptions of one entity, one may be cached longer. When the other has expired, the
one that is live is taken for all there is, although the origin would still give both. -/
theorem expired_description_is_withheld :
    let entities := [cachedFor 600 none, cachedFor 3600 (some "https://federation.example.org")]
    let r := describing entities
    let s₀ : ResolverState Unit :=
      { ResolverState.start [] (.memory (.empty false)) () ⟨0, 0⟩ with lifecycle := .initialized }
    let s := { ((r.resolve { entityId := some "https://idp.example.org" }).run s₀).2 with
      now := ⟨700, 0⟩ }
    r.IsSteady "https://idp.example.org" entities ∧ r.persistence = none ∧
      r.RoutineReachable s ∧
      validOf "https://idp.example.org" entities s.now = entities ∧
      r.found "https://idp.example.org" s
        = .ok [cachedFor 3600 (some "https://federation.example.org")] := by
  intro entities r s₀ s
  have blank : IsBlank s₀ :=
    ⟨rfl, fun _ => rfl, fun _ => rfl, Flights.areVacant_of_all_eq_nil rfl⟩
  have finished : ((r.resolve { entityId := some "https://idp.example.org" }).run s₀).1 ≠ .overflow := by
    decide
  refine ⟨isSteady_describing _ entities, rfl, ?_, by decide, by decide⟩
  refine (RoutineReachable.resolve ⟨s₀, blank, .refl⟩ _ finished).later ?_
  rw [← (run_resolve_settled r _).now]
  decide

end Resolver

end Federation
