/-
# Replacing all that is cached

When an origin that loads everything at once has new entities, what was cached is dropped, and
their descriptions are recorded group by group, each group the descriptions of one entity.
Which group comes first does not matter. Nothing of what was dropped comes back: every record
there is afterwards was made on this occasion.

## Main results

- `Stocks`: the store holds what is recorded of some descriptions, and nothing else.
- `ensures_replaceBy`: replacing everything by groups, in any order, stocks the store with them.
-/

import Federation.Proofs.Resolver.Fetching

namespace Federation

open Federation.Metadata Federation.Time Federation.Task ResolverState

namespace ResolverState

variable {ε : Type} {clock : Drift Instant} {s s' : ResolverState ε}

/-- Records were put in or taken out, and markers taken out; nothing else was done. -/
structure Restocked (clock : Drift Instant) (s s' : ResolverState ε) : Prop where
  now : clock.rel s.now s'.now
  lifecycle : s'.lifecycle = s.lifecycle
  flights : s'.flights = s.flights
  status : s'.status = s.status
  warmUp : s'.warmUp = s.warmUp
  unmarked : s.negative = .empty → s'.negative = .empty
  indexes : s'.store.indexes = s.store.indexes
  filed : s.store.IsFiled → s'.store.IsFiled

/-- How a resolver moves while its store is restocked. -/
def restocking (clock : Drift Instant) : Drift (ResolverState ε) where
  rel := Restocked clock
  refl s := ⟨clock.refl s.now, rfl, rfl, rfl, rfl, id, rfl, id⟩
  trans first second :=
    ⟨clock.trans first.now second.now, second.lifecycle.trans first.lifecycle,
      second.flights.trans first.flights, second.status.trans first.status,
      second.warmUp.trans first.warmUp, second.unmarked ∘ first.unmarked,
      second.indexes.trans first.indexes, second.filed ∘ first.filed⟩

theorem below_restocking : (elsewhere clock : Drift (ResolverState ε)).Below (restocking clock) :=
  fun _ _ moved =>
    ⟨moved.now, moved.lifecycle, moved.flights, moved.status, moved.warmUp, moved.negative.trans,
      by rw [moved.store], fun filed => moved.store ▸ filed⟩

end ResolverState

namespace Resolver

variable {ε : Type} {clock : Drift Instant} {s s' : ResolverState ε} {now : Instant}
  {id : String} {entities : List Entity} {groups : List (String × List Entity)}

/-! ## What is in stock -/

/-- Of every entity exactly those records are held that are made of its descriptions among some,
at a reading of the clock. These are records of the descriptions that are valid then, in their
order. Nothing is believed absent. -/
structure Stocks (r : Resolver ε) (entities : List Entity) (now : Instant)
    (s : ResolverState ε) : Prop where
  recorded : ∀ id, r.policy.records now (ownOf id entities) = .ok (s.store.recordsOf id)
  held : ∀ id, s.store.descriptionsOf id = validOf id entities now
  present : ∀ id, (s.store.find? id).isSome = true ↔
    ∃ e ∈ entities, e.entityId = id ∧ e.isValidAt now = true
  unmarked : s.negative = .empty

/-- An entity is in the store with the records that are made of some descriptions; if none is
made, it is not in the store. -/
def HasRecorded (r : Resolver ε) (entities : List Entity) (now : Instant) (s : ResolverState ε)
    (id : String) : Prop :=
  ∃ records, r.policy.records now entities = .ok records ∧
    s.store.find? id = if records = [] then none else some records

theorem stocks_of_hasRecorded {r : Resolver ε}
    (recorded : ∀ id, r.HasRecorded (ownOf id entities) now s id)
    (unmarked : s.negative = .empty) : r.Stocks entities now s := by
  have made (id : String) :
      r.policy.records now (ownOf id entities) = .ok (s.store.recordsOf id) ∧
        ((s.store.find? id).isSome = true ↔ s.store.recordsOf id ≠ []) := by
    obtain ⟨records, recorded, found⟩ := recorded id
    rw [BackingStore.recordsOf, found, recorded]
    split
    · rename_i none_made
      simp [none_made]
    · rename_i some_made
      simp [some_made]
  have held (id : String) : s.store.descriptionsOf id = validOf id entities now :=
    CachePolicy.map_entity_records (made id).1
  refine ⟨fun id => (made id).1, held, fun id => ?_, unmarked⟩
  rw [(made id).2, ← validOf_ne_nil_iff, ← held, BackingStore.descriptionsOf, Ne, Ne,
    List.map_eq_nil_iff]

/-- What is in stock depends on what is held only. -/
theorem Stocks.congr {r : Resolver ε} (stocks : r.Stocks entities now s)
    (store : s'.store = s.store) (negative : s'.negative = s.negative) :
    r.Stocks entities now s' where
  recorded := store ▸ stocks.recorded
  held := store ▸ stocks.held
  present := store ▸ stocks.present
  unmarked := negative.trans stocks.unmarked

/-! ## Recording groups -/

theorem comesTo_insertRecords (r : Resolver ε) {drift : Drift (ResolverState ε)} :
    (∃ records, r.policy.records now entities = .ok records ∧
      (r.insertRecords id entities now).ComesTo drift (.ok (records.map (·.entity)))) ∨
    (r.policy.records now entities = .overflow ∧
      (r.insertRecords id entities now).ComesTo drift .overflow) := by
  rw [insertRecords]
  cases recorded : r.policy.records now entities with
  | failed failure => exact absurd recorded (CachePolicy.records_ne_failed failure)
  | overflow => exact .inr ⟨rfl, comesTo_ended _⟩
  | ok records =>
    refine .inl ⟨records, rfl, (comesTo_ended (.ok records)).bind ?_⟩
    cases records with
    | nil => exact comesTo_ended _
    | cons record more => exact (comesTo_change _).bind (comesTo_ended _)

theorem restocking_insertRecords (r : Resolver ε) (id : String) (entities : List Entity) :
    (r.insertRecords id entities now).Keeps (elsewhere clock) (restocking clock) := by
  refine (keeps_ended _).bind fun records => ?_
  split
  · exact keeps_pure []
  · refine (keeps_change below_restocking fun m => ?_).bind fun _ => keeps_pure _
    have unmarked : m.negative = .empty → m.negative.erase id = .empty := by
      intro none_marked
      rw [none_marked]
      rfl
    exact ⟨clock.refl m.now, rfl, rfl, rfl, rfl, unmarked, BackingStore.indexes_insert,
      fun filed => filed.insert id records⟩

/-- The entity whose descriptions are recorded was not in the store; of the others nothing
changes. -/
theorem ensures_insertRecords_hasRecorded (r : Resolver ε) (absent : s.store.find? id = none) :
    (r.insertRecords id entities now).Ensures (elsewhere clock) s (fun _ => True) fun _ m =>
      r.HasRecorded entities now m id ∧
        ∀ other, other ≠ id → m.store.find? other = s.store.find? other := by
  refine ensures_ofOutcome_bind trivial fun records recorded => ?_
  cases records with
  | nil => exact ensures_pure trivial ⟨⟨[], recorded, absent⟩, fun _ _ => rfl⟩
  | cons record more =>
    refine ensures_change_bind fun m moved => ensures_pure trivial ⟨⟨_, recorded, ?_⟩, ?_⟩
    · show (m.store.insert id (record :: more)).find? id = _
      rw [BackingStore.find?_insert, if_pos rfl]
      rfl
    · intro other foreign
      show (m.store.insert id (record :: more)).find? other = _
      rw [BackingStore.find?_insert, if_neg foreign, moved.store]

/-- Records groups of descriptions, each under its ID. -/
def insertGroups (r : Resolver ε) (groups : List (String × List Entity)) (now : Instant) :
    Task (ResolverState ε) Unit :=
  .forEach groups fun (id, group) => do
    let _ ← r.insertRecords id group now

theorem restocking_insertGroups (r : Resolver ε) (groups : List (String × List Entity)) :
    (r.insertGroups groups now).Keeps (elsewhere clock) (restocking clock) :=
  keeps_forEach (fun group =>
    (restocking_insertRecords r group.1 group.2).bind fun _ => keeps_pure ()) groups

/-- Every group is recorded, since a later one has another ID. -/
theorem ensures_insertGroups_hasRecorded (r : Resolver ε) (distinct : (groups.map (·.1)).Nodup)
    (absent : ∀ group ∈ groups, s.store.find? group.1 = none) :
    (r.insertGroups groups now).Ensures (elsewhere clock) s (fun _ => True) fun _ m =>
      (∀ group ∈ groups, r.HasRecorded group.2 now m group.1) ∧
        ∀ id, id ∉ groups.map (·.1) → m.store.find? id = s.store.find? id := by
  rw [insertGroups]
  induction groups generalizing s with
  | nil => exact ensures_pure trivial ⟨by simp, fun _ _ => rfl⟩
  | cons group rest ih =>
    obtain ⟨unrepeated, distinct⟩ := List.nodup_cons.1 distinct
    have head : (r.insertRecords group.1 group.2 now >>= fun _ => pure ()).Ensures
        (elsewhere clock) s (fun _ => True) fun _ m => r.HasRecorded group.2 now m group.1 ∧
          ∀ other, other ≠ group.1 → m.store.find? other = s.store.find? other :=
      (ensures_insertRecords_hasRecorded r (absent group List.mem_cons_self)).bind
        fun _ _ _ found => ensures_pure trivial found
    refine head.bind fun _ m _ ⟨files, others⟩ => ?_
    -- The groups that follow are of other entities, of which there is still nothing.
    have still (other) (listed : other ∈ rest) : m.store.find? other.1 = none := by
      have different : other.1 ≠ group.1 := fun same =>
        unrepeated (List.mem_map.2 ⟨other, listed, same⟩)
      rw [others other.1 different]
      exact absent other (List.mem_cons_of_mem group listed)
    refine (ih distinct still).imp (fun _ holds => holds) fun _ m' _ found => ?_
    obtain ⟨later, unchanged⟩ := found
    refine ⟨fun other listed => ?_, fun id foreign => ?_⟩
    · -- What was recorded of the first group is not touched by those that follow.
      rcases List.mem_cons.1 listed with rfl | listed
      · rw [HasRecorded, unchanged _ unrepeated]
        exact files
      · exact later other listed
    · rw [List.map_cons, List.mem_cons, not_or] at foreign
      rw [unchanged id foreign.2, others id foreign.1]

/-! ## Replacing everything -/

/-- Puts groups of descriptions in place of everything that was cached. -/
def replaceBy (r : Resolver ε) (groups : List (String × List Entity)) (now : Instant) :
    Task (ResolverState ε) Unit := do
  .change fun s => { s with store := s.store.clear, negative := .empty }
  r.insertGroups groups now
  r.gaugeSize

theorem replaceAll_eq (r : Resolver ε) (entities : List Entity) :
    r.replaceAll entities now = r.replaceBy (groupById entities) now := rfl

variable {drift : Drift (ResolverState ε)}

/-- Replacing everything succeeds when all dates and durations are in range. -/
theorem comesTo_replaceBy (r : Resolver ε) (ordered : groups.Perm (groupById entities))
    (inRange : ∀ e ∈ entities, r.policy.record e now ≠ .overflow) :
    (r.replaceBy groups now).ComesTo drift (.ok ()) := by
  refine (comesTo_change _).bind (ComesTo.bind (comesTo_forEach fun group listed => ?_) ?_)
  · rcases comesTo_insertRecords r with ⟨records, -, comes⟩ | ⟨overflows, -⟩
    · exact comes.bind (comesTo_ended _)
    · obtain ⟨e, described, overflows⟩ := CachePolicy.records_eq_overflow_iff.1 overflows
      exact absurd overflows (inRange e ((exists_group_iff ordered).1 ⟨group, listed, described⟩))
  · exact comesTo_change _

theorem comesTo_replaceBy_overflow (r : Resolver ε) (ordered : groups.Perm (groupById entities))
    {e : Entity} (listed : e ∈ entities) (overflows : r.policy.record e now = .overflow) :
    (r.replaceBy groups now).ComesTo drift .overflow := by
  refine (comesTo_change _).bind (ComesTo.bind_overflow (comesTo_forEach_overflow ?_ ?_) _)
  · intro group _
    rcases comesTo_insertRecords r with ⟨records, -, comes⟩ | ⟨-, comes⟩
    · exact .inl (comes.bind (comesTo_ended _))
    · exact .inr (comes.bind_overflow _)
  · obtain ⟨group, grouped, described⟩ := (exists_group_iff ordered).2 listed
    have together := CachePolicy.records_eq_overflow_iff.2 ⟨e, described, overflows⟩
    refine ⟨group, grouped, ?_⟩
    rcases comesTo_insertRecords r with ⟨records, recorded, -⟩ | ⟨-, comes⟩
    · cases together.symm.trans recorded
    · exact comes.bind_overflow _

/-- Groups in any order stock the store with the descriptions, whatever it held before. -/
theorem ensures_replaceBy (r : Resolver ε) (ordered : groups.Perm (groupById entities)) :
    (r.replaceBy groups now).Ensures (elsewhere clock) s (fun _ => True) fun _ m =>
      r.Stocks entities now m ∧ Restocked clock s m := by
  refine ensures_change_bind fun m moved => ?_
  -- The store is emptied first, so that what is found later has been brought by the groups.
  let cleared := { m with store := m.store.clear, negative := .empty }
  have emptied : Restocked clock s cleared := by
    have aside := below_restocking s m moved
    refine ⟨aside.now, aside.lifecycle, aside.flights, aside.status, aside.warmUp, fun _ => rfl,
      (BackingStore.indexes_apply .clear).trans aside.indexes, fun filed => ?_⟩
    exact (aside.filed filed).apply .clear
  have distinct : (groups.map (·.1)).Nodup :=
    (ordered.map (·.1)).nodup_iff.2 nodup_ids_groupById
  have absent (id : String) : cleared.store.find? id = none := BackingStore.find?_clear m.store id
  have filled : (r.insertGroups groups now).Ensures (elsewhere clock) cleared (fun _ => True)
      fun _ m' => (∀ group ∈ groups, r.HasRecorded group.2 now m' group.1) ∧
        ∀ id, id ∉ groups.map (·.1) → m'.store.find? id = cleared.store.find? id :=
    ensures_insertGroups_hasRecorded r distinct fun group _ => absent group.1
  have aside : (r.insertGroups groups now).Ensures (elsewhere clock) cleared
      (fun m' => True ∧ Restocked clock cleared m') fun _ _ => True :=
    (restocking_insertGroups r groups).ensures (fun _ _ _ _ => trivial) trivial
  refine (filled.and aside).bind_of (fun _ _ => trivial)
    fun _ m' ⟨_, _, restocked⟩ ⟨⟨recorded, others⟩, _⟩ => ?_
  have unmarked := restocked.unmarked rfl
  have restocked := (restocking clock).trans emptied restocked
  have each (id : String) : r.HasRecorded (ownOf id entities) now m' id := by
    by_cases grouped : id ∈ groups.map (·.1)
    · obtain ⟨group, listed, rfl⟩ := List.mem_map.1 grouped
      rw [← eq_ownOf_of_mem_groupById (ordered.mem_iff.1 listed)]
      exact recorded group listed
    · -- An entity that is in none of the groups is held no more.
      have foreign := fun listed => grouped ((ordered.map (·.1)).mem_iff.2 listed)
      rw [ownOf_eq_nil_iff.2 fun e listed same => foreign (mem_ids_groupById.2 ⟨e, listed, same⟩)]
      exact ⟨[], rfl, (others id grouped).trans (absent id)⟩
  have stocked : r.Stocks entities now m' ∧ Restocked clock s m' :=
    ⟨stocks_of_hasRecorded each unmarked, restocked⟩
  -- The gauge is set aside of all that.
  have gauged : r.gaugeSize.Ensures (elsewhere clock) m'
      (fun m => (r.Stocks entities now m ∧ Restocked clock s m) ∧ Elsewhere clock m' m)
      fun _ _ => True := by
    refine (keeps_gaugeSize r).ensures (fun m₁ m₂ moved both => ⟨?_, ?_⟩) stocked
    · exact both.1.congr moved.store moved.negative
    · exact (restocking clock).trans both.2 (below_restocking m₁ m₂ moved)
  exact gauged.imp (fun _ _ => trivial) fun _ _ both _ => both.1

end Resolver

end Federation
