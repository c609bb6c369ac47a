/-
# Where the answers to a query come from

The indexes are asked once, before anything is fetched, and they find entities, not single
descriptions. So a query without an ID is answered with whatever is held of the entities found,
with what the origin brings of those whose records have expired, and if nothing is found, with
what the origin brings on the query. Of all this only the role is looked at again: an answer
need not meet its query. The lemmas follow a query from the lookup to the answer, whatever the
clock reads and the origin does meanwhile.

## Main results

- `ensures_resolveEntityId_gives`: where descriptions of one entity come from.
- `answers_meet_unless_stray`: which answers meet their query.
- `strays_are_answered`: answers that do not, of each kind.
-/

import Federation.Proofs.Resolver.Lookup
import Federation.Proofs.Resolver.Settled
import Federation.Proofs.Resolver.Soundness

namespace Federation

open Federation.Metadata Federation.Time Federation.Task ResolverState

namespace ResolverState

variable {ε : Type} {clock : Drift Instant}

/-- The descriptions that are held have not changed. -/
structure Describing (clock : Drift Instant) (s s' : ResolverState ε) : Prop where
  now : clock.rel s.now s'.now
  same : ∀ id, s'.store.descriptionsOf id = s.store.descriptionsOf id
  flights : s'.flights = s.flights

/-- How a resolver moves while the descriptions that it holds do not change. -/
def describing (clock : Drift Instant) : Drift (ResolverState ε) where
  rel := Describing clock
  refl s := ⟨clock.refl s.now, fun _ => rfl, rfl⟩
  trans first second :=
    ⟨clock.trans first.now second.now, fun id => (second.same id).trans (first.same id),
      second.flights.trans first.flights⟩

theorem below_describing : (elsewhere clock : Drift (ResolverState ε)).Below (describing clock) :=
  fun _ _ moved => ⟨moved.now, fun _ => by rw [moved.store], moved.flights⟩

end ResolverState

namespace Resolver

variable {ε α : Type} {clock : Drift Instant} {s s' : ResolverState ε} {now : Instant} {id : String}
  {query : Criteria} {e : Entity}

/-! ## What the origin brings -/

/-- The origin brings a description on a query: it answers the query with a document, of which
the filters leave the description. -/
def Obtains (r : Resolver ε) (clock : Drift Instant) (query : Criteria) (e : Entity) : Prop :=
  ∃ now m m' entities,
    (r.fetchAndFilter query now).Runs (elsewhere clock) m (.ok (some entities)) m' ∧
      ∃ e' ∈ entities, e'.withoutWireForm = e

theorem ensures_obtains (r : Resolver ε) :
    (r.fetchAndFilter query now).Ensures (elsewhere clock) s (fun _ => True)
      fun answer _ => ∀ entities, answer = some entities →
        ∀ e ∈ entities, r.Obtains clock query e.withoutWireForm := by
  refine ensures_ran.imp (fun _ _ => trivial) fun answer m _ ran entities same e listed => ?_
  rw [same] at ran
  exact ⟨now, s, m, entities, ran, e, listed, rfl⟩

/-- Nothing is cached but descriptions that were given, without their texts. -/
theorem ensures_insertRecords_from (r : Resolver ε) (entities : List Entity) :
    (r.insertRecords id entities now).Ensures (elsewhere clock) s (fun _ => True)
      fun stored _ => ∀ e ∈ stored, ∃ e' ∈ entities, e'.withoutWireForm = e := by
  refine ensures_ofOutcome_bind trivial fun records recorded => ?_
  have made : ∀ e ∈ records.map (·.entity), ∃ e' ∈ entities, e'.withoutWireForm = e := by
    intro e listed
    obtain ⟨record, stored, rfl⟩ := List.mem_map.1 listed
    obtain ⟨e', given, -, same, -⟩ := CachePolicy.mem_records recorded stored
    exact ⟨e', given, same.symm⟩
  split
  · exact ensures_pure trivial (by simp)
  · exact ensures_change_bind fun m drifted => ensures_pure trivial made

/-- A part that leaves the descriptions alone, before one of which only the value matters. -/
theorem describing_bind {β : Type} {t : Task (ResolverState ε) α}
    {k : α → Task (ResolverState ε) β} {final : β → ResolverState ε → Prop}
    (describes : t.Keeps (elsewhere clock) (describing clock))
    (next : ∀ a m, Describing clock s m →
      (k a).Ensures (elsewhere clock) m (fun _ => True) final) :
    (t >>= k).Ensures (elsewhere clock) s (fun _ => True) final :=
  describes.bind_ensures (fun _ _ _ _ => trivial) trivial fun a m _ moved => next a m moved

/-! ## What a query for an entity gives -/

/-- A description is held of an entity, or it describes it and the origin brings it. -/
def Gives (r : Resolver ε) (clock : Drift Instant) (query : Criteria) (id : String)
    (held : List Entity) (e : Entity) : Prop :=
  e ∈ held ∨ (e.entityId = id ∧ r.Obtains clock query e)

theorem ensures_recordsOf_found :
    (recordsOf id now).Ensures (elsewhere clock) s (Describing clock s)
      fun found m => found = (s.store.find? id).map (List.map (.touch now)) ∧
        m.store.find? id = found := by
  refine ensures_perform fun m drifted => ⟨⟨drifted.now, fun other => ?_, drifted.flights⟩, ?_⟩
  · rw [BackingStore.descriptionsOf, BackingStore.recordsOf_get, ← drifted.store]
    split
    · rename_i same
      rw [same, List.map_map]
      rfl
    · rfl
  · rw [BackingStore.get_fst, BackingStore.find?_get, if_pos rfl, drifted.store]
    exact ⟨rfl, rfl⟩

theorem descriptions_of_touched {records : List CacheRecord}
    (found : some records = (s.store.find? id).map (List.map (.touch now))) :
    records.map (·.entity) = s.store.descriptionsOf id := by
  obtain ⟨held, before, rfl⟩ := Option.map_eq_some_iff.1 found.symm
  rw [BackingStore.descriptionsOf, BackingStore.recordsOf_eq_of_find? before, List.map_map]
  rfl

/-- What is live is held; if nothing is, everything that is held has expired. -/
theorem ensures_liveDescriptions_held :
    (liveDescriptions id now).Ensures (elsewhere clock) s (Describing clock s)
      fun live _ => (∀ es, live = some es → ∀ e ∈ es, e ∈ s.store.descriptionsOf id) ∧
        (live = none → ∀ record ∈ s.store.recordsOf id, record.expiration ≤ now) := by
  refine ensures_recordsOf_found.bind fun found m moved read => ?_
  obtain ⟨read, -⟩ := read
  cases found with
  | none =>
    have absent := Option.map_eq_none_iff.1 read.symm
    refine ensures_pure moved ⟨?_, ?_⟩
    · intro es same
      cases same
    · intro _ record listed
      rw [BackingStore.recordsOf, absent] at listed
      cases listed
  | some records =>
    have described := descriptions_of_touched read
    obtain ⟨held, before, rfl⟩ := Option.map_eq_some_iff.1 read.symm
    dsimp only
    split
    · -- There are records, and the time of every one is up.
      rename_i none_live
      refine ensures_pure moved ⟨?_, ?_⟩
      · intro es same
        cases same
      · intro _ record listed
        rw [BackingStore.recordsOf_eq_of_find? before] at listed
        have expired := List.filter_eq_nil_iff.1 none_live _ (List.mem_map_of_mem listed)
        have expired : (record.touch now).isExpired now = true := by simpa using expired
        exact of_decide_eq_true expired
    · -- What is told is part of what is held.
      rename_i some_live
      refine ensures_pure moved ⟨?_, ?_⟩
      · intro es same e listed
        obtain rfl := Option.some_inj.1 same
        obtain ⟨record, kept, rfl⟩ := List.mem_map.1 listed
        rw [← described]
        exact List.mem_map_of_mem (List.mem_filter.1 kept).1
      · intro same
        cases same

theorem ensures_fetchEntity_gives (r : Resolver ε) :
    (r.fetchEntity id query).Ensures (elsewhere clock) s (fun _ => True)
      fun es _ => ∀ e ∈ es, r.Gives clock query id (s.store.descriptionsOf id) e := by
  have below : (elsewhere clock : Drift (ResolverState ε)).Below (elsewhere .anyhow) :=
    fun _ _ moved => { moved with now := trivial }
  refine ensures_read_bind fun m₀ drifted => ?_
  refine ensures_recordsOf_found.bind_of (fun _ _ => trivial) fun stale m moved read => ?_
  obtain ⟨read, held⟩ := read
  rw [drifted.store] at read
  have aside : (r.fetchAndFilter query m₀.now).Keeps (elsewhere clock) (elsewhere clock) :=
    keeps_fetchAndFilter r
  have fetched := aside.ensures find?_aside held
  refine (fetched.and (ensures_obtains r)).attempt_bind (fun _ _ => trivial)
    fun answer m' before obtained => ?_
  obtain ⟨⟨held, -⟩, -⟩ := before
  -- Accepting that there is nothing returns nothing.
  have nothing : (r.acceptAbsence id stale m₀.now).Ensures (elsewhere clock) m' (fun _ => True)
      fun es _ => ∀ e ∈ es, r.Gives clock query id (s.store.descriptionsOf id) e := by
    refine ((ensures_absent r held).narrow below).imp (fun _ _ => trivial) ?_
    rintro es - - ⟨rfl, -⟩ e listed
    cases listed
  split
  · refine ((ensures_stale r).narrow below).imp (fun _ _ => trivial) ?_
    rintro es - - ⟨records, -, rfl, -, rfl⟩ e listed
    rw [descriptions_of_touched read] at listed
    exact .inl listed
  · exact nothing
  · rename_i entities
    split
    · exact nothing
    · -- What is returned was made from the answer.
      refine (ensures_insertRecords_from r _).bind fun stored m'' _ brought => ?_
      refine describing_bind ((keeps_persist r stored).widen below_describing) fun _ _ _ => ?_
      refine describing_bind ((keeps_gaugeSize r).widen below_describing) fun _ _ _ => ?_
      refine ensures_pure trivial fun e listed => ?_
      obtain ⟨e', matching, rfl⟩ := brought e listed
      obtain ⟨answered, own⟩ := List.mem_filter.1 matching
      have own : e'.entityId = id := by simpa using own
      exact .inr ⟨own, (obtained _ rfl).2 entities rfl e' answered⟩

/-- The descriptions that a part gives of an entity, told from before it. -/
theorem ensures_gives_of_same {r : Resolver ε} {t : Task (ResolverState ε) (List Entity)}
    {m : ResolverState ε}
    (gives : t.Ensures (elsewhere clock) m (fun _ => True)
      fun es _ => ∀ e ∈ es, r.Gives clock query id (m.store.descriptionsOf id) e)
    (same : m.store.descriptionsOf id = s.store.descriptionsOf id) :
    t.Ensures (elsewhere clock) m (fun _ => True)
      fun es _ => ∀ e ∈ es, r.Gives clock query id (s.store.descriptionsOf id) e := by
  rw [same] at gives
  exact gives

theorem ensures_fetchUnlessCached_gives (r : Resolver ε) :
    (r.fetchUnlessCached id query).Ensures (elsewhere clock) s (fun _ => True)
      fun es _ => ∀ e ∈ es, r.Gives clock query id (s.store.descriptionsOf id) e := by
  refine ensures_read_bind fun m₀ drifted => ?_
  have start : Describing clock s m₀ := below_describing s m₀ drifted
  refine ensures_liveDescriptions_held.bind_of (fun _ _ => trivial) fun live m moved read => ?_
  have moved := (describing clock).trans start moved
  cases live with
  | some es =>
    refine ensures_pure trivial fun e listed => .inl ?_
    rw [← start.same]
    exact read.1 es rfl e listed
  | none =>
    refine ensures_read_bind fun m' drifted => ?_
    have moved := (describing clock).trans moved (below_describing m m' drifted)
    split
    · exact ensures_pure trivial (by simp)
    · exact ensures_gives_of_same (ensures_fetchEntity_gives r) (moved.same id)

/-- A call that finds nobody aboard of any flight does not wait. -/
theorem ensures_fetchInTurn_gives (r : Resolver ε) (vacant : s.flights.AreVacant) :
    (r.fetchInTurn id query now).Ensures (elsewhere clock) s (fun _ => True)
      fun es _ => ∀ e ∈ es, r.Gives clock query id (s.store.descriptionsOf id) e := by
  refine ensures_perform_bind fun m drifted => ?_
  rw [← drifted.flights] at vacant
  have flown : (r.fly m.flights.nextTicket id query now).Ensures (elsewhere clock)
      { m with flights := (m.flights.board id).2 } (fun _ => True)
      fun es _ => ∀ e ∈ es, r.Gives clock query id (s.store.descriptionsOf id) e := by
    refine ensures_perform_bind fun m' drifted' => ?_
    have holding : (m'.flights.tryHold m.flights.nextTicket).1 = true := by
      rw [drifted'.flights]
      exact (vacant.board id).tryHold.1
    rw [if_pos holding]
    have same : m'.store.descriptionsOf id = s.store.descriptionsOf id := by
      rw [drifted'.store, drifted.store]
    have looked : (r.fetchUnlessCached id query).Ensures (elsewhere clock)
        { m' with flights := (m'.flights.tryHold m.flights.nextTicket).2 } (fun _ => True)
        fun es _ => ∀ e ∈ es, r.Gives clock query id (s.store.descriptionsOf id) e :=
      ensures_gives_of_same (ensures_fetchUnlessCached_gives r) same
    refine looked.attempt_bind (fun _ _ => trivial) fun answer landed _ given => ?_
    exact ensures_change_bind fun left _ => ensures_ofExcept trivial given
  refine flown.attempt_bind (fun _ _ => trivial) fun answer landed _ given => ?_
  refine ensures_change_bind fun left _ => ensures_change_bind fun retired _ => ?_
  exact ensures_ofExcept trivial given

/-- Everything that is held of an entity expires, at some time from a state on. -/
def Expires (clock : Drift Instant) (s : ResolverState ε) (id : String) : Prop :=
  ∃ now, clock.rel s.now now ∧ ∀ record ∈ s.store.recordsOf id, record.expiration ≤ now

/-- A query for an entity gives what is held of it, or after that has expired, what the origin
brings of it. -/
theorem ensures_resolveEntityId_gives (r : Resolver ε) (vacant : s.flights.AreVacant) :
    (r.resolveEntityId id query).Ensures (elsewhere clock) s (fun _ => True)
      fun es _ => ∀ e ∈ es, e ∈ s.store.descriptionsOf id ∨
        (Expires clock s id ∧ e.entityId = id ∧ r.Obtains clock query e) := by
  refine ensures_read_bind fun m₀ drifted => ?_
  have start : Describing clock s m₀ := below_describing s m₀ drifted
  refine ensures_liveDescriptions_held.bind_of (fun _ _ => trivial) fun live m moved read => ?_
  have moved := (describing clock).trans start moved
  have counted (c : Counter) : (ResolverState.count c).Keeps (elsewhere clock) (describing clock) :=
    (keeps_count c).widen (below_describing (ε := ε))
  cases live with
  | some es =>
    refine describing_bind (counted _) fun _ _ _ => ensures_pure trivial fun e listed => .inl ?_
    rw [← start.same]
    exact read.1 es rfl e listed
  | none =>
    have expires : Expires clock s id := by
      refine ⟨m₀.now, start.now, ?_⟩
      rw [← drifted.store]
      exact read.2 rfl
    refine describing_bind (counted _) fun _ m₁ later => ?_
    refine ensures_read_bind fun m₂ drifted => ?_
    have moved := (describing clock).trans ((describing clock).trans moved later)
      (below_describing m₁ m₂ drifted)
    rw [← moved.flights] at vacant
    -- However it is fetched, it is fetched after everything held has expired.
    have fetched {t : Task (ResolverState ε) (List Entity)}
        (gives : t.Ensures (elsewhere clock) m₂ (fun _ => True)
          fun es _ => ∀ e ∈ es, r.Gives clock query id (m₂.store.descriptionsOf id) e) :
        t.Ensures (elsewhere clock) m₂ (fun _ => True)
          fun es _ => ∀ e ∈ es, e ∈ s.store.descriptionsOf id ∨
            (Expires clock s id ∧ e.entityId = id ∧ r.Obtains clock query e) := by
      refine (ensures_gives_of_same gives (moved.same id)).imp (fun _ holds => holds) ?_
      intro es _ _ given e listed
      exact (given e listed).imp_right fun brought => ⟨expires, brought⟩
    split
    · exact ensures_pure trivial (by simp)
    · split
      · exact fetched (ensures_fetchInTurn_gives r vacant)
      · exact fetched (ensures_fetchEntity_gives r)

/-! ## What a query without an ID gives -/

/-- A description that a query for an entity may give: it is held of the entity, or after that
has expired, the origin brings it. -/
def Supplies (r : Resolver ε) (clock : Drift Instant) (s : ResolverState ε) (query : Criteria)
    (id : String) (e : Entity) : Prop :=
  e ∈ s.store.descriptionsOf id ∨
    (Expires clock s id ∧ e.entityId = id ∧ r.Obtains clock query e)

/-- Nothing becomes available of an entity whose records are not touched. -/
theorem Supplies.from_before {r : Resolver ε} {m : ResolverState ε}
    (supplied : r.Supplies clock m query id e) (ticked : clock.rel s.now m.now)
    (untouched : m.store.recordsOf id = s.store.recordsOf id) : r.Supplies clock s query id e := by
  rw [Supplies, BackingStore.descriptionsOf, Expires, untouched] at supplied
  refine supplied.imp_right fun brought => ⟨?_, brought.2⟩
  obtain ⟨now, later, expired⟩ := brought.1
  exact ⟨now, clock.trans ticked later, expired⟩

theorem ensures_collect_supplies (r : Resolver ε) {ids : List String} (distinct : ids.Nodup)
    (vacant : s.flights.AreVacant) :
    (Task.collect ids fun id => r.resolveEntityId id (query.add (.entityId id))).Ensures
      (elsewhere clock) s (fun _ => True) fun all _ => ∀ e ∈ all.flatten,
        ∃ id ∈ ids, r.Supplies clock s (query.add (.entityId id)) id e := by
  -- By induction on the IDs, from any state whose flights are vacant. What the first query touches is of
  -- no entity that comes later, since no ID comes twice.
  induction ids generalizing s with
  | nil => exact ensures_pure trivial (by simp)
  | cons id rest ih =>
    obtain ⟨new, distinct⟩ := List.nodup_cons.1 distinct
    let asked := r.resolveEntityId id (query.add (.entityId id))
    have gives : asked.Ensures (elsewhere clock) s (fun _ => True) fun es _ =>
        ∀ e ∈ es, r.Supplies clock s (query.add (.entityId id)) id e :=
      ensures_resolveEntityId_gives r vacant
    have moves : asked.Ensures (elsewhere clock) s (Moves r.policy clock s) fun es s' =>
        ∀ e ∈ es, Serves r.policy clock s.now s (· = id) s' e := ensures_resolveEntityId r vacant
    have untouched : asked.Ensures (elsewhere clock) s (fun m => True ∧ (outside id).rel s m)
        fun _ _ => True :=
      (outside_resolveEntityId r).ensures (fun _ _ _ holds => holds) trivial
    have gives := (gives.and (ensures_vacant_resolveEntityId r vacant)).and (moves.and untouched)
    refine gives.bind_of (fun _ _ => trivial) fun first m after given => ?_
    obtain ⟨-, moved, -, untouched⟩ := after
    obtain ⟨⟨given, vacant⟩, -⟩ := given
    refine (ih distinct vacant).bind fun others m' _ supplied => ?_
    refine ensures_pure trivial fun e listed => ?_
    rw [List.flatten_cons, List.mem_append] at listed
    rcases listed with listed | listed
    · exact ⟨id, List.mem_cons_self, given e listed⟩
    · obtain ⟨other, later, supplied⟩ := supplied e listed
      have foreign : other ≠ id := fun same => new (same ▸ later)
      refine ⟨other, List.mem_cons_of_mem id later, supplied.from_before moved.now ?_⟩
      rw [BackingStore.recordsOf, untouched other foreign]
      rfl

theorem ensures_acceptAnswer_from (r : Resolver ε) (entities : List Entity) :
    (r.acceptAnswer entities now).Ensures (elsewhere clock) s (fun _ => True)
      fun es _ => ∀ e ∈ es, ∃ e' ∈ entities, e'.withoutWireForm = e := by
  have cached : (Task.collect (groupById entities) fun part => do
      let stored ← r.insertRecords part.1 part.2 now
      r.persist stored
      return stored).Ensures (elsewhere clock) s (fun _ => True)
        fun all _ => ∀ es ∈ all, ∀ e ∈ es, ∃ e' ∈ entities, e'.withoutWireForm = e := by
    show Task.Ensures _ _ s (Drift.free.rel s) _
    refine ensures_collect (fun _ _ _ _ made => made) ?_
    rintro ⟨id, group⟩ grouped m -
    refine (ensures_insertRecords_from r group).bind fun stored m' _ made => ?_
    refine describing_bind ((keeps_persist r stored).widen below_describing) fun _ _ _ => ?_
    refine ensures_pure trivial fun e listed => ?_
    obtain ⟨e', member, same⟩ := made e listed
    exact ⟨e', (mem_of_mem_group grouped member).1, same⟩
  refine cached.bind fun all m _ made => ?_
  refine describing_bind ((keeps_gaugeSize r).widen below_describing) fun _ _ _ => ?_
  refine ensures_pure trivial fun e listed => ?_
  obtain ⟨es, one, listed⟩ := List.mem_flatten.1 listed
  exact made es one e listed

theorem ensures_fetchSecondary_obtains (r : Resolver ε) :
    (r.fetchSecondary query).Ensures (elsewhere clock) s (fun _ => True)
      fun es _ => ∀ e ∈ es, r.asksSecondary = true ∧ r.Obtains clock query e := by
  rw [fetchSecondary]
  split
  · exact ensures_pure trivial (by simp)
  · rename_i asks
    have asks : r.asksSecondary = true := by simpa [asksSecondary] using asks
    refine ensures_read_bind fun m drifted => ?_
    refine (ensures_obtains r).bind fun answer m' _ obtained => ?_
    cases answer with
    | none => exact ensures_pure trivial (by simp)
    | some entities =>
      refine (ensures_acceptAnswer_from r entities).imp (fun _ holds => holds) ?_
      intro es _ _ made e listed
      obtain ⟨e', answered, rfl⟩ := made e listed
      exact ⟨asks, obtained entities rfl e' answered⟩

/-- A query without an ID gives what the entities that are found supply; if none is found, what
the origin brings where it is asked. -/
theorem ensures_resolveSecondary_gives (r : Resolver ε) (vacant : s.flights.AreVacant) :
    (r.resolveSecondary query).Ensures (elsewhere clock) s (fun _ => True)
      fun es _ => ∀ e ∈ es,
        (∃ id ∈ s.store.found query, r.Supplies clock s (query.add (.entityId id)) id e) ∨
          (s.store.found query = [] ∧ r.asksSecondary = true ∧ r.Obtains clock query e) := by
  refine ensures_read_bind fun m drifted => ?_
  have found : s.store.found query = ((m.store.lookup query).getD []).mergeSort fun a b => a ≤ b := by
    rw [BackingStore.found, drifted.store]
  split
  · rename_i none_found
    rw [none_found, List.mergeSort_nil] at found
    refine (ensures_fetchSecondary_obtains r).imp (fun _ holds => holds) ?_
    intro es _ _ obtained e listed
    exact .inr ⟨found, obtained e listed⟩
  · rw [← drifted.flights] at vacant
    rw [← found]
    refine (ensures_collect_supplies r BackingStore.nodup_found vacant).bind fun all m' _ supplied => ?_
    refine ensures_pure trivial fun e listed => .inl ?_
    obtain ⟨id, among, supplied⟩ := supplied e listed
    refine ⟨id, among, supplied.from_before drifted.now ?_⟩
    rw [drifted.store]

theorem ensures_resolve_gives (r : Resolver ε) (vacant : s.flights.AreVacant)
    (no_id : query.entityId = none) :
    (r.resolve query).Ensures (elsewhere clock) s (fun _ => True)
      fun es _ => ∀ e ∈ es,
        (∃ id ∈ s.store.found query, r.Supplies clock s (query.add (.entityId id)) id e) ∨
          (s.store.found query = [] ∧ r.asksSecondary = true ∧ r.Obtains clock query e) := by
  have ready : r.requireInitialized.Keeps (elsewhere clock) (elsewhere clock) :=
    keeps_requireInitialized r
  refine ready.bind_ensures (fun _ _ _ _ => trivial) trivial fun _ m _ drifted => ?_
  rw [← drifted.flights] at vacant
  rw [no_id]
  refine (ensures_resolveSecondary_gives r vacant).attempt_bind (fun _ _ => trivial)
    fun answer m' _ gives => ?_
  refine describing_bind ((keeps_count _).widen below_describing) fun _ _ _ => ?_
  refine ensures_ofExcept trivial fun es same e listed => ?_
  cases answer with
  | error failure => cases same
  | ok all =>
    obtain rfl := Except.ok.inj same
    have given := gives all rfl e (mem_keepRole listed).1
    rw [drifted.store] at given
    refine given.imp_left fun supplied => ?_
    obtain ⟨id, among, supplied⟩ := supplied
    refine ⟨id, among, supplied.from_before drifted.now ?_⟩
    rw [drifted.store]

/-! ## Answers that meet their query -/

/-- A description strays from a query: it is held beside another one of the same entity that
meets the query, or the origin brings it when it is asked again for an entity that was found, or
when it is asked the query because nothing was found. -/
inductive IsStray (r : Resolver ε) (clock : Drift Instant) (s : ResolverState ε) (query : Criteria)
    (e : Entity) : Prop where
  | beside (id : String) (other : Entity) (meets : query.Meets s.store.indexes other)
      (differs : other ≠ e) (held : other ∈ s.store.descriptionsOf id)
      (listed : e ∈ s.store.descriptionsOf id)
  | renewed (id : String) (found : id ∈ s.store.found query) (expires : Expires clock s id)
      (own : e.entityId = id) (brought : r.Obtains clock (query.add (.entityId id)) e)
  | fetched (unfound : s.store.found query = []) (asks : r.asksSecondary = true)
      (brought : r.Obtains clock query e)

/-- **Which answers meet their query.** Whatever happened before and whatever the world does
meanwhile, a description with which a query without an ID is answered meets the query, unless
it strays from it. -/
theorem answers_meet_unless_stray (r : Resolver ε) (reached : Reachable r clock s)
    (no_id : query.entityId = none) {es : List Entity}
    (ran : (r.resolve query).Runs (elsewhere clock) s (.ok es) s') (listed : e ∈ es)
    (straight : ¬ r.IsStray clock s query e) : query.Meets s.store.indexes e := by
  have given := (ensures_resolve_gives r reached.vacant no_id _ s' ran).2 es rfl e listed
  rcases given with ⟨id, found, held | ⟨expires, own, brought⟩⟩ | ⟨unfound, asks, brought⟩
  · -- The entity was found for a description that meets the query; it may be another one.
    obtain ⟨record, stored, meets⟩ := reached.isFiled.mem_found.1 found
    have stored := List.mem_map_of_mem (f := CacheRecord.entity) stored
    by_cases differs : record.entity = e
    · exact differs ▸ meets
    · exact absurd (.beside id record.entity meets differs stored held) straight
  · exact absurd (.renewed id found expires own brought) straight
  · exact absurd (.fetched unfound asks brought) straight

/-! ### At work -/

/-- A description that is registered with a federation. -/
def registered : Entity :=
  { Entity.ofId "https://idp.example.org" with registrar := some "https://federation.example.org" }

/-- A description of the same entity that is not. -/
def unregistered : Entity := .ofId "https://idp.example.org"

/-- A query for what is registered there. -/
def registeredThere : Criteria := { text := some "https://federation.example.org" }

/-- An initialized resolver that indexes registrars, of which nothing was asked yet. The origin
answers one query. -/
def indexing (asked : String) (answer : Document) : ResolverState Origin.Script :=
  { ResolverState.start [.attributeValue []] (.memory (.empty false))
      (answering asked (.ok (some answer))) ⟨0, 0⟩ with
    lifecycle := .initialized }

theorem reachable_indexing (clock : Drift Instant) (asked : String) (answer : Document) :
    Reachable (rehearsed .standard) clock (indexing asked answer) := by
  have ran : (Call.prepare.task (rehearsed .standard)).Runs (elsewhere clock)
      (.start [.attributeValue []] (.memory (.empty false)) (answering asked (.ok (some answer)))
        ⟨0, 0⟩) (.ok ()) (indexing asked answer) := Task.runs_of_run_eq rfl
  exact ⟨_, _, _, ⟨0, 0⟩, .single (.call .prepare _ ran (by simp))⟩

/-- The same resolver after a query for the entity. -/
def indexed (answer : Document) : ResolverState Origin.Script :=
  (((rehearsed .standard).resolve { entityId := some "https://idp.example.org" }).run
    (indexing "https://idp.example.org" answer)).2

theorem reachable_indexed (clock : Drift Instant) (answer : Document)
    (ends : (((rehearsed .standard).resolve { entityId := some "https://idp.example.org" }).run
      (indexing "https://idp.example.org" answer)).1 ≠ .overflow) :
    Reachable (rehearsed .standard) clock (indexed answer) :=
  (reachable_indexing clock _ answer).next (.resolve _ _ ends)

theorem registered_meets_query :
    let r := rehearsed .standard
    let s := indexed (.entity registered)
    (∃ s', (r.resolve registeredThere).Runs (elsewhere .stopped) s (.ok [registered]) s') ∧
      registeredThere.Meets s.store.indexes registered := by
  intro r s
  have lookup : s.store.lookup registeredThere = some ["https://idp.example.org"] := by decide
  have found := BackingStore.found_eq_of_pairwise lookup (by decide)
  have resolved : ((r.resolve registeredThere).run s).1 = .ok [registered] := by
    rw [run_resolve_of_lookup r rfl rfl lookup (by decide)]
    decide
  have ran : (r.resolve registeredThere).Runs (elsewhere .stopped) s (.ok [registered])
      ((r.resolve registeredThere).run s).2 := by
    rw [← resolved]
    exact runs_run _ _ s
  have reached : Reachable r .stopped s := reachable_indexed .stopped _ (by decide)
  -- One description is held, of the one entity that is found, and it does not expire now.
  have alone : s.store.descriptionsOf "https://idp.example.org" = [registered] := by decide
  have straight : ¬ r.IsStray .stopped s registeredThere registered := by
    intro stray
    cases stray with
    | beside id other meets differs held listed =>
      obtain rfl : "https://idp.example.org" = id := reached.entityId_of_held listed
      rw [alone, List.mem_singleton] at held
      exact differs held
    | renewed id listed expires own brought =>
      rw [found, List.mem_singleton] at listed
      subst listed
      obtain ⟨now, rfl, expired⟩ := expires
      exact absurd expired (by decide)
    | fetched unfound asks brought =>
      rw [found] at unfound
      cases unfound
  exact ⟨⟨_, ran⟩,
    answers_meet_unless_stray r reached rfl ran (List.mem_singleton_self _) straight⟩

/-- Descriptions that do not meet a query are answered: beside one that does, when a record has
expired and the origin describes the entity anew, and when nothing is found and the origin is
asked. -/
theorem strays_are_answered :
    let r := rehearsed .standard
    let both := indexed (.group (.ofEntities [registered, unregistered]))
    let expired := later (indexed (.entity registered)) "https://idp.example.org"
      (.ok (some (.entity unregistered))) ⟨32400, 0⟩
    let unknown := indexing registeredThere.shown (.entity unregistered)
    (Reachable r .forward both ∧
      ((r.resolve registeredThere).run both).1 = .ok [registered, unregistered]) ∧
    (Reachable r .forward expired ∧
      ((r.resolve registeredThere).run expired).1 = .ok [unregistered]) ∧
    (Reachable r .forward unknown ∧
      ((r.resolve registeredThere).run unknown).1 = .ok [unregistered]) ∧
    registeredThere.Meets [.attributeValue []] registered ∧
    ¬ registeredThere.Meets [.attributeValue []] unregistered := by
  intro r both expired unknown
  refine ⟨⟨reachable_indexed _ _ (by decide), ?_⟩, ⟨?_, ?_⟩, ⟨reachable_indexing _ _ _, ?_⟩,
    by decide, by decide⟩
  · have lookup : both.store.lookup registeredThere = some ["https://idp.example.org"] := by decide
    rw [run_resolve_of_lookup r rfl rfl lookup (by decide)]
    decide
  · have ticked : (⟨0, 0⟩ : Instant) ≤ ⟨32400, 0⟩ := by decide
    exact Reachable.later (reachable_indexed _ _ (by decide)) ticked _ _
  · have lookup : expired.store.lookup registeredThere = some ["https://idp.example.org"] := by
      decide
    rw [run_resolve_of_lookup r rfl rfl lookup (by decide)]
    decide
  · have lookup : unknown.store.lookup registeredThere = some [] := by decide
    rw [run_resolve_of_lookup r rfl rfl lookup (by decide)]
    decide

end Resolver

end Federation
