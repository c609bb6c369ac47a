/-
# What the parts of a resolver do

Counting, the origin and the persistent cache leave what is held alone. Every other part of a
resolver takes steps on the holdings, and each needs to be looked at once. Where a part is
told the time, the time was read before it began.
-/

import Federation.Proofs.Resolver.Flights
import Federation.Proofs.Resolver.Course
import Federation.Proofs.Resolver.Expiration
import Federation.Resolver.Lifecycle

namespace Federation.Resolver

open Federation.Metadata Federation.Time Federation.Task ResolverState

variable {ε α β : Type} {policy : CachePolicy} {clock : Drift Instant} {s₀ s : ResolverState ε}
  {now : Instant} {id : String} {query : Criteria}

/-! ## Parts that leave the holdings alone -/

theorem keeps_count (c : Counter) :
    (ResolverState.count c : Task (ResolverState ε) Unit).Keeps (elsewhere clock)
      (elsewhere clock) :=
  keeps_change (Drift.below_refl _) fun m => ⟨clock.refl m.now, rfl, rfl, rfl, rfl, rfl, rfl⟩

theorem keeps_gaugeSize (r : Resolver ε) :
    r.gaugeSize.Keeps (elsewhere clock) (elsewhere clock) :=
  keeps_change (Drift.below_refl _) fun m => ⟨clock.refl m.now, rfl, rfl, rfl, rfl, rfl, rfl⟩

theorem keeps_stamp (r : Resolver ε) (kind : String) :
    (r.stamp kind now).Keeps (elsewhere clock) (elsewhere clock) :=
  keeps_change (Drift.below_refl _) fun m => ⟨clock.refl m.now, rfl, rfl, rfl, rfl, rfl, rfl⟩

theorem keeps_onCache (f : PersistentCache → Except Failure α × PersistentCache) :
    (onCache f : Task (ResolverState ε) α).Keeps (elsewhere clock) (elsewhere clock) := by
  refine (keeps_read (Drift.below_refl _) _).bind fun pausing => ?_
  refine (keeps_pauseIf pausing).bind fun _ => ?_
  refine Keeps.bind ?_ fun answer => keeps_ended _
  exact keeps_perform (Drift.below_refl _) fun m =>
    ⟨clock.refl m.now, rfl, rfl, rfl, rfl, rfl, rfl⟩

theorem keeps_origin (t : Task (OriginScope ε) α) :
    (t.on originPart).Keeps (elsewhere clock) (elsewhere clock) := by
  refine keeps_on (Drift.below_refl _) originPart (fun m part => ?_) t
  exact ⟨clock.refl m.now, rfl, rfl, rfl, rfl, rfl, rfl⟩

theorem keeps_requireInitialized (r : Resolver ε) :
    r.requireInitialized.Keeps (elsewhere clock) (elsewhere clock) := by
  refine (keeps_read (Drift.below_refl _) _).bind fun lifecycle => ?_
  cases lifecycle <;> exact keeps_ended _

theorem keeps_persist (r : Resolver ε) (entities : List Entity) :
    (r.persist entities).Keeps (elsewhere clock) (elsewhere clock) := by
  rw [persist]
  split
  · exact keeps_pure ()
  · refine keeps_forEach (fun e => ?_) entities
    refine (keeps_onCache _).attempt.bind fun saved => ?_
    cases saved with
    | ok _ => exact keeps_pure ()
    | error _ => exact keeps_count _

theorem keeps_unpersist (r : Resolver ε) (records : List CacheRecord) :
    (r.unpersist id records).Keeps (elsewhere clock) (elsewhere clock) := by
  rw [unpersist]
  split
  · exact keeps_pure ()
  · exact keeps_forEach (fun key => (keeps_onCache _).attempt.bind fun _ => keeps_pure ()) _

theorem keeps_fetchAndFilter (r : Resolver ε) :
    (r.fetchAndFilter query now).Keeps (elsewhere clock) (elsewhere clock) := by
  refine (keeps_origin _).attempt.bind fun answer => ?_
  split
  · exact keeps_ended _
  · exact keeps_pure none
  · split
    · exact keeps_pure _
    · split <;> exact keeps_ended _

theorem keeps_dropKey (key : String) :
    (dropKey key : Task (ResolverState ε) Unit).Keeps (elsewhere clock) (elsewhere clock) :=
  (keeps_onCache _).attempt.bind fun _ => keeps_pure ()

theorem keeps_moveKey (key expected : String) :
    (moveKey key expected : Task (ResolverState ε) Unit).Keeps (elsewhere clock)
      (elsewhere clock) := by
  refine (keeps_onCache _).attempt.bind fun moved => ?_
  split
  · exact keeps_dropKey key
  · exact keeps_pure ()

theorem keeps_readKey (r : Resolver ε) (key : String) :
    (r.readKey now key).Keeps (elsewhere clock) (elsewhere clock) := by
  refine (keeps_onCache _).attempt.bind fun found => ?_
  split
  · exact keeps_pure []
  · exact keeps_pure []
  · split <;> exact keeps_pure _

/-! ## Parts that do what a drift allows

What is made of the answer of the origin is a few changes of the holdings among parts that
leave them alone. It keeps to any drift that allows these changes. -/

theorem keeps_acceptAbsence {wider : Drift (ResolverState ε)}
    (below : (elsewhere clock).Below wider)
    (forgets : ∀ m : ResolverState ε, wider.rel m { m with store := m.store.remove id })
    (marks : ∀ (m : ResolverState ε) until_,
      wider.rel m { m with negative := m.negative.insert id until_ })
    (r : Resolver ε) (stale : Option (List CacheRecord)) :
    (r.acceptAbsence id stale now).Keeps (elsewhere clock) wider := by
  have marked : (r.acceptAbsence id none now).Keeps (elsewhere clock) wider := by
    rw [acceptAbsence]
    cases r.policy.negative with
    | none => exact keeps_pure []
    | some duration =>
      refine (keeps_ended _).bind fun until_ => ?_
      exact (keeps_change below fun m => marks m until_).bind fun _ => keeps_pure []
  cases stale with
  | none => exact marked
  | some records =>
    have forgotten : (forget id).Keeps (elsewhere clock) wider := keeps_change below forgets
    refine forgotten.bind fun _ => ?_
    refine ((keeps_gaugeSize r).widen below).bind fun _ => ?_
    exact ((keeps_unpersist r records).widen below).bind fun _ => marked

theorem keeps_acceptFailure {wider : Drift (ResolverState ε)}
    (below : (elsewhere clock).Below wider)
    (forgets : ∀ m : ResolverState ε, wider.rel m { m with store := m.store.remove id })
    (retains : ∀ (m : ResolverState ε) until_,
      wider.rel m { m with store := (m.store.extendExpiration id until_).2 })
    (r : Resolver ε) (stale : Option (List CacheRecord)) (failure : Failure) :
    (r.acceptFailure id stale now failure).Keeps (elsewhere clock) wider := by
  cases stale with
  | none => exact keeps_ended _
  | some records =>
    rw [acceptFailure]
    cases r.policy.onFailure with
    | retain interval =>
      refine (keeps_ended _).bind fun until_ => ?_
      exact (keeps_change below fun m => retains m until_).bind fun _ => keeps_pure _
    | evict =>
      have forgotten : (forget id).Keeps (elsewhere clock) wider := keeps_change below forgets
      refine forgotten.bind fun _ => ?_
      refine ((keeps_gaugeSize r).widen below).bind fun _ => ?_
      exact ((keeps_unpersist r records).widen below).bind fun _ => keeps_ended _

theorem keeps_acceptDescriptions {wider : Drift (ResolverState ε)}
    (below : (elsewhere clock).Below wider) (r : Resolver ε) {entities : List Entity}
    (inserts : (r.insertRecords id entities now).Keeps (elsewhere clock) wider) :
    (r.acceptDescriptions id entities now).Keeps (elsewhere clock) wider := by
  refine inserts.bind fun stored => ?_
  refine ((keeps_persist r stored).widen below).bind fun _ => ?_
  exact ((keeps_gaugeSize r).widen below).bind fun _ => keeps_pure stored

/-! ## Moves -/

/-- Moving elsewhere after a move is a move. -/
theorem Moves.aside (m m' : ResolverState ε) (aside : Elsewhere clock m m')
    (moved : Moves policy clock s₀ m) : Moves policy clock s₀ m' :=
  (moves policy clock).trans moved (below_moves m m' aside)

/-- A part that leaves the holdings alone, and what follows. -/
theorem aside_bind {t : Task (ResolverState ε) α} {k : α → Task (ResolverState ε) β}
    {final : β → ResolverState ε → Prop} (aside : t.Keeps (elsewhere clock) (elsewhere clock))
    (moved : Moves policy clock s₀ s)
    (next : ∀ a m, Moves policy clock s₀ m → Elsewhere clock s m →
      (k a).Ensures (elsewhere clock) m (Moves policy clock s₀) final) :
    (t >>= k).Ensures (elsewhere clock) s (Moves policy clock s₀) final :=
  aside.bind_ensures Moves.aside moved next

/-- A part that leaves the holdings alone, at the end. -/
theorem aside_last {t : Task (ResolverState ε) α}
    (aside : t.Keeps (elsewhere clock) (elsewhere clock)) (moved : Moves policy clock s₀ s) :
    t.Ensures (elsewhere clock) s (Moves policy clock s₀) fun _ _ => True :=
  (aside.ensures Moves.aside moved).imp (fun _ both => both.1) fun _ _ _ _ => trivial

/-- Moves from the middle of a run, as moves from its start. -/
theorem ensures_after {t : Task (ResolverState ε) α} {result : α → ResolverState ε → Prop}
    (h : t.Ensures (elsewhere clock) s (Moves policy clock s) result)
    (moved : Moves policy clock s₀ s) :
    t.Ensures (elsewhere clock) s (Moves policy clock s₀) result :=
  h.imp (fun _ later => (moves policy clock).trans moved later) fun _ _ _ found => found

/-- Reading marks the records as used and gives those that are there afterwards. -/
theorem ensures_recordsOf (read : clock.rel now s.now) :
    (recordsOf id now).Ensures (elsewhere clock) s (Moves policy clock s)
      fun found m => m.store.find? id = found := by
  refine ensures_perform fun m drifted => ⟨?_, ?_⟩
  · exact (below_moves s m drifted).step (clock.trans read drifted.now) (.read _ id) rfl
  · rw [BackingStore.find?_get, if_pos rfl, BackingStore.get_fst]

theorem ensures_liveDescriptions (read : clock.rel now s.now) :
    (liveDescriptions id now).Ensures (elsewhere clock) s (Moves policy clock s)
      fun live m => ∀ es, live = some es → ∀ e ∈ es, Servable policy now m.holdings id e := by
  refine (ensures_recordsOf read).bind fun found m moved held => ?_
  cases found with
  | none => exact ensures_pure moved (by simp)
  | some records =>
    dsimp only
    split
    · exact ensures_pure moved (by simp)
    · refine ensures_pure moved fun es same e listed => ?_
      obtain rfl := Option.some_inj.1 same
      obtain ⟨record, live, rfl⟩ := List.mem_map.1 listed
      obtain ⟨cached, unexpired⟩ := List.mem_filter.1 live
      refine ⟨record, ?_, rfl, .inl ?_⟩
      · rw [BackingStore.recordsOf, holdings, held]
        exact cached
      · simpa [CacheRecord.isExpired, Instant.not_le] using unexpired

theorem ensures_forget :
    (forget id).Ensures (elsewhere clock) s (Moves policy clock s)
      fun _ m => m.store.find? id = none := by
  refine ensures_change fun m drifted => ⟨?_, ?_⟩
  · exact (below_moves s m drifted).step (clock.refl m.now) (.drop _ id) rfl
  · rw [BackingStore.find?_remove, if_pos rfl]

/-- What is inserted is valid, and in the store afterwards. -/
theorem ensures_insertRecords (r : Resolver ε) {entities : List Entity}
    (own : ∀ e ∈ entities, e.entityId = id) (read : clock.rel now s.now) :
    (r.insertRecords id entities now).Ensures (elsewhere clock) s (Moves r.policy clock s)
      fun stored m => ∀ e ∈ stored, Servable r.policy now m.holdings id e := by
  have unmoved := (moves r.policy clock).refl s
  refine ensures_ofOutcome_bind unmoved fun records recorded => ?_
  cases none_valid : records.isEmpty with
  | true => exact ensures_pure unmoved (by simp)
  | false =>
    have some_valid : records ≠ [] := by simpa using none_valid
    refine ensures_change_bind fun m drifted => ?_
    refine ensures_pure ?_ fun e listed => ?_
    · exact (below_moves s m drifted).step (clock.trans read drifted.now)
        (.fill _ id entities records own recorded some_valid) rfl
    · obtain ⟨record, stored, rfl⟩ := List.mem_map.1 listed
      obtain ⟨e, -, valid, same, -⟩ := CachePolicy.mem_records recorded stored
      refine ⟨record, ?_, rfl, .inr (.inl (same ▸ valid))⟩
      show record ∈ (m.store.insert id records).recordsOf id
      rw [BackingStore.recordsOf_insert, if_pos rfl]
      exact stored

/-! ## Fetching -/

theorem ensures_acceptAbsence (r : Resolver ε) {stale : Option (List CacheRecord)}
    (read : clock.rel now s.now) (held : s.store.find? id = stale) :
    (r.acceptAbsence id stale now).Ensures (elsewhere clock) s (Moves r.policy clock s)
      fun es _ => es = [] := by
  -- Once there are no records, all that is left is to mark the absence, if absences are believed.
  have marked (m : ResolverState ε) (moved : Moves r.policy clock s m)
      (absent : m.store.find? id = none) :
      (r.acceptAbsence id none now).Ensures (elsewhere clock) m (Moves r.policy clock s)
        fun es _ => es = [] := by
    rw [acceptAbsence]
    cases believed : r.policy.negative with
    | none => exact ensures_pure moved rfl
    | some duration =>
      refine ensures_ofOutcome_bind moved fun until_ reached => ?_
      refine ensures_change_bind fun m' drifted => ?_
      refine ensures_pure ?_ rfl
      have ended := Outcome.eq_some_of_ofOption_eq_ok reached
      have later := (moves r.policy clock).trans moved (below_moves m m' drifted)
      refine later.step (clock.trans read later.now)
        (.mark _ id duration until_ believed ended ?_) rfl
      rw [holdings, drifted.store]
      exact absent
  cases stale with
  | none => exact marked s ((moves r.policy clock).refl s) held
  | some records =>
    refine ensures_forget.bind fun _ m moved absent => ?_
    refine aside_bind (keeps_gaugeSize r) moved fun _ m' moved gauged => ?_
    refine aside_bind (keeps_unpersist r records) moved fun _ m'' moved unkept => ?_
    -- Neither the gauge nor the persistent cache brings the records back.
    refine marked m'' moved ?_
    rw [unkept.store, gauged.store]
    exact absent

theorem ensures_acceptDescriptions (r : Resolver ε) {entities : List Entity}
    (own : ∀ e ∈ entities, e.entityId = id) (read : clock.rel now s.now) :
    (r.acceptDescriptions id entities now).Ensures (elsewhere clock) s (Moves r.policy clock s)
      fun stored s' => ∀ e ∈ stored, Serves r.policy clock now s (· = id) s' e := by
  refine (ensures_insertRecords r own read).bind fun stored m moved servable => ?_
  refine aside_bind (keeps_persist r stored) moved fun _ m' moved kept => ?_
  refine aside_bind (keeps_gaugeSize r) moved fun _ m'' moved gauged => ?_
  refine ensures_pure moved fun e listed => Servable.serves ?_ moved
  rw [gauged.holdings, kept.holdings]
  exact servable e listed

/-- After a failure, expired records are served under a policy that retains them. -/
theorem ensures_acceptFailure (r : Resolver ε) {stale : Option (List CacheRecord)}
    {failure : Failure} (read : clock.rel now s.now) (held : s.store.find? id = stale) :
    (r.acceptFailure id stale now failure).Ensures (elsewhere clock) s (Moves r.policy clock s)
      fun es s' => ∀ e ∈ es, Serves r.policy clock now s (· = id) s' e := by
  have unmoved := (moves r.policy clock).refl s
  cases stale with
  | none => exact ensures_fail unmoved
  | some records =>
    rw [acceptFailure]
    cases retained : r.policy.onFailure with
    | retain interval =>
      refine ensures_ofOutcome_bind unmoved fun until_ reached => ?_
      have ended := Outcome.eq_some_of_ofOption_eq_ok reached
      refine ensures_change_bind fun m drifted => ?_
      refine ensures_pure ?_ fun e listed => ?_
      · exact (below_moves s m drifted).step (clock.trans read drifted.now)
          (.keep _ id interval until_ retained ended) rfl
      · obtain ⟨record, stored, rfl⟩ := List.mem_map.1 listed
        refine ⟨now, s.holdings, id, clock.refl now, .refl, rfl, record, ?_, rfl,
          .inr (.inr ⟨interval, retained⟩)⟩
        rw [BackingStore.recordsOf, holdings, held]
        exact stored
    | evict =>
      refine ensures_forget.bind fun _ m moved _ => ?_
      refine aside_bind (keeps_gaugeSize r) moved fun _ m' moved _ => ?_
      refine aside_bind (keeps_unpersist r records) moved fun _ m'' moved _ => ?_
      exact ensures_fail moved

/-- What is served from the middle of a run is served from its start. -/
theorem ensures_serves {t : Task (ResolverState ε) (List Entity)} {filed : String → Prop}
    {since : Instant} {m : ResolverState ε}
    (h : t.Ensures (elsewhere clock) s (Moves policy clock m)
      fun es s' => ∀ e ∈ es, Serves policy clock now m filed s' e)
    (moved : Moves policy clock s₀ m) (ticked : clock.rel since now) :
    t.Ensures (elsewhere clock) s (Moves policy clock s₀)
      fun es s' => ∀ e ∈ es, Serves policy clock since s₀ filed s' e := by
  intro outcome s' ran
  obtain ⟨later, found⟩ := h outcome s' ran
  refine ⟨(moves policy clock).trans moved later, fun es same e listed => ?_⟩
  exact (found es same e listed).from_before moved later.now ticked

theorem ensures_fetchEntity (r : Resolver ε) :
    (r.fetchEntity id query).Ensures (elsewhere clock) s (Moves r.policy clock s)
      fun es s' => ∀ e ∈ es, Serves r.policy clock s.now s (· = id) s' e := by
  refine ensures_read_bind fun m drifted => ?_
  refine ensures_serves ?_ (below_moves s m drifted) drifted.now
  refine (ensures_recordsOf (clock.refl m.now)).bind fun stale m₁ moved held => ?_
  refine aside_bind (keeps_fetchAndFilter r).attempt moved fun answer m₂ moved asked => ?_
  have held : m₂.store.find? id = stale := by
    rw [asked.store]
    exact held
  have nothing : (r.acceptAbsence id stale m.now).Ensures (elsewhere clock) m₂
      (Moves r.policy clock m) fun es s' => ∀ e ∈ es, Serves r.policy clock m.now m (· = id) s' e := by
    refine (ensures_after (ensures_acceptAbsence r moved.now held) moved).imp
      (fun _ later => later) ?_
    rintro es s' - rfl e listed
    cases listed
  split
  · exact ensures_serves (ensures_acceptFailure r moved.now held) moved (clock.refl m.now)
  · exact nothing
  · rename_i entities
    split
    · exact nothing
    · refine ensures_serves (ensures_acceptDescriptions r ?_ moved.now) moved (clock.refl m.now)
      intro e matching
      simpa using (List.mem_filter.1 matching).2

theorem ensures_fetchUnlessCached (r : Resolver ε) :
    (r.fetchUnlessCached id query).Ensures (elsewhere clock) s (Moves r.policy clock s)
      fun es s' => ∀ e ∈ es, Serves r.policy clock s.now s (· = id) s' e := by
  refine ensures_read_bind fun m drifted => ?_
  refine ensures_serves ?_ (below_moves s m drifted) drifted.now
  refine (ensures_liveDescriptions (clock.refl m.now)).bind fun live m₁ moved servable => ?_
  cases live with
  | some live => exact ensures_pure moved fun e listed => (servable live rfl e listed).serves moved
  | none =>
    refine ensures_read_bind fun m₂ drifted => ?_
    have moved := (moves r.policy clock).trans moved (below_moves m₁ m₂ drifted)
    split
    · exact ensures_pure moved (by simp)
    · exact ensures_serves (ensures_fetchEntity r) moved moved.now

theorem ensures_fetchHolding (r : Resolver ε) (ticket : Ticket) :
    (r.fetchHolding ticket id query).Ensures (elsewhere clock) s (Moves r.policy clock s)
      fun es s' => ∀ e ∈ es, Serves r.policy clock s.now s (· = id) s' e := by
  refine (ensures_fetchUnlessCached r).attempt_bind (fun _ moved => moved)
    fun result m flown served => ?_
  refine ensures_change_bind fun m' drifted => ?_
  have later : Moves r.policy clock s m' := Moves.aside m m' drifted flown
  refine ensures_ofExcept (later.still rfl rfl) fun es same e listed => ?_
  exact (served es same e listed).to_later drifted.now

/-- A call that finds its flight free holds it at once. -/
theorem ensures_fly (r : Resolver ε) {ticket : Ticket} (free : s.flights.isFree ticket = true) :
    (r.fly ticket id query now).Ensures (elsewhere clock) s (Moves r.policy clock s)
      fun es s' => ∀ e ∈ es, Serves r.policy clock s.now s (· = id) s' e := by
  refine ensures_perform_bind fun m drifted => ?_
  have holding : (m.flights.tryHold ticket).1 = true := by
    rw [drifted.flights]
    exact free
  rw [if_pos holding]
  have held : Moves r.policy clock s { m with flights := (m.flights.tryHold ticket).2 } :=
    (below_moves s m drifted).still rfl rfl
  exact ensures_serves (ensures_fetchHolding r ticket) held drifted.now

/-- A call that finds nobody aboard of any flight does not wait. -/
theorem ensures_fetchInTurn (r : Resolver ε) (vacant : s.flights.AreVacant) :
    (r.fetchInTurn id query now).Ensures (elsewhere clock) s (Moves r.policy clock s)
      fun es s' => ∀ e ∈ es, Serves r.policy clock s.now s (· = id) s' e := by
  refine ensures_perform_bind fun m drifted => ?_
  have free : (m.flights.board id).2.isFree m.flights.nextTicket = true := by
    rw [drifted.flights]
    exact (vacant.board id).tryHold.1
  have boarded : Moves r.policy clock s { m with flights := (m.flights.board id).2 } :=
    (below_moves s m drifted).still rfl rfl
  have flown : (r.fly m.flights.nextTicket id query now).Ensures (elsewhere clock)
      { m with flights := (m.flights.board id).2 } (Moves r.policy clock s)
      fun es s' => ∀ e ∈ es, Serves r.policy clock s.now s (· = id) s' e :=
    ensures_serves (ensures_fly r free) boarded drifted.now
  refine flown.attempt_bind (fun _ moved => moved) fun result m₁ moved served => ?_
  refine ensures_change_bind fun m₂ left => ensures_change_bind fun m₃ retired => ?_
  have later : Moves r.policy clock s m₂ := Moves.aside m₁ m₂ left moved
  have later : Moves r.policy clock s m₃ := Moves.aside _ m₃ retired (later.still rfl rfl)
  refine ensures_ofExcept (later.still rfl rfl) fun es same e listed => ?_
  exact (served es same e listed).to_later (clock.trans left.now retired.now)

end Federation.Resolver
