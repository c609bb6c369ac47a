/-
# What calls do

What a resolver reaches that is called by one caller at a time is what this module describes:
whatever the origin answers, whatever the persistent cache holds and whatever the clock reads, the
holdings of a reachable resolver came from nothing by a course of steps, and what a query is
answered with was servable on the way.

## Main results

- `ensures_resolve`: what answering a query does, and where its answers come from.
- `Call.ensures`: every call moves the resolver.
- `Follows.moves`: whatever happens moves the resolver.
- `Reachable.course`: the holdings of a reachable resolver end a course from nothing.
-/

import Federation.Proofs.Resolver.Groups
import Federation.Proofs.Resolver.Vacancy

namespace Federation

open Federation.Metadata Federation.Time Federation.Task ResolverState

namespace Resolver

variable {ε : Type} {clock : Drift Instant} {s s' : ResolverState ε} {now : Instant} {id : String}
  {query : Criteria} {r : Resolver ε}

/-! ## Resolving -/

theorem ensures_resolveEntityId (r : Resolver ε) (vacant : s.flights.AreVacant) :
    (r.resolveEntityId id query).Ensures (elsewhere clock) s (Moves r.policy clock s)
      fun es s' => ∀ e ∈ es, Serves r.policy clock s.now s (· = id) s' e := by
  refine ensures_read_bind fun m drifted => ?_
  have vacant := below_vacating s m drifted vacant
  refine ensures_serves ?_ (below_moves s m drifted) drifted.now
  refine ((ensures_liveDescriptions (clock.refl m.now)).within
    (grounded_allows id).keeps_liveDescriptions).bind_of (fun _ both => both.1)
      fun live m₁ both servable => ?_
  obtain ⟨moved, same⟩ := both
  have vacant := grounded_below_vacating m m₁ same vacant
  cases live with
  | some live =>
    refine aside_bind (keeps_count _) moved fun _ m₂ moved counted => ?_
    refine ensures_pure moved fun e listed => Servable.serves ?_ moved
    rw [counted.holdings]
    exact servable live rfl e listed
  | none =>
    refine aside_bind (keeps_count _) moved fun _ m₂ moved counted => ?_
    refine ensures_read_bind fun m₃ drifted => ?_
    have moved := (moves r.policy clock).trans moved (below_moves m₂ m₃ drifted)
    split
    · exact ensures_pure moved (by simp)
    · split
      · have vacant := below_vacating m₂ m₃ drifted (below_vacating m₁ m₂ counted vacant)
        exact ensures_serves (ensures_fetchInTurn r vacant) moved moved.now
      · exact ensures_serves (ensures_fetchEntity r) moved moved.now

/-- A part for each of some items, each of which serves descriptions. -/
theorem ensures_collect_serves {α : Type} {policy : CachePolicy} (now : Instant) {items : List α}
    {f : α → Task (ResolverState ε) (List Entity)} (ready : ResolverState ε → Prop)
    (each : ∀ a ∈ items, ∀ m, Moves policy clock s m → ready m →
      (f a).Ensures (elsewhere clock) m (Moves policy clock m)
        fun es s' => (∀ e ∈ es, Serves policy clock now s (fun _ => True) s' e) ∧ ready s')
    (start : ready s) :
    (Task.collect items f).Ensures (elsewhere clock) s (Moves policy clock s)
      fun all s' => ∀ e ∈ all.flatten, Serves policy clock now s (fun _ => True) s' e := by
  -- What one part serves is still served when the later parts are done.
  have stays : ∀ (es : List Entity) m m', (moves policy clock).rel m m' →
      (∀ e ∈ es, Serves policy clock now s (fun _ => True) m e) →
      ∀ e ∈ es, Serves policy clock now s (fun _ => True) m' e :=
    fun es m m' moved served e listed => (served e listed).to_later moved.now
  refine (ensures_collect_of ready stays each start).imp (fun _ moved => moved)
    fun all s' _ served e listed => ?_
  obtain ⟨es, one, listed⟩ := List.mem_flatten.1 listed
  exact served.1 es one e listed

theorem ensures_resolveEach (r : Resolver ε) (vacant : s.flights.AreVacant) (ids : List String) :
    (r.resolveEach query ids).Ensures (elsewhere clock) s (Moves r.policy clock s)
      fun es s' => ∀ e ∈ es, Serves r.policy clock s.now s (fun _ => True) s' e := by
  -- Every query leaves the flights vacant for the next.
  refine (ensures_collect_serves s.now (·.flights.AreVacant) (fun id _ m moved vacant => ?_)
    vacant).bind fun all m moved served => ensures_pure moved served
  refine ((ensures_resolveEntityId r vacant).and (ensures_vacant_resolveEntityId r vacant)).imp
    (fun _ both => both.1) fun es s' later both => ⟨fun e listed => ?_, both.2⟩
  have served := (both.1 e listed).from_before moved later.1.now moved.now
  exact served.imp fun _ _ => trivial

theorem ensures_acceptAnswer (r : Resolver ε) (entities : List Entity)
    (read : clock.rel now s.now) :
    (r.acceptAnswer entities now).Ensures (elsewhere clock) s (Moves r.policy clock s)
      fun es s' => ∀ e ∈ es, Serves r.policy clock now s (fun _ => True) s' e := by
  refine (ensures_collect_serves now (fun _ => True) ?_ trivial).bind fun all m moved served => ?_
  · rintro ⟨id, group⟩ grouped m before -
    have own (e : Entity) (listed : e ∈ group) : e.entityId = id :=
      (mem_of_mem_group grouped listed).2
    refine (ensures_insertRecords r own (clock.trans read before.now)).bind
      fun stored m' moved servable => ?_
    refine aside_bind (keeps_persist r stored) moved fun _ m'' moved kept => ?_
    refine ensures_pure moved ⟨fun e listed => ?_, trivial⟩
    have held : Servable r.policy now m''.holdings id e := by
      rw [kept.holdings]
      exact servable e listed
    have served := (held.serves moved).from_before before moved.now (clock.refl now)
    exact served.imp fun _ _ => trivial
  · refine aside_bind (keeps_gaugeSize r) moved fun _ m' moved gauged => ?_
    exact ensures_pure moved fun e listed => (served e listed).to_later gauged.now

theorem ensures_fetchSecondary (r : Resolver ε) :
    (r.fetchSecondary query).Ensures (elsewhere clock) s (Moves r.policy clock s)
      fun es s' => ∀ e ∈ es, Serves r.policy clock s.now s (fun _ => True) s' e := by
  have unmoved := (moves r.policy clock).refl s
  rw [fetchSecondary]
  split
  · exact ensures_pure unmoved (by simp)
  · refine ensures_read_bind fun m drifted => ?_
    refine ensures_serves ?_ (below_moves s m drifted) drifted.now
    have unmoved := (moves r.policy clock).refl m
    refine aside_bind (keeps_fetchAndFilter r) unmoved fun answer m' moved asked => ?_
    cases answer with
    | none => exact ensures_pure moved (by simp)
    | some entities =>
      exact ensures_serves (ensures_acceptAnswer r entities asked.now) moved (clock.refl m.now)

theorem ensures_resolveSecondary (r : Resolver ε) (vacant : s.flights.AreVacant) :
    (r.resolveSecondary query).Ensures (elsewhere clock) s (Moves r.policy clock s)
      fun es s' => ∀ e ∈ es, Serves r.policy clock s.now s (fun _ => True) s' e := by
  refine ensures_read_bind fun m drifted => ?_
  refine ensures_serves ?_ (below_moves s m drifted) drifted.now
  split
  · exact ensures_fetchSecondary r
  · exact ensures_resolveEach r (below_vacating s m drifted vacant) _

theorem mem_keepRole {entities : List Entity} {e : Entity} (kept : e ∈ keepRole query entities) :
    e ∈ entities ∧ ∀ role, query.role = some role → e.hasRole role = true := by
  rw [keepRole] at kept
  cases asked : query.role with
  | none =>
    rw [asked] at kept
    exact ⟨kept, fun role same => by cases same⟩
  | some role =>
    rw [asked] at kept
    obtain ⟨listed, has⟩ := List.mem_filter.1 kept
    refine ⟨listed, fun other same => ?_⟩
    rw [← Option.some_inj.1 same]
    exact has

/-- Is an ID the one that a query asks for, if it asks for one? -/
def IsAsked (query : Criteria) (id : String) : Prop :=
  ∀ asked, query.entityId = some asked → id = asked

/-- What a query is answered with was servable, of the entity it asks for if it asks for one,
and has the role it asks for if it asks for one. -/
theorem ensures_resolve (r : Resolver ε) (vacant : s.flights.AreVacant) :
    (r.resolve query).Ensures (elsewhere clock) s (Moves r.policy clock s)
      fun es s' => ∀ e ∈ es, Serves r.policy clock s.now s (IsAsked query) s' e ∧
        ∀ role, query.role = some role → e.hasRole role = true := by
  have unmoved := (moves r.policy clock).refl s
  refine aside_bind (keeps_requireInitialized r) unmoved fun _ m moved ready => ?_
  have vacant := below_vacating s m ready vacant
  -- Both kinds of queries find descriptions that are served for an ID that is asked for.
  refine Ensures.attempt_bind (?_ : Task.Ensures _ _ m (Moves r.policy clock s)
    fun es s' => ∀ e ∈ es, Serves r.policy clock s.now s (IsAsked query) s' e)
    (fun _ moved => moved) fun answer m₁ moved served => ?_
  · refine ensures_serves ?_ moved moved.now
    cases asked : query.entityId with
    | some id =>
      refine (ensures_resolveEntityId r vacant).imp (fun _ later => later) ?_
      intro es s' _ served e listed
      refine (served e listed).imp fun other same asked' again => ?_
      rw [same, Option.some_inj.1 (asked.symm.trans again)]
    | none =>
      refine (ensures_resolveSecondary r vacant).imp (fun _ later => later) ?_
      intro es s' _ served e listed
      refine (served e listed).imp fun other _ asked' again => ?_
      cases asked.symm.trans again
  · refine aside_bind (keeps_count _) moved fun _ m₂ moved counted => ?_
    refine ensures_ofExcept moved fun es same e listed => ?_
    cases answer with
    | error failure => cases same
    | ok all =>
      obtain rfl := Except.ok.inj same
      obtain ⟨listed, has⟩ := mem_keepRole listed
      exact ⟨(served all rfl e listed).to_later counted.now, has⟩

/-! ## Refreshing -/

theorem ensures_insertGroups (r : Resolver ε) (entities : List Entity)
    (read : clock.rel now s.now) :
    (Task.forEach (groupById entities) fun (id, group) => do
      let _ ← r.insertRecords id group now).Ensures (elsewhere clock) s (Moves r.policy clock s)
        fun _ _ => True := by
  have each : ∀ group ∈ groupById entities, ∀ m, (moves r.policy clock).rel s m →
      (r.insertRecords group.1 group.2 now >>= fun _ => pure ()).Ensures (elsewhere clock) m
        (Moves r.policy clock m) fun _ _ => True := by
    rintro ⟨id, group⟩ grouped m before
    have own (e : Entity) (listed : e ∈ group) : e.entityId = id :=
      (mem_of_mem_group grouped listed).2
    refine (ensures_insertRecords r own (clock.trans read before.now)).bind fun _ m' moved _ => ?_
    exact ensures_pure moved trivial
  exact ensures_forEach each

theorem ensures_replaceAll (r : Resolver ε) (entities : List Entity) (read : clock.rel now s.now) :
    (r.replaceAll entities now).Ensures (elsewhere clock) s (Moves r.policy clock s)
      fun _ _ => True := by
  refine ensures_change_bind fun m drifted => ?_
  have cleared : Moves r.policy clock s { m with store := m.store.clear, negative := .empty } :=
    (below_moves s m drifted).step (clock.refl m.now) (.clear _) rfl
  have filled := ensures_insertGroups r entities (clock.trans read cleared.now)
  refine (ensures_after filled cleared).bind fun _ m' moved _ => ?_
  exact aside_last (keeps_gaugeSize r) moved

/-- Noting what came of refreshing leaves the holdings alone. -/
theorem ensures_note {policy : CachePolicy} {s₀ : ResolverState ε} {α : Type}
    {f : RefreshStatus → RefreshStatus}
    {k : Unit → Task (ResolverState ε) α} (moved : Moves policy clock s₀ s)
    (next : ∀ m, Moves policy clock s₀ m →
      (k ()).Ensures (elsewhere clock) m (Moves policy clock s₀) fun _ _ => True) :
    (note f >>= k).Ensures (elsewhere clock) s (Moves policy clock s₀) fun _ _ => True := by
  refine ensures_change_bind fun m drifted => next _ ?_
  exact (Moves.aside s m drifted moved).still rfl rfl

theorem ensures_acceptRefresh (r : Resolver ε) (read : clock.rel now s.now)
    (result : Except Failure RefreshOutcome) :
    (r.acceptRefresh now result).Ensures (elsewhere clock) s (Moves r.policy clock s)
      fun _ _ => True := by
  have unmoved := (moves r.policy clock).refl s
  rcases result with failure | entities | next | _
  · refine ensures_note unmoved fun m moved => ?_
    refine ensures_ofOutcome_bind moved fun nextRefresh _ => ?_
    refine ensures_note moved fun m moved => ?_
    refine aside_bind (keeps_stamp r _) moved fun _ m moved _ => ?_
    refine aside_bind (keeps_count _) moved fun _ m moved _ => ?_
    exact ensures_fail moved
  · refine (ensures_replaceAll r entities read).bind fun _ m moved _ => ?_
    refine ensures_note moved fun m moved => ?_
    refine ensures_ofOutcome_bind moved fun nextRefresh _ => ?_
    refine ensures_note moved fun m moved => ?_
    refine aside_bind (keeps_stamp r _) moved fun _ m moved _ => ?_
    refine aside_bind (keeps_stamp r _) moved fun _ m moved _ => ?_
    exact ensures_pure moved trivial
  · refine ensures_note unmoved fun m moved => ?_
    refine ensures_ofOutcome_bind moved fun nextRefresh _ => ?_
    refine ensures_note moved fun m moved => ?_
    refine aside_bind (keeps_stamp r _) moved fun _ m moved _ => ?_
    exact ensures_pure moved trivial
  · exact ensures_pure unmoved trivial

theorem ensures_runRefresh (r : Resolver ε) :
    r.runRefresh.Ensures (elsewhere clock) s (Moves r.policy clock s) fun _ _ => True := by
  refine ensures_read_bind fun m drifted => ?_
  refine ensures_after ?_ (below_moves s m drifted)
  have unmoved := (moves r.policy clock).refl m
  refine aside_bind (keeps_origin _).attempt unmoved fun result m' moved _ => ?_
  exact ensures_after (ensures_acceptRefresh r moved.now result) moved

/-! ## Warm starts -/

theorem ensures_loadEntity (r : Resolver ε) (p : Persistence) (key : String) (e : Entity)
    (read : clock.rel now s.now) :
    (r.loadEntity p now key e).Ensures (elsewhere clock) s (Moves r.policy clock s)
      fun _ _ => True := by
  have unmoved := (moves r.policy clock).refl s
  have insert (m : ResolverState ε) (moved : Moves r.policy clock s m) :
      (do
        if ← Task.read fun (s : ResolverState ε) => s.store.contains e.entityId then return false
        else return !(← r.insertRecords e.entityId [e] now).isEmpty).Ensures (elsewhere clock) m
          (Moves r.policy clock s) fun _ _ => True := by
    refine ensures_read_bind fun m' drifted => ?_
    have moved := (moves r.policy clock).trans moved (below_moves m m' drifted)
    split
    · exact ensures_pure moved trivial
    · have own : ∀ e' ∈ [e], e'.entityId = e.entityId := by simp
      have inserted := ensures_insertRecords r own (clock.trans read moved.now)
      exact (ensures_after inserted moved).bind fun _ m'' moved _ => ensures_pure moved trivial
  rw [loadEntity]
  split
  · exact aside_bind (keeps_dropKey key) unmoved fun _ m moved _ => ensures_pure moved trivial
  · dsimp only
    split
    · exact aside_bind (keeps_moveKey key _) unmoved fun _ m moved _ => insert m moved
    · exact insert s unmoved

theorem ensures_loadKeys (r : Resolver ε) (p : Persistence) (keys : List String)
    (read : clock.rel now s.now) :
    (r.loadKeys p now keys).Ensures (elsewhere clock) s (Moves r.policy clock s)
      fun _ _ => True := by
  have unmoved := (moves r.policy clock).refl s
  induction keys generalizing s with
  | nil => exact ensures_pure unmoved trivial
  | cons key rest ih =>
    refine ensures_read_bind fun m drifted => ?_
    have moved := (moves r.policy clock).trans unmoved (below_moves s m drifted)
    split
    · exact ensures_pure moved trivial
    · refine aside_bind (keeps_readKey r key) moved fun entities m₁ moved _ => ?_
      have each : ∀ e ∈ entities, ∀ m', (moves r.policy clock).rel m₁ m' →
          (r.loadEntity p now key e).Ensures (elsewhere clock) m' (Moves r.policy clock m')
            fun _ _ => True := by
        intro e _ m' before
        exact ensures_loadEntity r p key e (clock.trans (clock.trans read moved.now) before.now)
      have loaded := ensures_collect (fun _ _ _ _ _ => trivial) each
      refine (ensures_after loaded moved).bind fun _ m₂ moved _ => ?_
      have others := ih (clock.trans read moved.now) ((moves r.policy clock).refl m₂)
      exact (ensures_after others moved).bind fun _ m₃ moved _ => ensures_pure moved trivial

theorem ensures_loadCache (r : Resolver ε) :
    r.loadCache.Ensures (elsewhere clock) s (Moves r.policy clock s) fun _ _ => True := by
  have unmoved := (moves r.policy clock).refl s
  rw [loadCache]
  split
  · exact ensures_pure unmoved trivial
  · rename_i p _
    refine aside_bind (keeps_onCache _).attempt unmoved fun listed m moved _ => ?_
    cases listed with
    | error _ => exact ensures_pure moved trivial
    | ok keys =>
      refine ensures_read_bind fun m' drifted => ?_
      have moved := (moves r.policy clock).trans moved (below_moves m m' drifted)
      have loaded := ensures_loadKeys r p (keys.mergeSort fun a b => a ≤ b) (clock.refl m'.now)
      refine (ensures_after loaded moved).bind fun _ m'' moved _ => ?_
      exact aside_bind (keeps_gaugeSize r) moved fun _ _ moved _ => ensures_pure moved trivial

/-! ## Other calls -/

theorem ensures_warmStart (r : Resolver ε) :
    r.warmStart.Ensures (elsewhere clock) s (Moves r.policy clock s) fun _ _ => True := by
  have unmoved := (moves r.policy clock).refl s
  rw [warmStart]
  split
  · exact ensures_pure unmoved trivial
  · split
    · exact ensures_pure unmoved trivial
    · split
      · refine ensures_change fun m drifted => ⟨?_, trivial⟩
        exact (below_moves s m drifted).still rfl rfl
      · exact (ensures_loadCache r).bind fun _ m moved _ => ensures_pure moved trivial

theorem ensures_prepare (r : Resolver ε) :
    r.prepare.Ensures (elsewhere clock) s (Moves r.policy clock s) fun _ _ => True := by
  refine ensures_read_bind fun m drifted => ?_
  have moved : Moves r.policy clock s m := below_moves s m drifted
  cases m.lifecycle with
  | initialized => exact ensures_pure moved trivial
  | destroyed => exact aside_last (keeps_requireInitialized r) moved
  | fresh =>
    refine (ensures_after (ensures_warmStart r) moved).bind fun _ m₁ moved _ => ?_
    refine (ensures_after (ensures_runRefresh r) moved).attempt_bind (fun _ moved => moved)
      fun _ m₂ moved _ => ?_
    refine ensures_change fun m₃ drifted => ⟨?_, trivial⟩
    exact (Moves.aside m₂ m₃ drifted moved).still rfl rfl

theorem ensures_destroy (r : Resolver ε) :
    r.destroy.Ensures (elsewhere clock) s (Moves r.policy clock s) fun _ _ => True := by
  refine ensures_read_bind fun m drifted => ?_
  have moved : Moves r.policy clock s m := below_moves s m drifted
  split
  · exact ensures_pure moved trivial
  · refine ensures_change_bind fun m₁ drifted => ?_
    have later := (moves r.policy clock).trans moved (below_moves m m₁ drifted)
    have emptied : Moves r.policy clock s { m₁ with store := m₁.store.clear, negative := .empty } :=
      later.step (clock.refl m₁.now) (.clear _) rfl
    exact aside_last (keeps_gaugeSize r) (emptied.still rfl rfl)

theorem ensures_clear (r : Resolver ε) :
    r.clear.Ensures (elsewhere clock) s (Moves r.policy clock s) fun _ _ => True := by
  have unmoved := (moves r.policy clock).refl s
  refine aside_bind (keeps_requireInitialized r) unmoved fun _ m moved _ => ?_
  refine ensures_change_bind fun m₁ drifted => ?_
  have later := (moves r.policy clock).trans moved (below_moves m m₁ drifted)
  have cleared : Moves r.policy clock s { m₁ with store := m₁.store.clear, negative := .empty } :=
    later.step (clock.refl m₁.now) (.clear _) rfl
  refine aside_bind (keeps_gaugeSize r) cleared fun _ m₂ moved _ => ?_
  split
  · exact ensures_pure moved trivial
  · refine aside_last ((keeps_onCache _).bind fun keys => ?_) moved
    exact keeps_forEach (fun key => (keeps_onCache _).bind fun _ => keeps_pure ()) keys

theorem ensures_clearEntity (r : Resolver ε) :
    (r.clearEntity id).Ensures (elsewhere clock) s (Moves r.policy clock s) fun _ _ => True := by
  have unmoved := (moves r.policy clock).refl s
  refine aside_bind (keeps_requireInitialized r) unmoved fun _ m moved _ => ?_
  refine ensures_read_bind fun m₁ drifted => ?_
  have moved := (moves r.policy clock).trans moved (below_moves m m₁ drifted)
  refine ensures_change_bind fun m₂ drifted => ?_
  have later := (moves r.policy clock).trans moved (below_moves m₁ m₂ drifted)
  have forgotten : Moves r.policy clock s
      { m₂ with store := m₂.store.remove id, negative := m₂.negative.erase id } :=
    later.step (clock.refl m₂.now) (.forget _ id) rfl
  refine aside_bind (keeps_gaugeSize r) forgotten fun _ m₃ moved _ => ?_
  split
  · exact ensures_pure moved trivial
  · refine aside_last (keeps_forEach (fun key => ?_) _) moved
    exact (keeps_onCache _).bind fun _ => keeps_pure ()

theorem ensures_cleanup (r : Resolver ε) :
    r.cleanup.Ensures (elsewhere clock) s (Moves r.policy clock s) fun _ _ => True := by
  refine ensures_read_bind fun m drifted => ?_
  have moved : Moves r.policy clock s m := below_moves s m drifted
  split
  · exact ensures_pure moved trivial
  · refine ensures_perform_bind fun m₁ drifted => ?_
    have later := (moves r.policy clock).trans moved (below_moves m m₁ drifted)
    refine aside_bind (keeps_gaugeSize r) ?_ fun _ m₂ moved _ => ensures_pure moved trivial
    exact later.step (clock.refl m₁.now) (.sweep _) rfl

/-! ## Calls -/

/-- A call moves the resolver, whatever comes of it. -/
theorem Call.ensures (r : Resolver ε) (c : Call) (vacant : s.flights.AreVacant) :
    (c.task r).Ensures (elsewhere clock) s (Moves r.policy clock s) fun _ _ => True := by
  cases c with
  | prepare => exact ensures_prepare r
  | resolve query =>
    exact (ensures_resolve r vacant).bind fun _ m moved _ => ensures_pure moved trivial
  | refresh =>
    have unmoved := (moves r.policy clock).refl s
    have refreshed : r.refresh.Ensures (elsewhere clock) s (Moves r.policy clock s)
        fun _ _ => True :=
      aside_bind (keeps_requireInitialized r) unmoved fun _ m moved _ =>
        ensures_after (ensures_runRefresh r) moved
    exact refreshed.bind fun _ m moved _ => ensures_pure moved trivial
  | clear => exact ensures_clear r
  | clearEntity id => exact ensures_clearEntity r
  | cleanup => exact (ensures_cleanup r).bind fun _ m moved _ => ensures_pure moved trivial
  | loadCache => exact (ensures_loadCache r).bind fun _ m moved _ => ensures_pure moved trivial
  | destroy => exact ensures_destroy r

variable {s' : ResolverState ε} {r : Resolver ε}

theorem Next.moves (next : Next r clock s s') (vacant : s.flights.AreVacant) :
    Moves r.policy clock s s' := by
  cases next with
  | elsewhere moved => exact below_moves s s' moved
  | call c outcome ran ends => exact (c.ensures r vacant outcome s' ran).1
  | overrun c m ran left =>
    rw [left]
    exact (c.ensures r vacant .overflow m ran).1.still rfl rfl

theorem Follows.moves (follows : Follows r clock s s') (vacant : s.flights.AreVacant) :
    Moves r.policy clock s s' := by
  induction follows with
  | refl => exact (Resolver.moves r.policy clock).refl s
  | tail follows next moved =>
    exact (Resolver.moves r.policy clock).trans moved (next.moves (Follows.vacant follows vacant))

/-- What is held came from nothing by a course of steps. -/
theorem Reachable.course (reached : Reachable r clock s) :
    ∃ indexes, Course r.policy (clock.rel · s.now) ⟨.empty indexes, .empty⟩ s.holdings := by
  obtain ⟨indexes, cache, origin, now, follows⟩ := reached
  refine ⟨indexes, (follows.moves fun f listed => ?_).course⟩
  cases listed

end Resolver

end Federation
