/-
# Flights between calls

A call that fetches an entity starts a flight for it, or boards the one that it finds on the list,
and strikes it off when it leaves. A call that breaks off leaves it on the list. So when calls come
one after another, nobody is aboard of any flight between them, and no call ever has to wait.

## Main results

- `flights_fetchInTurn`: what becomes of the flights when an entity is fetched.
- `Reachable.vacant`: between calls nobody is aboard of any flight.
-/

import Federation.Proofs.Resolver.Flights
import Federation.Proofs.Resolver.Keeping

namespace Federation

open Federation.Metadata Federation.Time Federation.Task ResolverState

namespace ResolverState

variable {ε : Type} {clock : Drift Instant}

/-- No flight is started or left. -/
def grounded : Drift (ResolverState ε) where
  rel s s' := s'.flights = s.flights
  refl _ := rfl
  trans first second := second.trans first

/-- If nobody was aboard of any flight, nobody is. -/
def vacating : Drift (ResolverState ε) where
  rel s s' := s.flights.AreVacant → s'.flights.AreVacant
  refl _ vacant := vacant
  trans first second vacant := second (first vacant)

theorem grounded_below_vacating : (grounded : Drift (ResolverState ε)).Below vacating := by
  intro s s' same vacant
  rw [same]
  exact vacant

theorem below_grounded : (elsewhere clock : Drift (ResolverState ε)).Below grounded :=
  fun _ _ moved => moved.flights

theorem below_vacating : (elsewhere clock : Drift (ResolverState ε)).Below vacating :=
  fun s s' moved => grounded_below_vacating s s' moved.flights

end ResolverState

namespace Resolver

variable {ε α : Type} {clock : Drift Instant} {s s' : ResolverState ε} {now : Instant} {id : String}
  {query : Criteria} {ticket : Ticket} {before : Flights}

/-! ## Parts that leave the flights alone -/

theorem grounded_allows (id : String) :
    AllowsFetching clock (grounded : Drift (ResolverState ε)) id where
  below := below_grounded
  read _ _ := rfl
  fill _ _ := rfl
  drop _ := rfl
  mark _ _ := rfl
  retain _ _ := rfl

theorem grounded_fetchUnlessCached (r : Resolver ε) :
    (r.fetchUnlessCached id query).Keeps (elsewhere clock) grounded :=
  (grounded_allows id).keeps_fetchUnlessCached ((grounded_allows id).keeps_fetchEntity r)

theorem grounded_runRefresh (r : Resolver ε) : r.runRefresh.Keeps (elsewhere clock) grounded :=
  keeps_runRefresh below_grounded grounded_allows (fun _ => rfl)
    (fun _ => ⟨fun _ => rfl, fun _ => rfl, fun _ _ _ => rfl⟩) r

/-- What leaves the flights alone leaves them vacant, whatever it comes to. -/
theorem restores_vacating {t : Task (ResolverState ε) α}
    (h : t.Keeps (elsewhere clock) grounded) : t.Restores (elsewhere clock) vacating :=
  (h.widen grounded_below_vacating).restores

/-! ## Fetching in turn -/

/-- A call that holds its flight hands it over to nobody, since it is alone aboard. -/
theorem carry_fetchHolding (r : Resolver ε) {outcome : Outcome (List Entity)}
    (alone : Flights.Carry id ticket (some ticket) before s.flights)
    (ran : (r.fetchHolding ticket id query).Runs (elsewhere clock) s outcome s')
    (ends : outcome ≠ .overflow) : Flights.Carry id ticket none before s'.flights := by
  obtain ⟨tried, result, m, -, looked, ran⟩ := exists_runs_attempt ran ends
  obtain ⟨m', drifted, -, rfl⟩ := runs_change_bind.1 ran
  have same : m'.flights = s.flights :=
    drifted.flights.trans (grounded_fetchUnlessCached r _ _ m looked)
  show Flights.Carry id ticket none before (m'.flights.release ticket)
  rw [same]
  exact alone.release

/-- A call that is alone aboard does not wait. -/
theorem carry_fly (r : Resolver ε) {outcome : Outcome (List Entity)}
    (alone : Flights.Carry id ticket none before s.flights)
    (ran : (r.fly ticket id query now).Runs (elsewhere clock) s outcome s')
    (ends : outcome ≠ .overflow) : Flights.Carry id ticket none before s'.flights := by
  obtain ⟨m, drifted, ran⟩ := runs_perform_bind.1 ran
  rw [← drifted.flights] at alone
  rw [if_pos alone.tryHold.1] at ran
  exact carry_fetchHolding r alone.tryHold.2 ran ends

/-- When an entity has been fetched, its flight is not on the list any longer, whoever put it there.
All others are. -/
theorem flights_fetchInTurn (r : Resolver ε) {outcome : Outcome (List Entity)}
    (vacant : s.flights.AreVacant)
    (ran : (r.fetchInTurn id query now).Runs (elsewhere clock) s outcome s')
    (ends : outcome ≠ .overflow) :
    s'.flights.all = s.flights.all.filter (·.entityId != id) := by
  obtain ⟨m, boarded, ran⟩ := runs_perform_bind.1 ran
  obtain ⟨tried, result, m₁, returned, flown, ran⟩ := exists_runs_attempt ran ends
  obtain ⟨m₂, left, ran⟩ := runs_change_bind.1 ran
  obtain ⟨m₃, retired, -, rfl⟩ := runs_change_bind.1 ran
  rw [← boarded.flights] at vacant ⊢
  have landed := carry_fly r (vacant.board id) flown returned
  show (m₃.flights.retire id).all = _
  rw [retired.flights]
  show ((m₂.flights.leave _).retire id).all = _
  rw [left.flights]
  exact landed.retire_board

theorem vacating_fetchInTurn (r : Resolver ε) :
    (r.fetchInTurn id query now).Restores (elsewhere clock) vacating := by
  intro s outcome s' ran ends vacant f listed
  rw [flights_fetchInTurn r vacant ran ends] at listed
  exact vacant f (List.mem_filter.1 listed).1

/-! ## Queries -/

theorem vacating_resolveEntityId (r : Resolver ε) :
    (r.resolveEntityId id query).Restores (elsewhere clock) vacating := by
  have counted (c : Counter) : (ResolverState.count c : Task (ResolverState ε) Unit).Restores
      (elsewhere clock) vacating :=
    ((keeps_count c).widen below_vacating).restores
  refine (keeps_read below_vacating _).restores.bind fun now => ?_
  refine (restores_vacating (grounded_allows id).keeps_liveDescriptions).bind fun found => ?_
  split
  · exact (counted _).bind fun _ => (keeps_pure _).restores
  · refine (counted _).bind fun _ => ?_
    refine (keeps_read below_vacating _).restores.bind fun absent => ?_
    split
    · exact (keeps_pure []).restores
    · split
      · exact vacating_fetchInTurn r
      · exact restores_vacating ((grounded_allows id).keeps_fetchEntity r)

/-- So the flights are vacant when the next query begins. -/
theorem ensures_vacant_resolveEntityId (r : Resolver ε) (vacant : s.flights.AreVacant) :
    (r.resolveEntityId id query).Ensures (elsewhere clock) s (fun _ => True)
      fun _ s' => s'.flights.AreVacant := by
  refine ensures_ran.imp (fun _ _ => trivial) fun es s' _ ran => ?_
  exact vacating_resolveEntityId r s _ s' ran (by simp) vacant

theorem vacating_resolve (r : Resolver ε) :
    (r.resolve query).Restores (elsewhere clock) vacating := by
  refine ((keeps_requireInitialized r).widen below_vacating).restores.bind fun _ => ?_
  refine Restores.bind (Restores.attempt ?_) fun answer => ?_
  · cases query.entityId with
    | some id => exact vacating_resolveEntityId r
    | none =>
      refine (keeps_read below_vacating _).restores.bind fun ids => ?_
      split
      · exact restores_vacating (keeps_fetchSecondary below_grounded grounded_allows r)
      · refine (restores_collect (fun id => vacating_resolveEntityId r) _).bind fun all => ?_
        exact (keeps_pure _).restores
  · refine ((keeps_count _).widen below_vacating).restores.bind fun _ => ?_
    exact (keeps_ended _).restores

/-! ## Whatever happens -/

/-- Every call that returns leaves the flights vacant, if it found them so. -/
theorem Call.vacating (r : Resolver ε) (c : Call) :
    (c.task r).Restores (elsewhere clock) vacating := by
  have refreshed : r.runRefresh.Keeps (elsewhere clock) grounded := grounded_runRefresh r
  cases c with
  | prepare =>
    refine restores_vacating (keeps_prepare below_grounded grounded_allows ?_ ?_ r refreshed)
    · exact fun _ => rfl
    · exact fun _ => rfl
  | resolve query => exact (vacating_resolve r).bind fun _ => (keeps_pure ()).restores
  | refresh =>
    have called : r.refresh.Keeps (elsewhere clock) grounded :=
      ((keeps_requireInitialized r).widen below_grounded).bind fun _ => refreshed
    exact restores_vacating (called.bind fun _ => keeps_pure ())
  | clear => exact restores_vacating (keeps_clear below_grounded (fun _ => rfl) r)
  | clearEntity id => exact restores_vacating (keeps_clearEntity below_grounded (fun _ => rfl) r)
  | cleanup =>
    have swept : r.cleanup.Keeps (elsewhere clock) grounded :=
      keeps_cleanup below_grounded (fun _ _ => rfl) r
    exact restores_vacating (swept.bind fun _ => keeps_pure ())
  | loadCache =>
    have loaded : r.loadCache.Keeps (elsewhere clock) grounded :=
      keeps_loadCache below_grounded grounded_allows r
    exact restores_vacating (loaded.bind fun _ => keeps_pure ())
  | destroy => exact (keeps_destroy below_vacating (fun _ vacant => vacant.close) r).restores

variable {r : Resolver ε}

theorem Next.vacant (next : Next r clock s s') (vacant : s.flights.AreVacant) :
    s'.flights.AreVacant := by
  cases next with
  | elsewhere moved => exact below_vacating s s' moved vacant
  | call c outcome ran ends => exact c.vacating r s outcome s' ran ends vacant
  | overrun c m ran left =>
    rw [left]
    exact Flights.areVacant_desert m.flights

theorem Follows.vacant (follows : Follows r clock s s') (vacant : s.flights.AreVacant) :
    s'.flights.AreVacant := by
  induction follows with
  | refl => exact vacant
  | tail _ next ih => exact next.vacant ih

/-- Between calls nobody is aboard of any flight. -/
theorem Reachable.vacant (reached : Reachable r clock s) : s.flights.AreVacant := by
  obtain ⟨indexes, cache, origin, now, follows⟩ := reached
  exact follows.vacant (Flights.areVacant_of_all_eq_nil rfl)

end Resolver

end Federation
