/-
# Refreshing again and again

What refreshes leave adds up: the snapshot that was loaded last is in stock, whatever came after
it, and the status tells of the last attempt and the last update. The persistent cache is not used.
This holds as long as every event is in range. One that is not leaves neither the snapshot before
it nor its own.

## Main definitions

- `Resolver.RefreshHistory`: refreshes one after another.

## Main results

- `Reachable.isOrdered`: no resolver was updated later than it was refreshed.
- `refreshed_of_inRange`: what a resolver is like after refreshes that are in range.
- `unrecordable_update_loses_snapshot`: a refresh that is not.
-/

import Federation.Proofs.Resolver.Keeping
import Federation.Proofs.Resolver.Refreshing
import Federation.Proofs.Resolver.Soundness

namespace Federation

open Federation.Metadata Federation.Time Federation.Task ResolverState

namespace ResolverState

variable {ε : Type}

/-- How the world around a resolver moves while nobody uses its persistent cache. -/
def beside (clock : Drift Instant) : Drift (ResolverState ε) where
  rel s s' := Elsewhere clock s s' ∧ s'.cache = s.cache
  refl s := ⟨(elsewhere clock).refl s, rfl⟩
  trans first second :=
    ⟨(elsewhere clock).trans first.1 second.1, second.2.trans first.2⟩

/-- How a resolver moves that does not use its persistent cache. -/
def uncached : Drift (ResolverState ε) where
  rel s s' := s'.cache = s.cache
  refl _ := rfl
  trans first second := second.trans first

variable {clock : Drift Instant}

theorem beside_below : (beside clock : Drift (ResolverState ε)).Below (elsewhere clock) :=
  fun _ _ moved => moved.1

theorem beside_below_uncached : (beside clock : Drift (ResolverState ε)).Below uncached :=
  fun _ _ moved => moved.2

end ResolverState

namespace Resolver

variable {ε : Type} {r : Resolver ε} {clock : Drift Instant} {drift : Drift (ResolverState ε)}
  {s₀ s s' : ResolverState ε} {event : RefreshEvent} {events : List RefreshEvent}
  {outcome : Outcome (Option Delay)} {now : Instant}

/-! ## Updates and refreshes in time -/

/-- No update is later than the last refresh, and that is not later than now. -/
structure IsOrdered (now : Instant) (s : ResolverState ε) : Prop where
  update_le : ∀ update, s.status.lastUpdate = some update →
    ∃ refresh, s.status.lastRefresh = some refresh ∧ update ≤ refresh
  refresh_le : ∀ refresh, s.status.lastRefresh = some refresh → refresh ≤ now

theorem IsOrdered.congr {later : Instant} (ordered : IsOrdered now s)
    (status : s'.status = s.status) (le : now ≤ later) : IsOrdered later s' where
  update_le := status ▸ ordered.update_le
  refresh_le refresh noted := Instant.le_trans (ordered.refresh_le refresh (status ▸ noted)) le

/-- How a resolver moves whose status is in order whenever the clock is read. -/
def ordering : Drift (ResolverState ε) where
  rel s s' := s.now ≤ s'.now ∧ (IsOrdered s.now s → IsOrdered s'.now s')
  refl s := ⟨Instant.le_refl s.now, fun ordered => ordered⟩
  trans first second := ⟨Instant.le_trans first.1 second.1, second.2 ∘ first.2⟩

theorem ordering_of_status (status : s'.status = s.status) (now : s.now ≤ s'.now) :
    ordering.rel s s' :=
  ⟨now, fun ordered => ordered.congr status now⟩

theorem allows_ordering (id : String) :
    Allows .forward (ordering : Drift (ResolverState ε)) id where
  below _ _ moved := ordering_of_status moved.status moved.now
  read m _ := ordering_of_status rfl (Instant.le_refl m.now)
  fill m _ := ordering_of_status rfl (Instant.le_refl m.now)
  drop m := ordering_of_status rfl (Instant.le_refl m.now)
  mark m _ := ordering_of_status rfl (Instant.le_refl m.now)
  retain m _ := ordering_of_status rfl (Instant.le_refl m.now)
  fly m _ := ordering_of_status rfl (Instant.le_refl m.now)

theorem allowsCalls_ordering : AllowsCalls .forward (ordering : Drift (ResolverState ε)) where
  entities := allows_ordering
  clear m := ordering_of_status rfl (Instant.le_refl m.now)
  forget m _ := ordering_of_status rfl (Instant.le_refl m.now)
  sweep m _ := ordering_of_status rfl (Instant.le_refl m.now)
  request m := ordering_of_status rfl (Instant.le_refl m.now)
  ready m := ordering_of_status rfl (Instant.le_refl m.now)
  destroy m := ordering_of_status rfl (Instant.le_refl m.now)

/-- How a resolver moves while it refreshes, which it does at one reading of the clock. -/
def orderingAt (now : Instant) : Drift (ResolverState ε) where
  rel s s' := s.now ≤ s'.now ∧ (IsOrdered now s → IsOrdered now s')
  refl s := ⟨Instant.le_refl s.now, fun ordered => ordered⟩
  trans first second := ⟨Instant.le_trans first.1 second.1, second.2 ∘ first.2⟩

theorem orderingAt_of_status (status : s'.status = s.status) (forward : s.now ≤ s'.now) :
    (orderingAt now).rel s s' :=
  ⟨forward, fun ordered => ordered.congr status (Instant.le_refl now)⟩

theorem below_orderingAt :
    (elsewhere .forward : Drift (ResolverState ε)).Below (orderingAt now) :=
  fun _ _ moved => orderingAt_of_status moved.status moved.now

theorem allows_orderingAt (id : String) :
    AllowsFetching .forward (orderingAt now : Drift (ResolverState ε)) id where
  below := below_orderingAt
  read m _ := orderingAt_of_status rfl (Instant.le_refl m.now)
  fill m _ := orderingAt_of_status rfl (Instant.le_refl m.now)
  drop m := orderingAt_of_status rfl (Instant.le_refl m.now)
  mark m _ := orderingAt_of_status rfl (Instant.le_refl m.now)
  retain m _ := orderingAt_of_status rfl (Instant.le_refl m.now)

/-- What is noted of an attempt and of an update is in order, for none before was later. -/
theorem notes_orderingAt :
    Notes now (orderingAt now : Drift (ResolverState ε)) where
  attempt m := by
    refine ⟨Instant.le_refl m.now, fun ordered => ⟨fun update noted => ?_, ?_⟩⟩
    · obtain ⟨refresh, earlier, le⟩ := ordered.update_le update noted
      exact ⟨now, rfl, Instant.le_trans le (ordered.refresh_le refresh earlier)⟩
    · rintro refresh ⟨⟩
      exact Instant.le_refl now
  update m := by
    refine ⟨Instant.le_refl m.now, fun _ => ⟨?_, ?_⟩⟩
    · rintro update ⟨⟩
      exact ⟨now, rfl, Instant.le_refl now⟩
    · rintro refresh ⟨⟩
      exact Instant.le_refl now
  rest m _ _ := ⟨Instant.le_refl m.now, fun ordered => ⟨ordered.update_le, ordered.refresh_le⟩⟩

theorem keeps_runRefresh_ordering (r : Resolver ε) :
    r.runRefresh.Keeps (elsewhere .forward) ordering := by
  refine keeps_of_ensures fun s => ensures_read_bind fun m drifted outcome s' ran => ?_
  have refreshed : (r.askRefresh m.now >>= r.acceptRefresh m.now).Keeps (elsewhere .forward)
      (orderingAt m.now) := by
    refine ((keeps_origin _).widen below_orderingAt).attempt.bind fun result => ?_
    refine keeps_acceptRefresh below_orderingAt allows_orderingAt ?_ notes_orderingAt r result
    exact fun m' => orderingAt_of_status rfl (Instant.le_refl m'.now)
  obtain ⟨forward, ordered⟩ := refreshed m outcome s' ran
  refine ⟨⟨Instant.le_trans drifted.now forward, fun before => ?_⟩, fun _ _ => trivial⟩
  exact (ordered (before.congr drifted.status drifted.now)).congr rfl forward

theorem Reachable.isOrdered (reached : Reachable r .forward s) : IsOrdered s.now s := by
  obtain ⟨indexes, cache, origin, now, follows⟩ := reached
  refine (follows.keeps allowsCalls_ordering (keeps_runRefresh_ordering r)).2 ⟨?_, ?_⟩
  · intro update noted
    cases noted
  · intro refresh noted
    cases noted

/-! ## The persistent cache -/

theorem uncached_change {f : ResolverState ε → ResolverState ε}
    (still : ∀ m, (f m).cache = m.cache) : (change f).Keeps (beside clock) uncached :=
  keeps_change beside_below_uncached still

theorem uncached_replaceAll (r : Resolver ε) (entities : List Entity) :
    (r.replaceAll entities now).Keeps (beside clock) uncached := by
  have inserted (group : String × List Entity) :
      (r.insertRecords group.1 group.2 now).Keeps (beside clock) uncached := by
    refine (keeps_ended _).bind fun records => ?_
    split
    · exact keeps_pure []
    · exact (uncached_change (by intro; rfl)).bind fun _ => keeps_pure _
  refine (uncached_change (by intro; rfl)).bind fun _ => ?_
  refine (keeps_forEach (fun group => (inserted group).bind fun _ => keeps_pure ()) _).bind ?_
  exact fun _ => uncached_change (by intro; rfl)

theorem uncached_acceptRefresh (r : Resolver ε) (result : Except Failure RefreshOutcome) :
    (r.acceptRefresh now result).Keeps (beside clock) uncached := by
  have stamped (kind : String) : (r.stamp kind now).Keeps (beside clock) uncached :=
    uncached_change fun _ => rfl
  have noted (f : RefreshStatus → RefreshStatus) :
      (note f : Task (ResolverState ε) Unit).Keeps (beside clock) uncached :=
    uncached_change fun _ => rfl
  have counted (c : Counter) :
      (count c : Task (ResolverState ε) Unit).Keeps (beside clock) uncached :=
    uncached_change fun _ => rfl
  rcases result with failure | ⟨entities, next⟩ | next | _
  · refine (noted _).bind fun _ => (keeps_ended _).bind fun at_ => (noted _).bind fun _ => ?_
    exact (stamped _).bind fun _ => (counted _).bind fun _ => keeps_ended _
  · refine (uncached_replaceAll r entities).bind fun _ => (noted _).bind fun _ => ?_
    refine (keeps_ended _).bind fun at_ => (noted _).bind fun _ => (stamped _).bind fun _ => ?_
    exact (stamped _).bind fun _ => keeps_pure _
  · refine (noted _).bind fun _ => (keeps_ended _).bind fun at_ => (noted _).bind fun _ => ?_
    exact (stamped _).bind fun _ => keeps_pure _
  · exact keeps_pure none

theorem Happens.cache_eq (happens : r.Happens (beside clock) s event outcome s') :
    s'.cache = s.cache := by
  obtain ⟨m, m', moved, -, asked, accepted⟩ := happens
  have asking : (r.askRefresh event.now).Keeps (beside clock) uncached :=
    (keeps_on beside_below_uncached originPart (fun _ _ => rfl) _).attempt
  have aside := asking m _ m' asked
  have taken := uncached_acceptRefresh r event.result m' outcome s' accepted
  exact taken.trans (aside.trans moved.2)

/-! ## Refreshes one after another -/

theorem Happens.mono {wider : Drift (ResolverState ε)} (below : drift.Below wider)
    (happens : r.Happens drift s event outcome s') : r.Happens wider s event outcome s' := by
  obtain ⟨m, m', moved, read, asked, accepted⟩ := happens
  exact ⟨m, m', below s m moved, read, asked.mono below, accepted.mono below⟩

/-- What may have happened to a resolver that was refreshed again and again, while the world
around it moved and nobody used its persistent cache. The last event comes first. -/
inductive RefreshHistory (r : Resolver ε) (clock : Drift Instant) (s₀ : ResolverState ε) :
    List RefreshEvent → ResolverState ε → Prop where
  | start : RefreshHistory r clock s₀ [] s₀
  | elsewhere {events : List RefreshEvent} {s s' : ResolverState ε}
      (before : RefreshHistory r clock s₀ events s) (moved : (beside clock).rel s s') :
      RefreshHistory r clock s₀ events s'
  | refresh {events : List RefreshEvent} {s s' : ResolverState ε} (event : RefreshEvent)
      (outcome : Outcome (Option Delay)) (before : RefreshHistory r clock s₀ events s)
      (happens : r.Happens (beside clock) s event outcome s') :
      RefreshHistory r clock s₀ (event :: events) s'

/-- Refreshing is a call like others. -/
theorem Happens.call (happens : r.Happens (elsewhere clock) s event outcome s')
    (ready : s.lifecycle = .initialized) (inRange : r.InRange event) : Next r clock s s' := by
  have still (m : ResolverState ε) (moved : (elsewhere clock).rel s m) :
      m.lifecycle = s.lifecycle := moved.lifecycle
  have ran := (runs_refresh_iff ready still).2 (.inl ⟨event, happens⟩)
  rw [happens.outcome_eq inRange] at ran
  cases replied : event.reply with
  | ok next =>
    rw [replied] at ran
    exact .call .refresh (.ok ()) (runs_bind.2 (.inl ⟨next, s', ran, rfl, rfl⟩)) (by simp)
  | failed failure =>
    rw [replied] at ran
    exact .call .refresh (.failed failure) (runs_bind.2 (.inr (.inl ⟨failure, rfl, ran⟩))) (by simp)
  | overflow => exact absurd replied (reply_ne_overflow event)

/-- What every event leaves adds up. -/
theorem RefreshHistory.refreshed (history : RefreshHistory r clock s₀ events s)
    (reached : Reachable r clock s₀) (ready : s₀.lifecycle = .initialized)
    (inRange : ∀ event ∈ events, r.InRange event) :
    Reachable r clock s ∧ r.Refreshed events s₀ s ∧ s.cache = s₀.cache := by
  induction history with
  | start =>
    exact ⟨reached, .elsewhere ((ResolverState.elsewhere clock).refl s₀), rfl⟩
  | elsewhere _ moved ih =>
    obtain ⟨reached, refreshed, cache⟩ := ih inRange
    exact ⟨reached.next (.elsewhere moved.1), refreshed.aside moved.1, moved.2.trans cache⟩
  | @refresh events s s' event outcome _ happens ih =>
    obtain ⟨last, before⟩ := List.forall_mem_cons.1 inRange
    obtain ⟨reached, refreshed, cache⟩ := ih before
    have happened := happens.mono beside_below
    exact ⟨reached.next (happened.call (refreshed.lifecycle.trans ready) last),
      (happened.refreshed last).append refreshed, happens.cache_eq.trans cache⟩

/-- **What refreshes do.** Take a resolver that is initialized, whatever happened to it before,
and refresh it again and again while the clock goes forward, with whatever the origin gives, as
long as all dates are in range. Then the snapshot that was loaded last is in stock, which is the
valid descriptions in it and nothing besides, with nothing believed absent, and all that came
after it left the holdings as they were. The indexes follow, the persistent cache was not used,
and the status tells of the last attempt, its failure if it was one, and the last update, which
is not later. The next refresh gives what the origin gives if, and only if, it is in range as
well. The order in which the entities of a snapshot are recorded makes no difference. -/
theorem refreshed_of_inRange (r : Resolver ε) (reached : Reachable r .forward s₀)
    (ready : s₀.lifecycle = .initialized) (history : RefreshHistory r .forward s₀ events s)
    (inRange : ∀ event ∈ events, r.InRange event) :
    r.Refreshed events s₀ s ∧ s.store.IsFiled ∧ s.cache = s₀.cache ∧
    (∀ update, s.status.lastUpdate = some update →
      ∃ refresh, s.status.lastRefresh = some refresh ∧ update ≤ refresh) ∧
    (∀ event outcome s', r.Happens (beside .forward) s event outcome s' →
      outcome = event.reply ∧ r.InRange event ∨ outcome = .overflow ∧ ¬ r.InRange event) ∧
    (∀ entities now groups, groups.Perm (groupById entities) →
      (∀ e ∈ entities, r.policy.record e now ≠ .overflow) →
      ∀ outcome s', (r.replaceBy groups now).Runs (elsewhere .forward) s outcome s' →
        outcome = .ok () ∧ r.Stocks entities now s' ∧ s'.store.IsFiled) := by
  obtain ⟨reached, refreshed, cache⟩ := history.refreshed reached ready inRange
  have filed := reached.isFiled
  refine ⟨refreshed, filed, cache, reached.isOrdered.update_le, ?_, ?_⟩
  · intro event outcome s' happens
    by_cases within : r.InRange event
    · exact .inl ⟨happens.outcome_eq within, within⟩
    · obtain ⟨m, m', -, -, -, accepted⟩ := happens
      exact .inr ⟨comesTo_acceptRefresh_overflow within _ _ _ accepted, within⟩
  · intro entities now groups ordered recordable outcome s' ran
    obtain rfl := comesTo_replaceBy r ordered recordable _ _ _ ran
    obtain ⟨stocks, restocked⟩ := (ensures_replaceBy r ordered _ s' ran).2 () rfl
    exact ⟨rfl, stocks, restocked.filed filed⟩

/-! ### At work -/

/-- Refreshing alone is an event. -/
theorem happens_run {result : Except Failure RefreshOutcome}
    (asked : ((r.askRefresh s.now).run s).1 = .ok result) :
    r.Happens drift s ⟨s.now, result⟩ (r.runRefresh.run s).1 (r.runRefresh.run s).2 := by
  have ran : r.runRefresh.run s
      = (r.acceptRefresh s.now result).run ((r.askRefresh s.now).run s).2 := by
    show (r.askRefresh s.now >>= r.acceptRefresh s.now).run s = _
    rw [run_then]
    generalize (r.askRefresh s.now).run s = answer at asked
    obtain ⟨outcome, m⟩ := answer
    obtain rfl := asked
    rfl
  have asking := runs_run drift (r.askRefresh s.now) s
  rw [asked] at asking
  refine ⟨s, _, drift.refl s, rfl, asking, ?_⟩
  rw [ran]
  exact runs_run drift _ _

/-- An initialized resolver whose origin has something to refresh from. -/
def refreshing (refreshes : List (Except Failure RefreshOutcome)) (now : Instant) :
    ResolverState Origin.Script :=
  { rehearsal "" (.ok none) now with origin := { Origin.Script.empty with refreshes := refreshes } }

theorem reachable_refreshing (refreshes : List (Except Failure RefreshOutcome)) (now : Instant) :
    Reachable (rehearsed .standard) clock (refreshing refreshes now) :=
  (reachable_rehearsal clock .standard "" (.ok none) now).next
    (.elsewhere ⟨clock.refl now, rfl, rfl, rfl, rfl, rfl, rfl⟩)

/-- A snapshot of two entities, the first of which it describes twice, but only once validly. -/
def loaded : List Entity :=
  [.ofId "https://idp.example.org", .ofId "https://other.example.org",
    (Entity.ofId "https://idp.example.org").withValidUntil ⟨0, 0⟩]

/-- The resolver after it was refreshed with that snapshot. -/
def afterSnapshot (next : Except Failure RefreshOutcome) : ResolverState Origin.Script :=
  ((rehearsed .standard).runRefresh.run (refreshing [.ok (.updated loaded none), next] ⟨0, 0⟩)).2

theorem history_afterSnapshot (next : Except Failure RefreshOutcome) :
    RefreshHistory (rehearsed .standard) clock
      (refreshing [.ok (.updated loaded none), next] ⟨0, 0⟩)
      [⟨⟨0, 0⟩, .ok (.updated loaded none)⟩] (afterSnapshot next) :=
  .refresh _ _ .start (happens_run rfl)

theorem inRange_loaded : (rehearsed .standard).InRange ⟨⟨0, 0⟩, .ok (.updated loaded none)⟩ := by
  refine ⟨?_, by decide⟩
  decide

/-- A failure of the next refresh, a minute later, leaves the snapshot in stock. -/
theorem refreshed_after_failure :
    let s := { afterSnapshot (.error (.fetchFailed "down")) with now := ⟨60, 0⟩ }
    let s' := ((rehearsed .standard).runRefresh.run s).2
    s'.store.descriptionsOf "https://idp.example.org" = [.ofId "https://idp.example.org"] ∧
      s'.status.lastUpdate = some ⟨0, 0⟩ ∧ s'.status.lastRefresh = some ⟨60, 0⟩ ∧
      s'.status.lastError = some "Fetch failed: down" := by
  intro s s'
  have waited : (beside .forward).rel (afterSnapshot (.error (.fetchFailed "down"))) s := by
    have later : (⟨0, 0⟩ : Instant) ≤ ⟨60, 0⟩ := by decide
    exact ⟨⟨later, rfl, rfl, rfl, rfl, rfl, rfl⟩, rfl⟩
  have history : RefreshHistory (rehearsed .standard) .forward _
      [⟨⟨60, 0⟩, .error (.fetchFailed "down")⟩, ⟨⟨0, 0⟩, .ok (.updated loaded none)⟩] s' :=
    .refresh _ _ (.elsewhere (history_afterSnapshot _) waited) (happens_run rfl)
  have failed : (rehearsed .standard).InRange ⟨⟨60, 0⟩, .error (.fetchFailed "down")⟩ := by
    show instantAfter ⟨60, 0⟩ none ≠ .overflow
    decide
  have inRange := List.forall_mem_cons.2 ⟨failed, List.forall_mem_singleton.2 inRange_loaded⟩
  have refreshed := (refreshed_of_inRange _ (reachable_refreshing _ _) rfl history inRange).1
  have held := (refreshed.stocks loaded ⟨0, 0⟩ rfl).held "https://idp.example.org"
  exact ⟨held.trans (by decide), refreshed.lastUpdate, refreshed.lastRefresh,
    refreshed.lastError.trans (by decide)⟩

/-- A description that asks to be cached for longer than any span. -/
def unending : Entity :=
  { Entity.ofId "https://other.example.org" with cacheSeconds := some 10000000000000000 }

/-- An update with that description is cut short when it is recorded, although it is valid. By
then the snapshot is gone; nothing has come in its place, and the status does not tell. -/
theorem unrecordable_update_loses_snapshot :
    let s := afterSnapshot (.ok (.updated [unending] none))
    let s' := ((rehearsed .standard).runRefresh.run s).2
    Reachable (rehearsed .standard) .forward s ∧ s.lifecycle = .initialized ∧
      (rehearsed .standard).Happens (beside .forward) s ⟨⟨0, 0⟩, .ok (.updated [unending] none)⟩
        .overflow s' ∧
      unending.isValidAt ⟨0, 0⟩ = true ∧
      s.store.descriptionsOf "https://idp.example.org" = [.ofId "https://idp.example.org"] ∧
      s'.store.size = 0 ∧ s'.status = s.status := by
  intro s s'
  have reached : Reachable (rehearsed .standard) .forward s :=
    ((history_afterSnapshot _).refreshed (reachable_refreshing _ _) rfl
      (List.forall_mem_singleton.2 inRange_loaded)).1
  exact ⟨reached, rfl, happens_run rfl, by decide, by decide, by decide, by decide⟩

end Resolver

end Federation
