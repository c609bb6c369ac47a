/-
# Refreshing once

An origin may load everything anew, find nothing changed, have nothing to refresh, or fail. Only
the first replaces what the resolver holds; the others leave it as it is, and all but the third
are noted in the status. Taking in what came of it computes dates from the durations that the
origin states, and one of them may be out of range: the resolver then stops halfway, after it has
dropped what it held.

## Main definitions

- `RefreshEvent`: what came of one refresh, and when it was begun.
- `Resolver.InRange`: all that taking in an event computes is in range.
- `Resolver.Refreshed`: what a resolver is like after some events, compared to before.
- `Resolver.Happens`: an event, as it happens to a resolver.

## Main results

- `comesTo_acceptRefresh`, `comesTo_acceptRefresh_overflow`: what a refresh gives.
- `runs_refresh_iff`: every refresh of an initialized resolver is an event.
- `Happens.refreshed`: what an event leaves.
-/

import Federation.Proofs.Resolver.Calls
import Federation.Proofs.Resolver.Restocking

namespace Federation

open Federation.Metadata Federation.Time Federation.Task ResolverState

/-! ## Events -/

/-- What came of refreshing the origin once, and the reading of the clock before. -/
structure RefreshEvent where
  now : Instant
  result : Except Failure RefreshOutcome

namespace RefreshEvent

/-- Was there anything to refresh? -/
def isAttempt (event : RefreshEvent) : Bool :=
  match event.result with
  | .ok .notApplicable => false
  | _ => true

/-- The entities that were loaded anew, and when. -/
def snapshot? (event : RefreshEvent) : Option (List Entity × Instant) :=
  match event.result with
  | .ok (.updated entities _) => some (entities, event.now)
  | _ => none

/-- The message of the failure, if that is what came of it. -/
def error? (event : RefreshEvent) : Option String :=
  match event.result with
  | .ok _ => none
  | .error failure => some failure.message

/-- What the resolver gives to whoever had it refreshed. -/
def reply (event : RefreshEvent) : Outcome (Option Delay) :=
  match event.result with
  | .ok (.updated _ next) => .ok next
  | .ok (.unchanged next) => .ok next
  | .ok .notApplicable => .ok none
  | .error failure => .failed failure

theorem of_snapshot? {event : RefreshEvent} {entities : List Entity} {now : Instant}
    (loaded : event.snapshot? = some (entities, now)) :
    now = event.now ∧ event.isAttempt = true := by
  obtain ⟨at_, failure | ⟨_, _⟩ | _ | _⟩ := event <;> simp_all [snapshot?, isAttempt]

end RefreshEvent

namespace Resolver

variable {ε : Type} {r : Resolver ε} {clock : Drift Instant} {drift : Drift (ResolverState ε)}
  {s₀ s m s' : ResolverState ε} {event : RefreshEvent} {events later : List RefreshEvent}
  {outcome : Outcome (Option Delay)} {now : Instant} {next : Option Delay}

/-- All dates that taking in an event computes are in range: when the descriptions expire that
were loaded, and when to refresh again. -/
def InRange (r : Resolver ε) (event : RefreshEvent) : Prop :=
  match event.result with
  | .ok (.updated entities next) =>
    (∀ e ∈ entities, r.policy.record e event.now ≠ .overflow) ∧
      instantAfter event.now next ≠ .overflow
  | .ok (.unchanged next) => instantAfter event.now next ≠ .overflow
  | .ok .notApplicable => True
  | .error _ => instantAfter event.now r.origin.retryDelay ≠ .overflow

/-! ## What a refresh gives -/

theorem instantAfter_eq_ok_or_overflow (now : Instant) (next : Option Delay) :
    (∃ at_, instantAfter now next = .ok at_) ∨ instantAfter now next = .overflow := by
  rw [instantAfter]
  split
  · exact .inl ⟨none, rfl⟩
  · rename_i span _
    cases now.add? span with
    | none => exact .inr rfl
    | some at_ => exact .inl ⟨some at_, rfl⟩

theorem exists_instantAfter (inRange : instantAfter now next ≠ .overflow) :
    ∃ at_, instantAfter now next = .ok at_ :=
  (instantAfter_eq_ok_or_overflow now next).resolve_right inRange

/-- In range, the resolver gives what the origin gave. -/
theorem comesTo_acceptRefresh (inRange : r.InRange event) :
    (r.acceptRefresh event.now event.result).ComesTo drift event.reply := by
  obtain ⟨now, failure | entities | next | _⟩ := event
  · obtain ⟨at_, computed⟩ := exists_instantAfter inRange
    simp only [acceptRefresh, computed]
    exact (comesTo_change _).bind ((comesTo_ended _).bind ((comesTo_change _).bind
      ((comesTo_change _).bind ((comesTo_change _).bind (comesTo_ended _)))))
  · obtain ⟨recordable, inRange⟩ := inRange
    obtain ⟨at_, computed⟩ := exists_instantAfter inRange
    simp only [acceptRefresh, replaceAll_eq, computed]
    exact (comesTo_replaceBy r (.refl _) recordable).bind ((comesTo_change _).bind
      ((comesTo_ended _).bind ((comesTo_change _).bind ((comesTo_change _).bind
        ((comesTo_change _).bind (comesTo_ended _))))))
  · obtain ⟨at_, computed⟩ := exists_instantAfter inRange
    simp only [acceptRefresh, computed]
    exact (comesTo_change _).bind ((comesTo_ended _).bind ((comesTo_change _).bind
      ((comesTo_change _).bind (comesTo_ended _))))
  · exact comesTo_ended _

theorem comesTo_acceptRefresh_overflow (outside : ¬ r.InRange event) :
    (r.acceptRefresh event.now event.result).ComesTo drift .overflow := by
  obtain ⟨now, failure | ⟨entities, next⟩ | next | _⟩ := event
  · have computed := Classical.not_not.1 outside
    simp only [acceptRefresh, computed]
    exact (comesTo_change _).bind ((comesTo_ended _).bind_overflow _)
  · by_cases recordable : ∀ e ∈ entities, r.policy.record e now ≠ .overflow
    · have computed := Classical.not_not.1 fun inRange => outside ⟨recordable, inRange⟩
      simp only [acceptRefresh, replaceAll_eq, computed]
      exact (comesTo_replaceBy r (.refl _) recordable).bind ((comesTo_change _).bind
        ((comesTo_ended _).bind_overflow _))
    · simp only [not_forall, Classical.not_not] at recordable
      obtain ⟨e, listed, overflows⟩ := recordable
      simp only [acceptRefresh, replaceAll_eq]
      exact (comesTo_replaceBy_overflow r (.refl _) listed overflows).bind_overflow _
  · have computed := Classical.not_not.1 outside
    simp only [acceptRefresh, computed]
    exact (comesTo_change _).bind ((comesTo_ended _).bind_overflow _)
  · exact absurd trivial outside

/-! ## What refreshes leave -/

/-- What a resolver is like after some events, of which the last comes first. The snapshot that
was loaded last is in stock, and if there is none, what was held before; the status tells of the
last attempt and the last update. -/
structure Refreshed (r : Resolver ε) (events : List RefreshEvent) (s s' : ResolverState ε) :
    Prop where
  lifecycle : s'.lifecycle = s.lifecycle
  kept : events.findSome? (·.snapshot?) = none → s'.store = s.store ∧ s'.negative = s.negative
  stocks : ∀ entities now, events.findSome? (·.snapshot?) = some (entities, now) →
    r.Stocks entities now s'
  indexes : s'.store.indexes = s.store.indexes
  lastRefresh : s'.status.lastRefresh
    = ((events.find? (·.isAttempt)).map (·.now)).or s.status.lastRefresh
  lastUpdate : s'.status.lastUpdate
    = ((events.findSome? (·.snapshot?)).map (·.2)).or s.status.lastUpdate
  lastError : s'.status.lastError
    = (events.find? (·.isAttempt)).elim s.status.lastError (·.error?)

namespace Refreshed

/-- Events after others. -/
theorem append (after : r.Refreshed later m s') (before : r.Refreshed events s m) :
    r.Refreshed (later ++ events) s s' where
  lifecycle := after.lifecycle.trans before.lifecycle
  kept := by
    intro none_loaded
    rw [List.findSome?_append, Option.or_eq_none_iff] at none_loaded
    obtain ⟨store, negative⟩ := after.kept none_loaded.1
    obtain ⟨store', negative'⟩ := before.kept none_loaded.2
    exact ⟨store.trans store', negative.trans negative'⟩
  stocks := by
    intro entities now loaded
    rw [List.findSome?_append, Option.or_eq_some_iff] at loaded
    rcases loaded with loaded | ⟨none_loaded, loaded⟩
    · exact after.stocks entities now loaded
    · obtain ⟨store, negative⟩ := after.kept none_loaded
      exact (before.stocks entities now loaded).congr store negative
  indexes := after.indexes.trans before.indexes
  lastRefresh := by
    rw [after.lastRefresh, before.lastRefresh, List.find?_append, Option.map_or, Option.or_assoc]
  lastUpdate := by
    rw [after.lastUpdate, before.lastUpdate, List.findSome?_append, Option.map_or,
      Option.or_assoc]
  lastError := by
    rw [after.lastError, before.lastError, List.find?_append]
    cases later.find? (·.isAttempt) <;> rfl

/-- What the world around a resolver does is no event. -/
theorem elsewhere (moved : Elsewhere clock s s') : r.Refreshed [] s s' where
  lifecycle := moved.lifecycle
  kept _ := ⟨moved.store, moved.negative⟩
  stocks _ _ loaded := by cases loaded
  indexes := by rw [moved.store]
  lastRefresh := by rw [moved.status]; rfl
  lastUpdate := by rw [moved.status]; rfl
  lastError := by rw [moved.status]; rfl

theorem aside (refreshed : r.Refreshed events s m) (moved : Elsewhere clock m s') :
    r.Refreshed events s s' :=
  (elsewhere moved).append refreshed

/-- An event without new entities is noted only. -/
theorem of_noted (still : event.snapshot? = none) (attempted : event.isAttempt = true)
    (lifecycle : s'.lifecycle = s.lifecycle) (store : s'.store = s.store)
    (negative : s'.negative = s.negative) (lastRefresh : s'.status.lastRefresh = some event.now)
    (lastUpdate : s'.status.lastUpdate = s.status.lastUpdate)
    (lastError : s'.status.lastError = event.error?) : r.Refreshed [event] s s' where
  lifecycle := lifecycle
  kept _ := ⟨store, negative⟩
  stocks entities now loaded := by
    rw [List.findSome?_singleton, still] at loaded
    cases loaded
  indexes := by rw [store]
  lastRefresh := by rw [List.find?_singleton, if_pos attempted]; exact lastRefresh
  lastUpdate := by rw [List.findSome?_singleton, still]; exact lastUpdate
  lastError := by rw [List.find?_singleton, if_pos attempted]; exact lastError

/-- Where there is nothing to refresh, nothing happens. -/
theorem of_idle (idle : event.isAttempt = false) (still : event.snapshot? = none) :
    r.Refreshed [event] s s where
  lifecycle := rfl
  kept _ := ⟨rfl, rfl⟩
  stocks entities now loaded := by
    rw [List.findSome?_singleton, still] at loaded
    cases loaded
  indexes := rfl
  lastRefresh := by rw [List.find?_singleton, idle]; rfl
  lastUpdate := by rw [List.findSome?_singleton, still]; rfl
  lastError := by rw [List.find?_singleton, idle]; rfl

/-- New entities take the place of what was held. -/
theorem of_updated {entities : List Entity} (stocks : r.Stocks entities now s')
    (lifecycle : s'.lifecycle = s.lifecycle) (indexes : s'.store.indexes = s.store.indexes)
    (lastRefresh : s'.status.lastRefresh = some now) (lastUpdate : s'.status.lastUpdate = some now)
    (lastError : s'.status.lastError = none) :
    r.Refreshed [⟨now, .ok (.updated entities next)⟩] s s' where
  lifecycle := lifecycle
  kept none_loaded := by cases none_loaded
  stocks entities' now' loaded := by
    obtain ⟨rfl, rfl⟩ := Prod.mk.inj (Option.some_inj.1 loaded)
    exact stocks
  indexes := indexes
  lastRefresh := lastRefresh
  lastUpdate := lastUpdate
  lastError := lastError

end Refreshed

/-- A part of a task that leaves the resolver alone. -/
theorem refreshed_bind {α β : Type} {t : Task (ResolverState ε) α}
    {k : α → Task (ResolverState ε) β} (aside : t.Keeps (elsewhere clock) (elsewhere clock))
    (refreshed : r.Refreshed events s₀ s)
    (next : ∀ a m, r.Refreshed events s₀ m →
      (k a).Ensures (elsewhere clock) m (r.Refreshed events s₀) fun _ _ => True) :
    (t >>= k).Ensures (elsewhere clock) s (r.Refreshed events s₀) fun _ _ => True :=
  aside.bind_ensures (fun _ _ moved refreshed => refreshed.aside moved) refreshed
    fun a m refreshed _ => next a m refreshed

/-- Taking in an event that is in range. -/
theorem ensures_acceptRefresh_refreshed (inRange : r.InRange event) :
    (r.acceptRefresh event.now event.result).Ensures (elsewhere clock) s (r.Refreshed [event] s)
      fun _ _ => True := by
  obtain ⟨now, failure | ⟨entities, next⟩ | next | _⟩ := event
  · -- It has failed: the failure is noted, and what is held stays.
    obtain ⟨at_, computed⟩ := exists_instantAfter inRange
    simp only [acceptRefresh, computed]
    refine ensures_change_bind fun m moved => ?_
    refine ensures_pure_bind (ensures_change_bind fun m' later => ?_)
    have noted : r.Refreshed [⟨now, .error failure⟩] m { m' with status := { m'.status with
        nextRefresh := at_, lastError := some failure.message } } :=
      .of_noted rfl rfl later.lifecycle later.store later.negative (by rw [later.status])
        (by rw [later.status]) rfl
    have refreshed := noted.append (.elsewhere moved)
    refine refreshed_bind (keeps_stamp r _) refreshed fun _ m refreshed => ?_
    refine refreshed_bind (keeps_count _) refreshed fun _ m refreshed => ?_
    exact ensures_fail refreshed
  · -- There is an update, which replaces what was held.
    obtain ⟨recordable, inRange⟩ := inRange
    obtain ⟨at_, computed⟩ := exists_instantAfter inRange
    simp only [acceptRefresh, replaceAll_eq, computed]
    refine (comesTo_replaceBy r (.refl _) recordable).bind_ensures
      (ensures_replaceBy r (.refl _)) fun m₁ _ ⟨stocks, restocked⟩ => ?_
    refine ensures_change_bind fun m moved => ?_
    refine ensures_pure_bind (ensures_change_bind fun m' later => ?_)
    have store : m'.store = m₁.store := later.store.trans moved.store
    have refreshed : r.Refreshed [⟨now, .ok (.updated entities next)⟩] s { m' with status :=
        { m'.status with nextRefresh := at_, lastError := none } } :=
      .of_updated (stocks.congr store (later.negative.trans moved.negative))
        (later.lifecycle.trans (moved.lifecycle.trans restocked.lifecycle))
        (store ▸ restocked.indexes) (by rw [later.status]) (by rw [later.status]) rfl
    refine refreshed_bind (keeps_stamp r _) refreshed fun _ m refreshed => ?_
    refine refreshed_bind (keeps_stamp r _) refreshed fun _ m refreshed => ?_
    exact ensures_pure refreshed trivial
  · -- Nothing has changed: the times are noted.
    obtain ⟨at_, computed⟩ := exists_instantAfter inRange
    simp only [acceptRefresh, computed]
    refine ensures_change_bind fun m moved => ?_
    refine ensures_pure_bind (ensures_change_bind fun m' later => ?_)
    have noted : r.Refreshed [⟨now, .ok (.unchanged next)⟩] m { m' with status :=
        { m'.status with nextRefresh := at_, lastError := none } } :=
      .of_noted rfl rfl later.lifecycle later.store later.negative (by rw [later.status])
        (by rw [later.status]) rfl
    have refreshed := noted.append (.elsewhere moved)
    refine refreshed_bind (keeps_stamp r _) refreshed fun _ m refreshed => ?_
    exact ensures_pure refreshed trivial
  · -- There was no refresh.
    exact ensures_pure (.of_idle rfl rfl) trivial

/-! ## One refresh -/

/-- The resolver asks the origin to refresh. -/
def askRefresh (r : Resolver ε) (now : Instant) :
    Task (ResolverState ε) (Except Failure RefreshOutcome) :=
  ((r.origin.refresh r.filters ⟨now, r.id⟩).on ResolverState.originPart).attempt

/-- An event happens: the clock is read, the origin gives the result, and it is taken in. -/
def Happens (r : Resolver ε) (drift : Drift (ResolverState ε)) (s : ResolverState ε)
    (event : RefreshEvent) (outcome : Outcome (Option Delay)) (s' : ResolverState ε) : Prop :=
  ∃ m m', drift.rel s m ∧ m.now = event.now ∧
    (r.askRefresh event.now).Runs drift m (.ok event.result) m' ∧
    (r.acceptRefresh event.now event.result).Runs drift m' outcome s'

/-- The origin meets a date or duration out of range itself. -/
def OriginOverflows (r : Resolver ε) (drift : Drift (ResolverState ε))
    (s s' : ResolverState ε) : Prop :=
  ∃ m, drift.rel s m ∧ (r.askRefresh m.now).Runs drift m .overflow s'

/-- Every refresh is an event, unless the origin is cut short. -/
theorem runs_runRefresh_iff :
    r.runRefresh.Runs drift s outcome s' ↔
      (∃ event, r.Happens drift s event outcome s') ∨
      (outcome = .overflow ∧ r.OriginOverflows drift s s') := by
  -- After the clock is read, asking and taking in are all there is.
  have unfolded : r.runRefresh.Runs drift s outcome s' ↔ ∃ m, drift.rel s m ∧
      (r.askRefresh m.now >>= r.acceptRefresh m.now).Runs drift m outcome s' := Iff.rfl
  simp only [unfolded, runs_bind]
  constructor
  · rintro ⟨m, moved, ⟨result, m', asked, accepted⟩ | ⟨failure, -, asked⟩ | ⟨rfl, asked⟩⟩
    · exact .inl ⟨⟨m.now, result⟩, m, m', moved, rfl, asked, accepted⟩
    · -- A failure of the origin is a result.
      obtain ⟨result, -, same⟩ := runs_attempt asked
      cases result <;> cases same
    · exact .inr ⟨rfl, m, moved, asked⟩
  · rintro (⟨⟨now, result⟩, m, m', moved, rfl, asked, accepted⟩ | ⟨rfl, m, moved, asked⟩)
    · exact ⟨m, moved, .inl ⟨result, m', asked, accepted⟩⟩
    · exact ⟨m, moved, .inr (.inr ⟨rfl, asked⟩)⟩

/-- An initialized resolver that is called to refresh does just that. -/
theorem runs_refresh_iff (ready : s.lifecycle = .initialized)
    (still : ∀ m, drift.rel s m → m.lifecycle = s.lifecycle) :
    r.refresh.Runs drift s outcome s' ↔
      (∃ event, r.Happens drift s event outcome s') ∨
      (outcome = .overflow ∧ r.OriginOverflows drift s s') := by
  -- The check finds the resolver initialized, however the state has drifted.
  have checked : r.refresh.Runs drift s outcome s' ↔
      ∃ m, drift.rel s m ∧ r.runRefresh.Runs drift m outcome s' := by
    refine exists_congr fun m => and_congr_right fun moved => ?_
    have ready := (still m moved).trans ready
    simp only [ready]
    exact Iff.rfl
  rw [checked, ← runs_runRefresh_iff]
  constructor
  · rintro ⟨m, moved, m', moved', ran⟩
    exact ⟨m', drift.trans moved moved', ran⟩
  · intro ran
    exact ⟨s, drift.refl s, ran⟩

variable {s s' : ResolverState ε}

theorem Happens.outcome_eq (happens : r.Happens drift s event outcome s')
    (inRange : r.InRange event) : outcome = event.reply := by
  obtain ⟨m, m', -, -, -, accepted⟩ := happens
  exact comesTo_acceptRefresh inRange _ _ _ accepted

theorem Happens.inRange (happens : r.Happens drift s event outcome s')
    (ends : outcome ≠ .overflow) : r.InRange event := by
  obtain ⟨m, m', -, -, -, accepted⟩ := happens
  exact Classical.not_not.1 fun outside =>
    ends (comesTo_acceptRefresh_overflow outside _ _ _ accepted)

theorem reply_ne_overflow (event : RefreshEvent) : event.reply ≠ .overflow := by
  obtain ⟨now, failure | ⟨entities, next⟩ | next | _⟩ := event <;> simp [RefreshEvent.reply]

/-- What an event that is in range leaves. -/
theorem Happens.refreshed (happens : r.Happens (elsewhere clock) s event outcome s')
    (inRange : r.InRange event) : r.Refreshed [event] s s' := by
  obtain ⟨m, m', moved, -, asked, accepted⟩ := happens
  have aside := (keeps_origin _).attempt m _ m' asked
  have taken := ensures_acceptRefresh_refreshed inRange outcome s' accepted
  exact taken.1.append (.elsewhere ((elsewhere clock).trans moved aside))

end Resolver

end Federation
