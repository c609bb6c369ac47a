/-
# Standings of calls

What a call knows for certain while others interleave with it is where it is on its way through a
flight and what it has in mind: whether it has found nothing live, has asked the origin, or has
found something already. The order among calls ties this to the state. The flights are manned by the
calls, and the fetches that are under way at the origin are those of the calls that have asked it.

If the first fetch of an entity is watched, it goes through phases: at first nobody has asked the
origin for the entity; then one call has; and then it has stored something or has not. In each phase
there are things that no call can have in mind.

## Main definitions

- `Mind`, `Standing`: what a call knows.
- `Watch`, `Phase`: a first fetch that is watched, and how far it has come.
- `Watch.Holds`: what is true in a phase.
- `orderly`: the order among calls.

## Main results

- `Watch.Holds.start`, `Watch.Holds.keep`, `Watch.Holds.giveUp`: from one phase to the next.
- `Watch.Holds.admits_live`, `Watch.Holds.admits_stale`: what can be found in a phase.
- `leads_seat`, `leads_find`: updates that keep the order, without asking the origin.
-/

import Federation.Proofs.Resolver.Flights
import Federation.Proofs.Resolver.Watching
import Federation.Proofs.Store.Records
import Federation.Proofs.Task.Conduct

namespace Federation

open Federation.Metadata Federation.Time Federation.Task ResolverState

/-- A description that is cached, and when it expires. -/
def CacheRecord.dated (record : CacheRecord) : Entity × Instant := (record.entity, record.expiration)

namespace Resolver

variable {ε : Type}

/-! ## What a call knows -/

/-- What a call has in mind. -/
inductive Mind where
  | nothing
  /-- It holds the flight of an entity, and has found nothing live. -/
  | missed (id : String)
  /-- It holds the flight of an entity, and the origin has been asked. -/
  | asking (id : String)
  /-- The origin has answered, and nothing has been kept of the answer. -/
  | answered (id : String)
  /-- This is going to be what is found of an entity. -/
  | found (id : String) (answer : Except Failure (List Entity))

namespace Mind

/-- The entity whose flight a call must hold for what it has in mind. -/
def claims : Mind → Option String
  | nothing => none
  | missed id => some id
  | asking id => some id
  | answered id => some id
  | found _ _ => none

/-- The call has asked the origin for an entity, and has nothing to show for it yet. -/
def IsBusy (id : String) (mind : Mind) : Prop := mind = asking id ∨ mind = answered id

/-- The entity that a call has in mind. -/
def entity : Mind → Option String
  | nothing => none
  | missed id => some id
  | asking id => some id
  | answered id => some id
  | found id _ => some id

theorem IsBusy.entity_eq {id : String} {mind : Mind} (busy : mind.IsBusy id) :
    mind.entity = some id := by
  rcases busy with rfl | rfl
  · rfl
  · rfl

end Mind

/-- Where a call is on its way through a flight, and what it has in mind. -/
structure Standing where
  seat : Seat
  mind : Mind

/-- What a call has in mind, it may have in mind in its seat. -/
def Standing.Fits (standing : Standing) : Prop :=
  ∀ id, standing.mind.claims = some id → ∃ ticket, standing.seat = .holding id ticket

/-- The standing of a call before it begins. -/
def Standing.start : Standing := ⟨.outside, .nothing⟩

/-- Only one of the calls may have in mind what the holder of the flight of an entity may. -/
def Sole (id : String) (minds : Nat → Mind) (place : Nat) : Prop :=
  ∀ other, other ≠ place → (minds other).claims ≠ some id

/-! ## What is noted of the calls -/

/-- The fetches under way are those of the calls that have asked the origin. -/
structure Tallied (minds : Nat → Mind) (tally : Tally) : Prop where
  nodup : tally.underway.Nodup
  mem_iff : ∀ id, id ∈ tally.underway ↔ ∃ place, minds place = .asking id

section Tallied

variable {minds : Nat → Mind} {tally : Tally} {place : Nat} {mind : Mind} {id : String}

/-- A call that does not begin or end a fetch. -/
theorem Tallied.update (h : Tallied minds tally)
    (same : ∀ id, minds place = .asking id ↔ mind = .asking id) :
    Tallied (Function.update minds place mind) tally := by
  have unchanged (id : String) : ∀ other,
      minds other = .asking id ↔ Function.update minds place mind other = .asking id :=
    (Function.forall_update_iff minds fun other mind =>
      minds other = .asking id ↔ mind = .asking id).2 ⟨same id, fun _ _ => Iff.rfl⟩
  exact ⟨h.nodup, fun id => (h.mem_iff id).trans (exists_congr (unchanged id))⟩

/-- A call that begins a fetch, where no other call has asked for the entity. -/
theorem Tallied.start (h : Tallied minds tally) (before : ∀ id, minds place ≠ .asking id)
    (sole : ∀ other, other ≠ place → minds other ≠ .asking id) :
    Tallied (Function.update minds place (.asking id)) (tally.start id) := by
  have absent : id ∉ tally.underway := by
    rw [h.mem_iff]
    rintro ⟨other, asks⟩
    by_cases here : other = place
    · exact before id (here ▸ asks)
    · exact sole other here asks
  refine ⟨List.nodup_cons.2 ⟨absent, h.nodup⟩, fun id' => ?_⟩
  rw [Tally.start, List.mem_cons, h.mem_iff]
  constructor
  · rintro (rfl | ⟨other, asks⟩)
    · exact ⟨place, Function.update_self _ _ _⟩
    · refine ⟨other, ?_⟩
      rw [Function.update_of_ne]
      · exact asks
      · rintro rfl
        exact before id' asks
  · rintro ⟨other, asks⟩
    by_cases here : other = place
    · subst here
      rw [Function.update_self] at asks
      exact .inl (Mind.asking.inj asks).symm
    · rw [Function.update_of_ne here] at asks
      exact .inr ⟨other, asks⟩

/-- A call that ends its fetch. -/
theorem Tallied.finish (h : Tallied minds tally) (before : minds place = .asking id)
    (sole : ∀ other, other ≠ place → minds other ≠ .asking id)
    (after : ∀ id, mind ≠ .asking id) :
    Tallied (Function.update minds place mind) (tally.finish id) := by
  refine ⟨h.nodup.erase id, fun id' => ?_⟩
  rw [Tally.finish, h.nodup.mem_erase_iff, h.mem_iff]
  constructor
  · rintro ⟨other_id, other, asks⟩
    refine ⟨other, ?_⟩
    rw [Function.update_of_ne]
    · exact asks
    · rintro rfl
      exact other_id (Mind.asking.inj (asks.symm.trans before))
  · rintro ⟨other, asks⟩
    by_cases here : other = place
    · subst here
      rw [Function.update_self] at asks
      exact absurd asks (after id')
    · rw [Function.update_of_ne here] at asks
      refine ⟨?_, other, asks⟩
      rintro rfl
      exact sole other here asks

end Tallied

/-! ## The first fetch of an entity -/

/-- The first fetch of an entity is watched, at a time when the clock stands still. Records that
it may turn out to store are singled out, one of which is live. -/
structure Watch where
  id : String
  now : Instant
  records : List (Entity × Instant)
  some_live : ∃ record ∈ records, now < record.2

/-- How far the first fetch of an entity has come. -/
inductive Phase where
  | unasked
  | asked
  /-- The records that were singled out were stored. -/
  | kept
  /-- Nothing was stored, or other records were. -/
  | past
deriving DecidableEq

/-- One phase after another. -/
def Phase.course : Drift Phase where
  rel phase phase' := phase = phase' ∨ phase = .unasked ∨ (phase = .asked ∧ phase' ≠ .unasked)
  refl _ := .inl rfl
  trans := by
    rintro phase₁ phase₂ phase₃ (rfl | rfl | ⟨rfl, notFirst⟩) second
    · exact second
    · exact .inr (.inl rfl)
    · rcases second with rfl | rfl | ⟨rfl, notFirst'⟩
      · exact .inr (.inr ⟨rfl, notFirst⟩)
      · exact absurd rfl notFirst
      · exact .inr (.inr ⟨rfl, notFirst'⟩)

/-- What is held of an entity, apart from when it was last used. -/
def heldOf (s : ResolverState ε) (id : String) : List (Entity × Instant) :=
  (s.store.recordsOf id).map CacheRecord.dated

namespace Watch

variable (w : Watch) {minds : Nat → Mind} {s s' : ResolverState (Tally × ε)} {phase : Phase}
  {place : Nat} {mind : Mind}

/-- All that was stored, or what is live of it. -/
def IsShare (answer : Except Failure (List Entity)) : Prop :=
  answer = .ok (w.records.map (·.1)) ∨
    answer = .ok ((w.records.filter fun record => w.now < record.2).map (·.1))

/-- What a call may have in mind in a phase. -/
def Admits (phase : Phase) : Mind → Prop
  | .nothing => True
  | .missed id => id = w.id → phase = .unasked ∨ phase = .past
  | .asking id => id = w.id → phase = .asked ∨ phase = .past
  | .answered id => id = w.id → phase = .asked ∨ phase = .past
  | .found id answer => id = w.id → phase = .past ∨ phase = .kept ∧ w.IsShare answer

/-- The entity is not believed to be absent. -/
def IsUnmarked (s : ResolverState (Tally × ε)) : Prop :=
  ∀ until_, s.negative.get? w.id = some until_ → ¬ w.now < until_

/-- Nothing is held of the entity, and it is not believed to be absent. -/
def IsBare (s : ResolverState (Tally × ε)) : Prop := heldOf s w.id = [] ∧ w.IsUnmarked s

/-- The number of fetches of the entity so far. -/
def fetches (s : ResolverState (Tally × ε)) : Nat := s.origin.1.begun.count w.id

/-- What is true of the state in a phase. -/
def Stands (minds : Nat → Mind) (s : ResolverState (Tally × ε)) : Phase → Prop
  | .unasked => w.fetches s = 0 ∧ w.IsBare s
  | .asked => w.fetches s = 1 ∧ w.IsBare s ∧ ∃ place, (minds place).IsBusy w.id
  | .kept => w.fetches s = 1 ∧ heldOf s w.id = w.records ∧ w.IsUnmarked s
  | .past => 2 ≤ w.fetches s ∨
      w.fetches s = 1 ∧ heldOf s w.id ≠ w.records ∧ ∀ place, ¬ (minds place).IsBusy w.id

/-- What is true in a phase. -/
structure Holds (minds : Nat → Mind) (s : ResolverState (Tally × ε)) (phase : Phase) : Prop where
  admits : ∀ place, w.Admits phase (minds place)
  stands : w.Stands minds s phase

variable {w}

/-- A call that stays as busy as it was, while nothing changes about the entity. -/
theorem Holds.update (h : w.Holds minds s phase) (admitted : w.Admits phase mind)
    (busy : (minds place).IsBusy w.id ↔ mind.IsBusy w.id) (fetches : w.fetches s' = w.fetches s)
    (held : heldOf s' w.id = heldOf s w.id)
    (marks : s'.negative.get? w.id = s.negative.get? w.id) :
    w.Holds (Function.update minds place mind) s' phase := by
  have same : ∀ other,
      (Function.update minds place mind other).IsBusy w.id ↔ (minds other).IsBusy w.id :=
    (Function.forall_update_iff minds fun other mind =>
      mind.IsBusy w.id ↔ (minds other).IsBusy w.id).2 ⟨busy.symm, fun _ _ => Iff.rfl⟩
  refine ⟨?_, ?_⟩
  · exact (Function.forall_update_iff minds fun _ mind => w.Admits phase mind).2
      ⟨admitted, fun other _ => h.admits other⟩
  · have stands := h.stands
    cases phase <;> simp only [Stands, IsBare, IsUnmarked, fetches, held, marks, same] at stands ⊢ <;>
      exact stands

/-- A call that has another entity in mind goes on. -/
theorem Holds.elsewhere (h : w.Holds minds s phase) (before : (minds place).entity ≠ some w.id)
    (after : mind.entity ≠ some w.id) (fetches : w.fetches s' = w.fetches s)
    (held : heldOf s' w.id = heldOf s w.id)
    (marks : s'.negative.get? w.id = s.negative.get? w.id) :
    ∃ phase', Phase.course.rel phase phase' ∧
      w.Holds (Function.update minds place mind) s' phase' := by
  have admitted : w.Admits phase mind := by
    cases mind with
    | nothing => exact trivial
    | missed id => exact fun same => absurd (congrArg some same) after
    | asking id => exact fun same => absurd (congrArg some same) after
    | answered id => exact fun same => absurd (congrArg some same) after
    | found id answer => exact fun same => absurd (congrArg some same) after
  have idle : (minds place).IsBusy w.id ↔ mind.IsBusy w.id :=
    iff_of_false (fun busy => before busy.entity_eq) fun busy => after busy.entity_eq
  exact ⟨phase, Phase.course.refl phase, h.update admitted idle fetches held marks⟩

/-- A call that holds the flight goes on to another phase. The others have nothing in mind that
would matter. -/
theorem Holds.advance {phase' : Phase} (h : w.Holds minds s phase) (sole : Sole w.id minds place)
    (admitted : w.Admits phase' mind)
    (passes : ∀ answer, w.Admits phase (.found w.id answer) → w.Admits phase' (.found w.id answer))
    (stands : w.Stands (Function.update minds place mind) s' phase') :
    w.Holds (Function.update minds place mind) s' phase' := by
  have others (other : Nat) (elsewhere : other ≠ place) : w.Admits phase' (minds other) := by
    have claims := sole other elsewhere
    have before := h.admits other
    cases known : minds other with
    | nothing => exact trivial
    | missed id => exact fun same => absurd (by rw [known, same]; rfl) claims
    | asking id => exact fun same => absurd (by rw [known, same]; rfl) claims
    | answered id => exact fun same => absurd (by rw [known, same]; rfl) claims
    | found id answer =>
      rintro rfl
      rw [known] at before
      exact passes answer before rfl
  exact ⟨(Function.forall_update_iff minds fun _ mind => w.Admits phase' mind).2
    ⟨admitted, others⟩, stands⟩

theorem not_isBusy_of_sole (sole : Sole w.id minds place) (mind : Mind)
    (idle : ¬ mind.IsBusy w.id) (other : Nat) : ¬ (Function.update minds place mind other).IsBusy w.id := by
  refine (Function.forall_update_iff minds fun _ mind => ¬ mind.IsBusy w.id).2
    ⟨idle, fun other elsewhere => ?_⟩ other
  rintro (asks | answered)
  · exact sole other elsewhere (by rw [asks]; rfl)
  · exact sole other elsewhere (by rw [answered]; rfl)

/-- The origin is asked for the entity. -/
theorem Holds.start (h : w.Holds minds s phase) (sole : Sole w.id minds place)
    (missed : minds place = .missed w.id) (fetches : w.fetches s' = w.fetches s + 1)
    (held : heldOf s' w.id = heldOf s w.id)
    (marks : s'.negative.get? w.id = s.negative.get? w.id) :
    ∃ phase', Phase.course.rel phase phase' ∧
      w.Holds (Function.update minds place (.asking w.id)) s' phase' := by
  have before := h.admits place
  have stands := h.stands
  rw [missed] at before
  rcases before rfl with rfl | rfl
  · obtain ⟨none_yet, bare⟩ := stands
    refine ⟨.asked, .inr (.inl rfl), h.advance sole (fun _ => .inl rfl) ?_ ⟨?_, ?_, place, ?_⟩⟩
    · intro answer admitted
      rcases admitted rfl with other | ⟨other, -⟩ <;> cases other
    · rw [fetches, none_yet]
    · rw [IsBare, IsUnmarked, held, marks]
      exact bare
    · rw [Function.update_self]
      exact .inl rfl
  · refine ⟨.past, .inl rfl, h.advance sole (fun _ => .inr rfl) (fun _ admitted => admitted) ?_⟩
    left
    rw [fetches]
    rcases stands with many | ⟨one, -⟩
    · exact Nat.le_succ_of_le many
    · exact Nat.le_of_eq (by rw [one])

/-- What the origin has answered is stored. -/
theorem Holds.keep {answer : Except Failure (List Entity)} (h : w.Holds minds s phase)
    (sole : Sole w.id minds place) (answered : minds place = .answered w.id)
    (fetches : w.fetches s' = w.fetches s) (unmarked : w.IsUnmarked s')
    (stored : answer = .ok ((heldOf s' w.id).map (·.1))) :
    ∃ phase', Phase.course.rel phase phase' ∧
      w.Holds (Function.update minds place (.found w.id answer)) s' phase' := by
  have before := h.admits place
  have stands := h.stands
  rw [answered] at before
  rcases before rfl with rfl | rfl
  · obtain ⟨one, -, -⟩ := stands
    have none_found (phase' : Phase) (answer : Except Failure (List Entity))
        (admitted : w.Admits .asked (.found w.id answer)) :
        w.Admits phase' (.found w.id answer) := by
      rcases admitted rfl with other | ⟨other, -⟩ <;> cases other
    by_cases these : heldOf s' w.id = w.records
    · refine ⟨.kept, .inr (.inr ⟨rfl, by simp⟩), h.advance sole ?_ (none_found _) ?_⟩
      · exact fun _ => .inr ⟨rfl, .inl (by rw [stored, these])⟩
      · exact ⟨fetches.trans one, these, unmarked⟩
    · refine ⟨.past, .inr (.inr ⟨rfl, by simp⟩), h.advance sole (fun _ => .inl rfl) (none_found _) ?_⟩
      exact .inr ⟨fetches.trans one, these, not_isBusy_of_sole sole _ (by simp [Mind.IsBusy])⟩
  · refine ⟨.past, .inl rfl, h.advance sole (fun _ => .inl rfl) (fun _ admitted => admitted) ?_⟩
    rcases stands with many | ⟨-, -, idle⟩
    · exact .inl (fetches ▸ many)
    · exact absurd (.inr answered) (idle place)

/-- Nothing changes about the entity. -/
theorem Holds.quiet (h : w.Holds minds s phase) (fetches : w.fetches s' = w.fetches s)
    (held : heldOf s' w.id = heldOf s w.id)
    (marks : s'.negative.get? w.id = s.negative.get? w.id) : w.Holds minds s' phase := by
  have same := h.update (h.admits 0) Iff.rfl fetches held marks
  rwa [Function.update_eq_self] at same

/-- What is held of the entity is changed before anything is stored. Nothing was held then. -/
theorem Holds.linger (h : w.Holds minds s phase) (answered : minds place = .answered w.id)
    (fetches : w.fetches s' = w.fetches s) (held : heldOf s w.id = [] → heldOf s' w.id = [])
    (marks : s'.negative.get? w.id = s.negative.get? w.id) : w.Holds minds s' phase := by
  have before := h.admits place
  have stands := h.stands
  rw [answered] at before
  refine ⟨h.admits, ?_⟩
  rcases before rfl with rfl | rfl
  · obtain ⟨one, bare, busy⟩ := stands
    refine ⟨fetches.trans one, ⟨held bare.1, ?_⟩, busy⟩
    rw [IsUnmarked, marks]
    exact bare.2
  · rcases stands with many | ⟨-, -, idle⟩
    · exact .inl (fetches ▸ many)
    · exact absurd (.inr answered) (idle place)

/-- Nothing is kept of what the origin has answered. -/
theorem Holds.giveUp {answer : Except Failure (List Entity)} (h : w.Holds minds s phase)
    (sole : Sole w.id minds place) (answered : minds place = .answered w.id)
    (fetches : w.fetches s' = w.fetches s) (held : heldOf s' w.id = heldOf s w.id) :
    ∃ phase', Phase.course.rel phase phase' ∧
      w.Holds (Function.update minds place (.found w.id answer)) s' phase' := by
  have before := h.admits place
  have stands := h.stands
  rw [answered] at before
  rcases before rfl with rfl | rfl
  · obtain ⟨one, bare, -⟩ := stands
    refine ⟨.past, .inr (.inr ⟨rfl, by simp⟩), h.advance sole (fun _ => .inl rfl) ?_ (.inr ?_)⟩
    · exact fun answer _ _ => .inl rfl
    · refine ⟨fetches.trans one, ?_, not_isBusy_of_sole sole _ (by simp [Mind.IsBusy])⟩
      rw [held, bare.1]
      obtain ⟨record, listed, -⟩ := w.some_live
      rintro none_listed
      rw [← none_listed] at listed
      cases listed
  · refine ⟨.past, .inl rfl, h.advance sole (fun _ => .inl rfl) (fun _ admitted => admitted) ?_⟩
    rcases stands with many | ⟨-, -, idle⟩
    · exact .inl (fetches ▸ many)
    · exact absurd (.inr answered) (idle place)

/-- A single fetch, and the records that were singled out, mean that it stored them. -/
theorem Holds.eq_kept (h : w.Holds minds s phase) (one : w.fetches s = 1)
    (held : heldOf s w.id = w.records) : phase = .kept := by
  have stands := h.stands
  have some_held : heldOf s w.id ≠ [] := by
    obtain ⟨record, listed, -⟩ := w.some_live
    rw [held]
    exact List.ne_nil_of_mem listed
  cases phase with
  | unasked => cases one.symm.trans stands.1
  | asked => exact absurd stands.2.1.1 some_held
  | kept => rfl
  | past =>
    rcases stands with many | ⟨-, other, -⟩
    · rw [one] at many
      exact absurd many (by decide)
    · exact absurd held other

/-! ### What is found without asking the origin -/

/-- Whoever holds the flight and finds nothing live may ask the origin. -/
theorem Holds.admits_missed (h : w.Holds minds s phase) (sole : Sole w.id minds place)
    (nothing : minds place = .nothing)
    (none_live : (heldOf s w.id).filter (fun record => w.now < record.2) = []) :
    w.Admits phase (.missed w.id) := by
  have stands := h.stands
  intro _
  cases phase with
  | unasked => exact .inl rfl
  | asked =>
    obtain ⟨-, -, other, busy⟩ := stands
    have idle := not_isBusy_of_sole sole .nothing (by simp [Mind.IsBusy]) other
    rw [← nothing, Function.update_eq_self] at idle
    exact absurd busy idle
  | kept =>
    obtain ⟨-, held, -⟩ := stands
    obtain ⟨record, listed, live⟩ := w.some_live
    rw [held] at none_live
    have kept : record ∈ w.records.filter fun record => w.now < record.2 :=
      List.mem_filter.2 ⟨listed, decide_eq_true live⟩
    rw [none_live] at kept
    cases kept
  | past => exact .inr rfl

/-- What is live is found only if it is a share of what was stored, or nobody cares any more. -/
theorem Holds.admits_live (h : w.Holds minds s phase) {live : List Entity}
    (read : live = ((heldOf s w.id).filter fun record => w.now < record.2).map (·.1))
    (some_live : live ≠ []) : w.Admits phase (.found w.id (.ok live)) := by
  have stands := h.stands
  intro _
  cases phase with
  | unasked => exact absurd (by rw [read, stands.2.1]; rfl) some_live
  | asked => exact absurd (by rw [read, stands.2.1.1]; rfl) some_live
  | kept => exact .inr ⟨rfl, .inr (by rw [read, stands.2.1])⟩
  | past => exact .inl rfl

/-- So is what is stale. -/
theorem Holds.admits_stale (h : w.Holds minds s phase) {stale : List Entity}
    (read : stale = (heldOf s w.id).map (·.1)) (some_stale : stale ≠ []) :
    w.Admits phase (.found w.id (.ok stale)) := by
  have stands := h.stands
  intro _
  cases phase with
  | unasked => exact absurd (by rw [read, stands.2.1]; rfl) some_stale
  | asked => exact absurd (by rw [read, stands.2.1.1]; rfl) some_stale
  | kept => exact .inr ⟨rfl, .inl (by rw [read, stands.2.1])⟩
  | past => exact .inl rfl

/-- The entity is believed to be absent only if nobody cares any more. -/
theorem Holds.admits_marked (h : w.Holds minds s phase) {until_ : Instant}
    (marked : s.negative.get? w.id = some until_) (future : w.now < until_)
    (answer : Except Failure (List Entity)) : w.Admits phase (.found w.id answer) := by
  have stands := h.stands
  intro _
  cases phase with
  | unasked => exact absurd future (stands.2.2 until_ marked)
  | asked => exact absurd future (stands.2.1.2 until_ marked)
  | kept => exact absurd future (stands.2.2 until_ marked)
  | past => exact .inl rfl

end Watch

/-! ## Order among calls -/

/-- What is true at any time: the flights agree with the seats of the calls, the tally with what
they have in mind, and if the first fetch of an entity is watched, it is in some phase. -/
structure Orderly (watch : Option Watch) (phase : Phase) (standings : Nat → Standing)
    (s : ResolverState (Tally × ε)) : Prop where
  lifecycle : s.lifecycle = .initialized
  manned : s.flights.AreManned (Standing.seat ∘ standings)
  tallied : Tallied (Standing.mind ∘ standings) s.origin.1
  fits : ∀ place, (standings place).Fits
  watched : ∀ w ∈ watch, w.now = s.now ∧ w.Holds (Standing.mind ∘ standings) s phase

/-- The conduct of calls that keep this order. -/
def orderly (watch : Option Watch) : Conduct Phase Standing (ResolverState (Tally × ε)) :=
  ⟨Orderly watch, Phase.course⟩

/-- What a call for an entity may wait for: the answer of the origin, or its turn. -/
def Waits (id : String) (standing : Standing) (ready : ResolverState (Tally × ε) → Bool) : Prop :=
  standing.mind = .asking id ∨
    ∃ ticket, standing.seat = .waiting id ticket ∧ ready = fun s => s.flights.holds ticket

/-- Nothing changes that other calls would notice. -/
structure Quiet (s s' : ResolverState (Tally × ε)) : Prop where
  lifecycle : s'.lifecycle = s.lifecycle
  now : s'.now = s.now
  flights : s'.flights = s.flights
  tally : s'.origin.1 = s.origin.1
  negative : s'.negative = s.negative
  held : ∀ id, heldOf s' id = heldOf s id

section Orderly

variable {watch : Option Watch} {phase : Phase} {standings : Nat → Standing}
  {s s' : ResolverState (Tally × ε)} {old new : Standing} {next : Standing → Prop} {id : String}
  {ticket : Ticket} {seat seat' : Seat} {mind mind' : Mind}

/-- No other call has in mind what only the holder of a flight may. -/
theorem Orderly.sole {place : Nat} (h : Orderly watch phase standings s)
    (holds : (standings place).seat = .holding id ticket) :
    Sole id (Standing.mind ∘ standings) place := by
  intro other elsewhere claims
  obtain ⟨ticket', holds'⟩ := h.fits other id claims
  exact elsewhere (h.manned.holding_unique holds' holds)

theorem Orderly.quiet (h : Orderly watch phase standings s) (quiet : Quiet s s') :
    Orderly watch phase standings s' := by
  refine ⟨quiet.lifecycle.trans h.lifecycle, ?_, ?_, h.fits, fun w watched => ?_⟩
  · rw [quiet.flights]
    exact h.manned
  · rw [quiet.tally]
    exact h.tallied
  · obtain ⟨now, holds⟩ := h.watched w watched
    refine ⟨now.trans quiet.now.symm, ?_⟩
    refine holds.quiet ?_ (quiet.held w.id) (by rw [quiet.negative])
    rw [Watch.fetches, quiet.tally]
    rfl

/-- One update, told apart by what it means to the flights, to the tally, and to a fetch that is
watched. -/
theorem leads_of (lifecycle : s'.lifecycle = s.lifecycle) (now : s'.now = s.now) (fits : new.Fits)
    (manned : ∀ seats place, seats place = old.seat → s.flights.AreManned seats →
      s'.flights.AreManned (Function.update seats place new.seat))
    (tallied : ∀ minds place, minds place = old.mind →
      (∀ id ticket, old.seat = .holding id ticket → Sole id minds place) →
      Tallied minds s.origin.1 → Tallied (Function.update minds place new.mind) s'.origin.1)
    (watched : ∀ w ∈ watch, w.now = s.now → ∀ phase minds place, minds place = old.mind →
      (∀ id ticket, old.seat = .holding id ticket → Sole id minds place) → w.Holds minds s phase →
      ∃ phase', Phase.course.rel phase phase' ∧
        w.Holds (Function.update minds place new.mind) s' phase')
    (found : s.lifecycle = .initialized → (∀ w ∈ watch, w.now = s.now) → next new) :
    (orderly watch).Leads old s s' next := by
  intro phase standings place own h
  -- A call that holds the flight for an entity is the only one that asks for it.
  have sole (id : String) (ticket : Ticket) (holds : old.seat = .holding id ticket) :
      Sole id (Standing.mind ∘ standings) place := h.sole (own ▸ holds)
  have seats : Standing.seat ∘ Function.update standings place new
      = Function.update (Standing.seat ∘ standings) place new.seat := Function.comp_update _ _ _ _
  have minds : Standing.mind ∘ Function.update standings place new
      = Function.update (Standing.mind ∘ standings) place new.mind := Function.comp_update _ _ _ _
  -- All but the phase of the watch follows from the seats and the minds apart.
  have rest (phase' : Phase) (watched' : ∀ w ∈ watch,
      w.Holds (Function.update (Standing.mind ∘ standings) place new.mind) s' phase') :
      Orderly watch phase' (Function.update standings place new) s' := by
    refine ⟨lifecycle.trans h.lifecycle, ?_, ?_, fun other => ?_, fun w mem => ?_⟩
    · rw [seats]
      exact manned _ place (congrArg Standing.seat own) h.manned
    · rw [minds]
      exact tallied _ place (congrArg Standing.mind own) sole h.tallied
    · exact (Function.forall_update_iff standings fun _ standing => standing.Fits).2
        ⟨fits, fun other _ => h.fits other⟩ other
    · rw [minds]
      exact ⟨(h.watched w mem).1.trans now.symm, watched' w mem⟩
  have reached := found h.lifecycle fun w mem => (h.watched w mem).1
  cases watch with
  | none => exact ⟨phase, new, Phase.course.refl phase, rest phase (by simp), reached⟩
  | some w =>
    obtain ⟨sameNow, holds⟩ := h.watched w rfl
    obtain ⟨phase', later, holds'⟩ := watched w rfl sameNow phase _ place
      (congrArg Standing.mind own) sole holds
    refine ⟨phase', new, later, rest phase' ?_, reached⟩
    rintro w' mem
    obtain rfl := Option.some_inj.1 mem
    exact holds'

/-- A call changes its seat, and thinks of nothing that it would have to hold a flight for. -/
theorem leads_seat (flights : Flights) (idle : mind.claims = none)
    (manned : ∀ seats place, seats place = seat → s.flights.AreManned seats →
      flights.AreManned (Function.update seats place seat'))
    (found : next ⟨seat', mind⟩) :
    (orderly watch).Leads ⟨seat, mind⟩ s { s with flights := flights } next := by
  refine leads_of rfl rfl ?_ manned ?_ ?_ fun _ _ => found
  · intro id claims
    cases idle.symm.trans claims
  · rintro minds place rfl - tallied
    rw [Function.update_eq_self]
    exact tallied
  · rintro w - - phase minds place rfl - holds
    refine ⟨phase, Phase.course.refl phase, ?_⟩
    exact holds.update (holds.admits place) Iff.rfl rfl rfl rfl

/-- A call learns something, and nothing changes that other calls would notice. -/
theorem leads_find (mind' : Mind) (quiet : Quiet s s') (before : ∀ id, ¬ mind.IsBusy id)
    (after : ∀ id, ¬ mind'.IsBusy id) (fits : Standing.Fits ⟨seat, mind'⟩)
    (admits : ∀ w ∈ watch, w.now = s.now → ∀ phase minds place, minds place = mind →
      (∀ id ticket, seat = .holding id ticket → Sole id minds place) → w.Holds minds s phase →
      w.Admits phase mind')
    (found : s.lifecycle = .initialized → (∀ w ∈ watch, w.now = s.now) → next ⟨seat, mind'⟩) :
    (orderly watch).Leads ⟨seat, mind⟩ s s' next := by
  refine leads_of quiet.lifecycle quiet.now fits ?_ ?_ ?_ found
  · intro seats place own manned
    rw [quiet.flights]
    exact manned.stay own
  · rintro minds place rfl - tallied
    rw [quiet.tally]
    refine tallied.update fun id => ?_
    exact iff_of_false (fun asks => before id (.inl asks)) fun asks => after id (.inl asks)
  · rintro w mem now phase minds place own sole holds
    refine ⟨phase, Phase.course.refl phase, ?_⟩
    refine holds.update (admits w mem now phase minds place own sole holds) ?_ ?_
      (quiet.held w.id) (by rw [quiet.negative])
    · rw [own]
      exact iff_of_false (before w.id) (after w.id)
    · rw [Watch.fetches, quiet.tally]
      rfl

end Orderly

end Resolver

end Federation
