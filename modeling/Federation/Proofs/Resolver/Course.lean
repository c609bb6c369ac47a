/-
# How the holdings of a resolver move

What a resolver holds of entities are their records and the markers of those that are believed
absent. Whatever a call does to them is one of a few steps, taken one after another, each at a
reading of the clock. What every step preserves, every call preserves.

While a call works, the world around the resolver moves: the clock goes on, the origin and the
persistent cache change, others count in the same metrics. How the clock moves is left open;
it may be known to go forward only, or nothing may be known of it.

## Main definitions

- `CacheStep`: one step, as a relation on holdings.
- `Course`: steps one after another.
- `ResolverState.elsewhere`: how the world around a resolver moves.
- `Resolver.moves`: how a resolver moves while it works.
- `Resolver.Serves`: where a description that is served was held.
-/

import Mathlib.Logic.Relation
import Federation.Proofs.Store.Filing
import Federation.Proofs.Task.Runs
import Federation.Resolver.Basic

namespace Federation

open Federation.Metadata Federation.Time

/-! ## Clocks -/

/-- A clock that never goes back. -/
def Drift.forward : Drift Instant where
  rel := (· ≤ ·)
  refl := Instant.le_refl
  trans := Instant.le_trans

/-- A clock of which nothing is known. -/
def Drift.anyhow : Drift Instant where
  rel _ _ := True
  refl _ := trivial
  trans _ _ := trivial

/-! ## Steps -/

/-- The records of entities, and until when entities are believed absent. -/
structure Holdings where
  store : BackingStore
  negative : Keyed String Instant

/-- One step on what is held, at a reading of the clock. -/
inductive CacheStep (policy : CachePolicy) (now : Instant) : Holdings → Holdings → Prop where
  /-- The records of an entity are read, which marks them as used. -/
  | read (h : Holdings) (id : String) :
      CacheStep policy now h { h with store := (h.store.get id now).2 }
  /-- Records of an entity take the place of those that were there. -/
  | fill (h : Holdings) (id : String) (entities : List Entity) (records : List CacheRecord)
      (own : ∀ e ∈ entities, e.entityId = id)
      (recorded : policy.records now entities = .ok records) (some_valid : records ≠ []) :
      CacheStep policy now h ⟨h.store.insert id records, h.negative.erase id⟩
  /-- An entity is dropped. -/
  | drop (h : Holdings) (id : String) :
      CacheStep policy now h { h with store := h.store.remove id }
  /-- An entity that is not in the store is believed absent for a while. -/
  | mark (h : Holdings) (id : String) (duration : Span) (until_ : Instant)
      (believed : policy.negative = some duration) (reached : now.add? duration = some until_)
      (absent : h.store.find? id = none) :
      CacheStep policy now h { h with negative := h.negative.insert id until_ }
  /-- The records of an entity are kept for longer, where the policy says so. -/
  | keep (h : Holdings) (id : String) (interval : Span) (until_ : Instant)
      (retained : policy.onFailure = .retain interval) (reached : now.add? interval = some until_) :
      CacheStep policy now h { h with store := (h.store.extendExpiration id until_).2 }
  /-- All that is known of an entity is forgotten. -/
  | forget (h : Holdings) (id : String) :
      CacheStep policy now h ⟨h.store.remove id, h.negative.erase id⟩
  /-- Everything is forgotten. -/
  | clear (h : Holdings) : CacheStep policy now h ⟨h.store.clear, .empty⟩
  /-- What is due is evicted, and markers that are over are taken out. -/
  | sweep (h : Holdings) :
      CacheStep policy now h ⟨(h.store.cleanup now policy.longestIdle).2,
        h.negative.filter fun _ until_ => now < until_⟩

/-- Steps one after another, at readings of the clock. -/
def Course (policy : CachePolicy) (reading : Instant → Prop) : Holdings → Holdings → Prop :=
  Relation.ReflTransGen fun h h' => ∃ now, reading now ∧ CacheStep policy now h h'

namespace Course

variable {policy : CachePolicy} {reading later : Instant → Prop} {h h' : Holdings}

theorem mono (implies : ∀ now, reading now → later now) (course : Course policy reading h h') :
    Course policy later h h' := by
  refine Relation.ReflTransGen.mono ?_ _ _ course
  rintro g g' ⟨now, read, step⟩
  exact ⟨now, implies now read, step⟩

/-- What every step preserves holds at the end of a course. -/
theorem preserves {I : Holdings → Prop} (course : Course policy reading h h')
    (step : ∀ now g g', reading now → CacheStep policy now g g' → I g → I g') (start : I h) :
    I h' := by
  induction course with
  | refl => exact start
  | tail _ last ih =>
    obtain ⟨now, read, one⟩ := last
    exact step now _ _ read one ih

end Course

/-! ## Moves -/

namespace ResolverState

variable {ε : Type} {clock : Drift Instant} {s s' : ResolverState ε}

/-- What a resolver holds. -/
def holdings (s : ResolverState ε) : Holdings := ⟨s.store, s.negative⟩

/-- Only the world around a resolver has moved. -/
structure Elsewhere (clock : Drift Instant) (s s' : ResolverState ε) : Prop where
  now : clock.rel s.now s'.now
  lifecycle : s'.lifecycle = s.lifecycle
  store : s'.store = s.store
  negative : s'.negative = s.negative
  flights : s'.flights = s.flights
  status : s'.status = s.status
  warmUp : s'.warmUp = s.warmUp

/-- How the world around a resolver moves. -/
def elsewhere (clock : Drift Instant) : Drift (ResolverState ε) where
  rel := Elsewhere clock
  refl s := ⟨clock.refl s.now, rfl, rfl, rfl, rfl, rfl, rfl⟩
  trans first second :=
    ⟨clock.trans first.now second.now, second.lifecycle.trans first.lifecycle,
      second.store.trans first.store, second.negative.trans first.negative,
      second.flights.trans first.flights, second.status.trans first.status,
      second.warmUp.trans first.warmUp⟩

theorem Elsewhere.holdings (moved : Elsewhere clock s s') : s'.holdings = s.holdings := by
  rw [ResolverState.holdings, ResolverState.holdings, moved.store, moved.negative]

end ResolverState

namespace Resolver

open ResolverState

variable {ε : Type} {policy : CachePolicy} {clock : Drift Instant}
  {s m m' s' : ResolverState ε}

/-- A resolver has moved: its holdings took a course of steps, at readings of the clock that
are not after its end. -/
structure Moves (policy : CachePolicy) (clock : Drift Instant) (s s' : ResolverState ε) :
    Prop where
  now : clock.rel s.now s'.now
  course : Course policy (clock.rel · s'.now) s.holdings s'.holdings

/-- How a resolver moves while it works. -/
def moves (policy : CachePolicy) (clock : Drift Instant) : Drift (ResolverState ε) where
  rel := Moves policy clock
  refl s := ⟨clock.refl s.now, .refl⟩
  trans first second :=
    ⟨clock.trans first.now second.now,
      (first.course.mono fun _ read => clock.trans read second.now).trans second.course⟩

theorem below_moves : (elsewhere clock : Drift (ResolverState ε)).Below (moves policy clock) :=
  fun _ _ moved => ⟨moved.now, moved.holdings ▸ .refl⟩

/-- A step is a move. -/
theorem Moves.step {now : Instant} (before : Moves policy clock s m) (read : clock.rel now m.now)
    (taken : CacheStep policy now m.holdings m'.holdings) (still : m'.now = m.now) :
    Moves policy clock s m' := by
  have one : Moves policy clock m m' :=
    ⟨still ▸ clock.refl m.now, .single ⟨now, still.symm ▸ read, taken⟩⟩
  exact (moves policy clock).trans before one

/-- A resolver that moved as a whole, without a step. -/
theorem Moves.still (before : Moves policy clock s m) (held : m'.holdings = m.holdings)
    (still : m'.now = m.now) : Moves policy clock s m' := by
  have none_taken : Moves policy clock m m' := ⟨still ▸ clock.refl m.now, held ▸ .refl⟩
  exact (moves policy clock).trans before none_taken

/-! ## What is served -/

/-- A description is held for an entity, and there is a reason to serve it now: it is live, or
it is valid, or the policy keeps expired records after failures. -/
def Servable (policy : CachePolicy) (now : Instant) (h : Holdings) (id : String) (e : Entity) :
    Prop :=
  ∃ record ∈ h.store.recordsOf id, record.entity = e ∧
    (now < record.expiration ∨ e.isValidAt now = true ∨ ∃ i, policy.onFailure = .retain i)

/-- A description was servable at some reading of the clock, somewhere on the way, for an
entity whose ID satisfies a condition. -/
def Serves (policy : CachePolicy) (clock : Drift Instant) (since : Instant)
    (s : ResolverState ε) (filed : String → Prop) (s' : ResolverState ε) (e : Entity) : Prop :=
  ∃ now h id, clock.rel since now ∧ Course policy (clock.rel · s'.now) s.holdings h ∧
    filed id ∧ Servable policy now h id e

variable {since earlier now : Instant} {filed : String → Prop} {id : String} {e : Entity}

/-- What is servable in the end is served. -/
theorem Servable.serves (servable : Servable policy now s'.holdings id e)
    (moved : Moves policy clock s s') : Serves policy clock now s (· = id) s' e :=
  ⟨now, s'.holdings, id, clock.refl now, moved.course, rfl, servable⟩

theorem Serves.imp {wider : String → Prop} (served : Serves policy clock since s filed s' e)
    (implies : ∀ id, filed id → wider id) : Serves policy clock since s wider s' e := by
  obtain ⟨now, h, id, read, course, under, servable⟩ := served
  exact ⟨now, h, id, read, course, implies id under, servable⟩

theorem Serves.from_before (served : Serves policy clock since m filed s' e)
    (before : Moves policy clock s m) (after : clock.rel m.now s'.now)
    (ticked : clock.rel earlier since) : Serves policy clock earlier s filed s' e := by
  obtain ⟨now, h, id, read, course, under, servable⟩ := served
  have start := before.course.mono fun _ read => clock.trans read after
  exact ⟨now, h, id, clock.trans ticked read, start.trans course, under, servable⟩

theorem Serves.to_later (served : Serves policy clock since s filed m e)
    (after : clock.rel m.now s'.now) : Serves policy clock since s filed s' e := by
  obtain ⟨now, h, id, read, course, under, servable⟩ := served
  exact ⟨now, h, id, read, course.mono fun _ read => clock.trans read after, under, servable⟩

end Resolver

end Federation
