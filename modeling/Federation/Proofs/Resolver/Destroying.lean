/-
# Destroying

Every call looks at the life of its resolver before it does anything to what is held, so calls of
a destroyed resolver do nothing, however they take turns. But a call looks once. One that is under
way when the resolver is destroyed has looked already, and goes on: it may fill the store again,
and the call that makes a resolver ready calls it initialized at its end.

## Main results

- `destroyed_for_good`: destroying is final when no other call is under way.
- `prepare_outlives_destroy`: it is not when the resolver is still being made ready.
-/

import Federation.Proofs.Resolver.Soundness
import Federation.Proofs.Task.Turns

namespace Federation

open Federation.Metadata Federation.Time Federation.Task ResolverState

namespace ResolverState

variable {ε : Type}

/-- A resolver was destroyed, and nothing is held. -/
structure IsDestroyed (s : ResolverState ε) : Prop where
  lifecycle : s.lifecycle = .destroyed
  absent : ∀ id, s.store.find? id = none
  unmarked : s.negative = .empty

end ResolverState

namespace Resolver

variable {ε α : Type} {clock : Drift Instant} {s : ResolverState ε}

/-! ## Calls of a destroyed resolver -/

/-- What is meant for an initialized resolver is not done to one that is gone. -/
theorem turn_requireInitialized_bind (r : Resolver ε) (gone : s.IsDestroyed)
    (k : Unit → Task (ResolverState ε) α) :
    (r.requireInitialized >>= k).turn s
      = (.ended (.failed (.notInitialized ("resolver " ++ r.id ++ " has been destroyed"))), s) := by
  have lifecycle : s = { s with lifecycle := .destroyed } := gone.lifecycle ▸ rfl
  rw [lifecycle]
  rfl

theorem preserves_requireInitialized_bind (r : Resolver ε)
    (k : Unit → Task (ResolverState ε) α) : (r.requireInitialized >>= k).Preserves IsDestroyed := by
  intro s gone
  refine ⟨gone, ?_⟩
  simp only [gone.lifecycle]
  trivial

theorem preserves_requireInitialized (r : Resolver ε) :
    r.requireInitialized.Preserves IsDestroyed := by
  intro s gone
  refine ⟨gone, ?_⟩
  simp only [gone.lifecycle]
  trivial

theorem preserves_onCache (f : PersistentCache → Except Failure α × PersistentCache) :
    (onCache f : Task (ResolverState ε) α).Preserves IsDestroyed := by
  refine preserves_read_bind fun s _ => (preserves_pauseIf _).bind fun _ => ?_
  refine Preserves.bind (preserves_perform fun s gone => ?_) fun _ => trivial
  exact ⟨gone.lifecycle, gone.absent, gone.unmarked⟩

/-- Loading stops before the first key that it comes to. -/
theorem preserves_loadCache (r : Resolver ε) : r.loadCache.Preserves IsDestroyed := by
  have stopped (p : Persistence) (now : Instant) (keys : List String) :
      (r.loadKeys p now keys).Preserves IsDestroyed := by
    cases keys with
    | nil => exact trivial
    | cons key rest =>
      refine preserves_read_bind fun s gone => ?_
      rw [if_pos gone.lifecycle]
      exact preserves_pure 0
  rw [loadCache]
  split
  · exact preserves_pure 0
  · refine (preserves_onCache _).attempt.bind fun listed => ?_
    split
    · exact preserves_pure 0
    · refine preserves_read_bind fun s _ => (stopped _ _ _).bind fun loaded => ?_
      refine (preserves_change fun s gone => ?_).bind fun _ => preserves_pure _
      exact ⟨gone.lifecycle, gone.absent, gone.unmarked⟩

/-- No call changes a resolver that is gone. -/
theorem Call.preserves (r : Resolver ε) (c : Call) : (c.task r).Preserves IsDestroyed := by
  cases c with
  | prepare =>
    refine preserves_read_bind fun s gone => ?_
    rw [gone.lifecycle]
    exact preserves_requireInitialized r
  | resolve query =>
    have asked : (r.resolve query).Preserves IsDestroyed := preserves_requireInitialized_bind r _
    exact asked.bind fun _ => preserves_pure ()
  | refresh =>
    have refreshed : r.refresh.Preserves IsDestroyed := preserves_requireInitialized_bind r _
    exact refreshed.bind fun _ => preserves_pure ()
  | clear => exact preserves_requireInitialized_bind r _
  | clearEntity id => exact preserves_requireInitialized_bind r _
  | cleanup =>
    have cleaned : r.cleanup.Preserves IsDestroyed := by
      refine preserves_read_bind fun s gone => ?_
      rw [if_pos gone.lifecycle]
      exact preserves_pure 0
    exact cleaned.bind fun _ => preserves_pure ()
  | loadCache => exact (preserves_loadCache r).bind fun _ => preserves_pure ()
  | destroy =>
    refine preserves_read_bind fun s gone => ?_
    rw [if_pos gone.lifecycle]
    exact preserves_pure ()

/-! ## After the end -/

/-- Calls that take turns, while the world around the resolver moves. -/
def CallsTakeTurns (r : Resolver ε) (clock : Drift Instant) :
    List (Task (ResolverState ε) Unit) × ResolverState ε →
      List (Task (ResolverState ε) Unit) × ResolverState ε → Prop :=
  Relation.ReflTransGen (Turns (elsewhere clock) fun t => ∃ c : Call, t = c.task r)

/-- Destroying takes one turn, after which the resolver is gone. -/
theorem turn_destroy (r : Resolver ε) (alive : s.lifecycle ≠ .destroyed) :
    ∃ s', r.destroy.turn s = (.ended (.ok ()), s') ∧ s'.IsDestroyed := by
  have looked : r.destroy.turn s = (if s.lifecycle = .destroyed then pure () else do
      .change fun s => { s with
        lifecycle := .destroyed
        warmUp := .abandoned
        store := s.store.clear
        negative := .empty
        flights := s.flights.close }
      r.gaugeSize : Task (ResolverState ε) Unit).turn s := rfl
  rw [looked, if_neg alive]
  exact ⟨_, rfl, rfl, BackingStore.find?_clear s.store, rfl⟩

/-- **Destroying is final when no other call is under way.** It takes a single turn; after it,
whatever calls are made and however they take turns, the resolver is not initialized again,
nothing is held, nothing is believed absent, and every query fails at once. -/
theorem destroyed_for_good (r : Resolver ε) (alive : s.lifecycle ≠ .destroyed) :
    ∃ gone, r.destroy.turn s = (.ended (.ok ()), gone) ∧
      ∀ tasks s', r.CallsTakeTurns clock ([], gone) (tasks, s') →
        s'.lifecycle = .destroyed ∧ (∀ id, s'.store.find? id = none) ∧ s'.negative = .empty ∧
        ∀ query, (r.resolve query).turn s' = (.ended (.failed
          (.notInitialized ("resolver " ++ r.id ++ " has been destroyed"))), s') := by
  obtain ⟨gone, ended, isDestroyed⟩ := turn_destroy r alive
  refine ⟨gone, ended, fun tasks s' turns => ?_⟩
  have moves (m m' : ResolverState ε) (moved : Elsewhere clock m m') (isDestroyed : m.IsDestroyed) :
      m'.IsDestroyed := by
    refine ⟨moved.lifecycle.trans isDestroyed.lifecycle, fun id => ?_,
      moved.negative.trans isDestroyed.unmarked⟩
    rw [moved.store]
    exact isDestroyed.absent id
  have starts (t : Task (ResolverState ε) Unit) (called : ∃ c : Call, t = c.task r) :
      t.Preserves IsDestroyed := by
    obtain ⟨c, rfl⟩ := called
    exact c.preserves r
  have still := (Turns.preserves moves starts turns isDestroyed (by simp)).1
  exact ⟨still.lifecycle, still.absent, still.unmarked, fun query =>
    turn_requireInitialized_bind r still _⟩

/-! ### While the resolver is made ready -/

/-- A resolver whose origin lets others run before it answers. -/
def slow : Resolver Origin.Script :=
  { rehearsed .standard with
    origin := { (rehearsed .standard).origin with
      refresh := fun _ _ => .pause Origin.Script.refresh } }

/-- The resolver before anything was done. Its origin has a snapshot of one entity. -/
def beforePreparing : ResolverState Origin.Script :=
  .start [] (.memory (.empty false))
    { Origin.Script.empty with
      refreshes := [.ok (.updated [.ofId "https://idp.example.org"] none)] } ⟨0, 0⟩

/-- The resolver is destroyed while the call that makes it ready waits for the origin. Then that
call goes on, fills the store and calls the resolver initialized. -/
theorem prepare_outlives_destroy :
    ∃ waiting ended revived destroyed after,
      slow.CallsTakeTurns .forward ([], beforePreparing) ([waiting, ended], destroyed) ∧
      ended.isEnded = true ∧ destroyed.lifecycle = .destroyed ∧
      slow.CallsTakeTurns .forward ([waiting, ended], destroyed) ([revived, ended], after) ∧
      revived.isEnded = true ∧ after.lifecycle = .initialized ∧ after.store.size = 1 := by
  let waiting := (slow.prepare.resume beforePreparing).1
  let asked := (slow.prepare.resume beforePreparing).2
  let ended := (slow.destroy.resume asked).1
  let destroyed := (slow.destroy.resume asked).2
  have started : slow.CallsTakeTurns .forward ([], beforePreparing)
      ([slow.prepare], beforePreparing) :=
    .single (.start [] beforePreparing ⟨.prepare, rfl⟩)
  have waits : slow.CallsTakeTurns .forward ([], beforePreparing) ([waiting], asked) :=
    started.tail (.turn [] [] slow.prepare beforePreparing)
  have called : slow.CallsTakeTurns .forward ([], beforePreparing)
      ([waiting, slow.destroy], asked) :=
    waits.tail (.start [waiting] asked ⟨.destroy, rfl⟩)
  have gone : slow.CallsTakeTurns .forward ([], beforePreparing) ([waiting, ended], destroyed) :=
    called.tail (.turn [waiting] [] slow.destroy asked)
  have resumed : slow.CallsTakeTurns .forward ([waiting, ended], destroyed)
      ([(waiting.resume destroyed).1, ended], (waiting.resume destroyed).2) :=
    .single (.turn [] [ended] waiting destroyed)
  exact ⟨waiting, ended, _, destroyed, _, gone, by decide +kernel, by decide +kernel, resumed,
    by decide +kernel, by decide +kernel, by decide +kernel⟩

end Resolver

end Federation
