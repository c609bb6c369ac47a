/-
# What may happen to a resolver

A resolver is called by one caller at a time, and between the calls the world around it moves. The
origin may answer anything, the persistent cache may hold anything, and the clock may read anything
that the drift of the clock allows. Some call may compute a date or duration that is out of range.
It ends there and then, in the midst of what it was doing, and the next call finds what it left.

## Main definitions

- `Call`: the calls of a resolver.
- `Next`, `Follows`: what may happen, once and any number of times.
- `Reachable`: the states to which it leads.
-/

import Federation.Proofs.Resolver.Course
import Federation.Resolver.Lifecycle

namespace Federation

open Federation.Metadata Federation.Time Federation.Task ResolverState

namespace Resolver

variable {ε : Type} {clock : Drift Instant} {s s' : ResolverState ε} {r : Resolver ε}

/-! ## Calls -/

/-- A call of a resolver. -/
inductive Call where
  | prepare
  | resolve (query : Criteria)
  | refresh
  | clear
  | clearEntity (id : String)
  | cleanup
  | loadCache
  | destroy

/-- What is done in a call, without the value it gives. -/
def Call.task (r : Resolver ε) : Call → Task (ResolverState ε) Unit
  | prepare => r.prepare
  | resolve query => do let _ ← r.resolve query
  | refresh => do let _ ← r.refresh
  | clear => r.clear
  | clearEntity id => r.clearEntity id
  | cleanup => do let _ ← r.cleanup
  | loadCache => do let _ ← r.loadCache
  | destroy => r.destroy

/-! ## Reachable states -/

/-- What happens next: the world around a resolver moves, or it is called once. The world moves
during a call as it does between the calls. A call that meets a date or duration out of range ends
there, but the resolver goes on to be called. -/
inductive Next (r : Resolver ε) (clock : Drift Instant) (s s' : ResolverState ε) : Prop where
  | elsewhere (moved : Elsewhere clock s s')
  | call (c : Call) (outcome : Outcome Unit)
      (ran : (c.task r).Runs (ResolverState.elsewhere clock) s outcome s')
      (ends : outcome ≠ .overflow)
  | overrun (c : Call) (m : ResolverState ε)
      (ran : (c.task r).Runs (ResolverState.elsewhere clock) s .overflow m) (left : s' = m.unwound)

/-- One thing after another. -/
def Follows (r : Resolver ε) (clock : Drift Instant) : ResolverState ε → ResolverState ε → Prop :=
  Relation.ReflTransGen (Next r clock)

/-- The states that calls reach, one call at a time, from a resolver that has not done
anything yet. -/
def Reachable (r : Resolver ε) (clock : Drift Instant) (s : ResolverState ε) : Prop :=
  ∃ indexes cache origin now, Follows r clock (.start indexes cache origin now) s

/-- Running a call alone is something that may happen next. -/
theorem Next.run (r : Resolver ε) (c : Call) (ends : ((c.task r).run s).1 ≠ .overflow) :
    Next r clock s ((c.task r).run s).2 :=
  .call c _ (runs_run _ _ s) ends

theorem run_resolve_call (r : Resolver ε) (query : Criteria) (s : ResolverState ε) :
    ((Call.resolve query).task r).run s
      = (((r.resolve query).run s).1.map fun _ => (), ((r.resolve query).run s).2) :=
  run_discard (r.resolve query) s

/-- Answering a query alone is something that may happen next. -/
theorem Next.resolve (r : Resolver ε) (query : Criteria)
    (ends : ((r.resolve query).run s).1 ≠ .overflow) :
    Next r clock s ((r.resolve query).run s).2 := by
  have next : Next r clock s (((Call.resolve query).task r).run s).2 := by
    refine .run r (.resolve query) fun overflowed => ends ?_
    rw [run_resolve_call] at overflowed
    exact Outcome.map_eq_overflow.1 overflowed
  rw [run_resolve_call] at next
  exact next

/-- So is answering a query alone that is cut short. -/
theorem Next.cut (r : Resolver ε) (query : Criteria)
    (overflowed : ((r.resolve query).run s).1 = .overflow) :
    Next r clock s ((r.resolve query).run s).2.unwound := by
  have ran := run_resolve_call r query s
  rw [overflowed] at ran
  exact .overrun (.resolve query) _ (runs_of_run_eq ran) rfl

theorem Reachable.next (reached : Reachable r clock s) (next : Next r clock s s') :
    Reachable r clock s' := by
  obtain ⟨indexes, cache, origin, now, follows⟩ := reached
  exact ⟨indexes, cache, origin, now, follows.tail next⟩

end Resolver

end Federation
