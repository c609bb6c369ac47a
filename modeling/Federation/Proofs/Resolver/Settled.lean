/-
# What queries leave alone

Answering queries changes what is held and what is under way. It does not change where a
resolver is in its life, whether it warms up, or what is known of its refreshes; and a query for
one entity leaves what is held of all others as it is.

## Main results

- `settled_resolve`: what answering a query leaves alone.
- `run_resolve_settled`: the same of a query that is answered alone, during which no time
  passes.
- `outside_resolveEntityId`: what a query for one entity leaves alone.
-/

import Federation.Proofs.Resolver.Keeping

namespace Federation

open Federation.Metadata Federation.Time Federation.Task ResolverState

/-- A clock that stands still. -/
def Drift.stopped : Drift Instant where
  rel := Eq
  refl _ := rfl
  trans := Eq.trans

/-! ## What surrounds the holdings -/

namespace ResolverState

variable {ε : Type} {clock : Drift Instant}

/-- What surrounds the holdings of a resolver has not changed. -/
structure Settled (clock : Drift Instant) (s s' : ResolverState ε) : Prop where
  now : clock.rel s.now s'.now
  lifecycle : s'.lifecycle = s.lifecycle
  status : s'.status = s.status
  warmUp : s'.warmUp = s.warmUp

/-- How a resolver moves while what surrounds its holdings does not change. -/
def settled (clock : Drift Instant) : Drift (ResolverState ε) where
  rel := Settled clock
  refl s := ⟨clock.refl s.now, rfl, rfl, rfl⟩
  trans first second :=
    ⟨clock.trans first.now second.now, second.lifecycle.trans first.lifecycle,
      second.status.trans first.status, second.warmUp.trans first.warmUp⟩

/-- What is held of any other entity has not changed. -/
def outside (id : String) : Drift (ResolverState ε) where
  rel s s' := ∀ other, other ≠ id → s'.store.find? other = s.store.find? other
  refl _ _ _ := rfl
  trans first second other foreign := (second other foreign).trans (first other foreign)

end ResolverState

namespace Resolver

variable {ε : Type} {clock : Drift Instant} {s : ResolverState ε} {id : String} {query : Criteria}

theorem settled_allows (id : String) :
    Allows clock (settled clock : Drift (ResolverState ε)) id where
  below _ _ moved := ⟨moved.now, moved.lifecycle, moved.status, moved.warmUp⟩
  read m _ := ⟨clock.refl m.now, rfl, rfl, rfl⟩
  fill m _ := ⟨clock.refl m.now, rfl, rfl, rfl⟩
  drop m := ⟨clock.refl m.now, rfl, rfl, rfl⟩
  mark m _ := ⟨clock.refl m.now, rfl, rfl, rfl⟩
  retain m _ := ⟨clock.refl m.now, rfl, rfl, rfl⟩
  fly m _ := ⟨clock.refl m.now, rfl, rfl, rfl⟩

theorem settled_resolve (r : Resolver ε) :
    (r.resolve query).Keeps (elsewhere clock) (settled clock) :=
  keeps_resolve (settled_allows "").below settled_allows r

/-- Answering a query alone takes no time. -/
theorem run_resolve_settled (r : Resolver ε) (query : Criteria) :
    Settled .stopped s ((r.resolve query).run s).2 :=
  settled_resolve r s _ _ (runs_run (elsewhere .stopped) _ s)

/-! ## Other entities -/

theorem outside_allows (id : String) : Allows clock (outside id : Drift (ResolverState ε)) id where
  below _ _ moved _ _ := by rw [moved.store]
  read m now other foreign := by rw [BackingStore.find?_get, if_neg foreign]
  fill m records other foreign := by rw [BackingStore.find?_insert, if_neg foreign]
  drop m other foreign := by rw [BackingStore.find?_remove, if_neg foreign]
  mark _ _ _ _ := rfl
  retain m until_ other foreign := by rw [BackingStore.find?_extendExpiration, if_neg foreign]
  fly _ _ _ _ := rfl

/-- A query for one entity leaves what is held of all others as it is. -/
theorem outside_resolveEntityId (r : Resolver ε) :
    (r.resolveEntityId id query).Keeps (elsewhere clock) (outside id) :=
  (outside_allows id).keeps_resolveEntityId r

end Resolver

end Federation
