/-
# Queries without an ID

A query without an ID is put to the indexes. The entities they find are gone through in order;
if they find none, the origin is asked the query, where that is possible. The lemmas follow
such a query alone.

## Main results

- `run_resolveSecondary`: what a query without an ID does.
- `run_resolveEach_of_live`: what it is answered with when all that is found is live.
-/

import Federation.Proofs.Resolver.Fetching
import Federation.Proofs.Store.Queries

namespace Federation.Resolver

open Federation.Metadata Federation.Time Federation.Task ResolverState

variable {ε : Type} {s : ResolverState ε} {query : Criteria}

/-- A query without an ID keeps of what comes of it the descriptions with the role it asks for, and
counts. -/
theorem exists_run_resolve_of_no_id (r : Resolver ε) (ready : s.lifecycle = .initialized)
    (unasked : query.entityId = none) :
    ∃ metrics, (r.resolve query).run s
      = (((r.resolveSecondary query).run s).1.map (keepRole query),
          { ((r.resolveSecondary query).run s).2 with metrics := metrics }) := by
  rw [resolve, requireInitialized, run_then, run_then, run_read, ready]
  simp only [proceed_ok, run_pure, unasked, run_then, run_attempt]
  generalize (r.resolveSecondary query).run s = ran
  obtain ⟨outcome, m⟩ := ran
  cases outcome <;> exact ⟨_, rfl⟩

theorem run_resolve_of_no_id (r : Resolver ε) (ready : s.lifecycle = .initialized)
    (unasked : query.entityId = none) :
    ((r.resolve query).run s).1
      = ((r.resolveSecondary query).run s).1.map (keepRole query) := by
  obtain ⟨metrics, ran⟩ := exists_run_resolve_of_no_id r ready unasked
  rw [ran]

/-- Is the origin asked queries without an ID? -/
def asksSecondary (r : Resolver ε) : Bool := r.policy.secondaryLookup && r.origin.isSecondary

theorem run_fetchSecondary_of_off (r : Resolver ε) (off : r.asksSecondary = false) :
    (r.fetchSecondary query).run s = (.ok [], s) := by
  rw [asksSecondary] at off
  rw [fetchSecondary, off]
  rfl

/-- What is found is gone through in order; if nothing is, the origin may be asked. -/
theorem run_resolveSecondary (r : Resolver ε) (query : Criteria) (s : ResolverState ε) :
    (r.resolveSecondary query).run s =
      if s.store.found query = [] then (r.fetchSecondary query).run s
      else (r.resolveEach query (s.store.found query)).run s := by
  rw [resolveSecondary, run_then, run_read, proceed_ok, BackingStore.found]
  cases (s.store.lookup query).getD [] with
  | nil => rw [List.mergeSort_nil, if_pos rfl]
  | cons id rest =>
    have some_found : ((id :: rest).mergeSort fun a b => a ≤ b) ≠ [] := by
      intro none_found
      have shuffled := List.mergeSort_perm (id :: rest) fun a b => a ≤ b
      rw [none_found] at shuffled
      cases shuffled.nil_eq
    rw [if_neg some_found]

/-- What a query without an ID is answered with, by what the indexes find. -/
theorem run_resolve_of_lookup (r : Resolver ε) (ready : s.lifecycle = .initialized)
    (unasked : query.entityId = none) {ids : List String} (answer : s.store.lookup query = some ids)
    (sorted : ids.Pairwise fun a b => decide (a ≤ b) = true) :
    ((r.resolve query).run s).1 =
      (if ids = [] then (r.fetchSecondary query).run s
        else (r.resolveEach query ids).run s).1.map (keepRole query) := by
  rw [run_resolve_of_no_id r ready unasked, run_resolveSecondary,
    BackingStore.found_eq_of_pairwise answer sorted]

/-- A query that is put for live entities one after another is answered with what is live. -/
theorem run_resolveEach_of_live (r : Resolver ε) (ids : List String)
    (live : ∀ id ∈ ids, liveOf s id ≠ []) :
    ((r.resolveEach query ids).run s).1 = .ok (ids.flatMap (liveOf s)) := by
  -- Every query for an entity reads its records and counts, which leaves live what is live. So
  -- the induction is on the IDs, for any state in which the same is live.
  have collected : ∀ m : ResolverState ε, (∀ id, liveOf m id = liveOf s id) →
      ((Task.collect ids fun id => r.resolveEntityId id (query.add (.entityId id))).run m).1
        = .ok (ids.map (liveOf s)) := by
    induction ids with
    | nil =>
      intro m same
      rfl
    | cons id rest ih =>
      intro m same
      have held : ¬ Misses m id := by
        intro missing
        have none_live := liveOf_eq_nil_iff.2 missing.expired
        rw [same] at none_live
        exact live id List.mem_cons_self none_live
      obtain ⟨metrics, ran⟩ := run_resolveEntityId_of_held r (query.add (.entityId id)) held
      rw [same] at ran
      refine run_collect_cons ?_ (ih ?_ { reading m id with metrics := metrics } ?_)
      · exact ran
      · intro other listed
        exact live other (List.mem_cons_of_mem id listed)
      · intro other
        calc liveOf { reading m id with metrics := metrics } other
            = liveOf (reading m id) other := liveOf_congr rfl rfl
          _ = liveOf m other := liveOf_reading other
          _ = liveOf s other := same other
  exact run_then_pure (collected s fun _ => rfl) List.flatten

end Federation.Resolver
