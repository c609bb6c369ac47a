/-
# What a warm start brings in

A warm start takes in what the filters leave of the copies in the persistent cache. An entity
of which there is no copy does not come in, whoever else works on the store and the cache
meanwhile, as long as nobody brings it back by other means.

## Main definitions

- `ResolverState.IsGone`: an entity is neither in the store nor in the persistent cache.
- `ResolverState.unreturning`: how a state moves in which an entity that is gone stays away.

## Main results

- `ensures_gone_loadCache`: a warm start does not bring back an entity that is gone.
-/

import Federation.Proofs.Cache.Copies
import Federation.Proofs.Filter.Identity
import Federation.Proofs.Task.Runs
import Federation.Resolver.WarmStart

namespace Federation

open Federation.Metadata Federation.Time Federation.Task ResolverState

namespace ResolverState

variable {ε : Type}

/-- An entity is neither in the store nor in the persistent cache. -/
structure IsGone (s : ResolverState ε) (id : String) : Prop where
  unstored : s.store.find? id = none
  unkept : s.cache.Lacks id

/-- An entity that is gone stays away, whatever else happens. -/
def unreturning (id : String) : Drift (ResolverState ε) where
  rel s s' := s.IsGone id → s'.IsGone id
  refl _ gone := gone
  trans first second gone := second (first gone)

theorem IsGone.stays {id : String} (s s' : ResolverState ε) (moved : (unreturning id).rel s s')
    (gone : s.IsGone id) : s'.IsGone id :=
  moved gone

end ResolverState

namespace Resolver

variable {ε α : Type} {s : ResolverState ε} {now : Instant} {id other : String} {e : Entity}
  {entities : List Entity}

/-- An operation on the cache that makes no copies brings nothing back. -/
theorem unreturning_onCache {f : PersistentCache → Except Failure α × PersistentCache}
    (makes_none : ∀ c : PersistentCache, c.Lacks id → (f c).2.Lacks id) :
    (onCache f : Task (ResolverState ε) α).Keeps (unreturning id) (unreturning id) := by
  refine (keeps_read (Drift.below_refl _) _).bind fun pausing => ?_
  refine (keeps_pauseIf pausing).bind fun _ => ?_
  refine Keeps.bind ?_ fun answer => keeps_ended _
  exact keeps_perform (Drift.below_refl _) fun m gone =>
    ⟨gone.unstored, makes_none m.cache gone.unkept⟩

theorem unreturning_dropKey (key : String) :
    (dropKey key : Task (ResolverState ε) Unit).Keeps (unreturning id) (unreturning id) :=
  (unreturning_onCache fun _ lacks => lacks.remove key).attempt.bind fun _ => keeps_pure ()

theorem unreturning_moveKey (key expected : String) :
    (moveKey key expected : Task (ResolverState ε) Unit).Keeps (unreturning id)
      (unreturning id) := by
  refine (unreturning_onCache fun _ lacks => lacks.rename key expected).attempt.bind
    fun moved => ?_
  split
  · exact unreturning_dropKey key
  · exact keeps_pure ()

theorem unreturning_gaugeSize (r : Resolver ε) :
    r.gaugeSize.Keeps (unreturning id) (unreturning id) :=
  keeps_change (Drift.below_refl _) fun _ gone => ⟨gone.unstored, gone.unkept⟩

/-- Caching descriptions of one entity brings back no other. -/
theorem unreturning_insertRecords (r : Resolver ε) (foreign : id ≠ other) :
    (r.insertRecords other entities now).Keeps (unreturning id) (unreturning id) := by
  rw [insertRecords]
  refine Keeps.bind (keeps_ended _) fun records => ?_
  split
  · exact keeps_pure []
  · refine Keeps.bind ?_ fun _ => keeps_pure _
    refine keeps_change (Drift.below_refl _) fun m gone => ⟨?_, gone.unkept⟩
    rw [BackingStore.find?_insert, if_neg foreign]
    exact gone.unstored

theorem unreturning_loadEntity (r : Resolver ε) (p : Persistence) (key : String)
    (foreign : e.entityId ≠ id) :
    (r.loadEntity p now key e).Keeps (unreturning id) (unreturning id) := by
  have insert : (do
      if ← Task.read fun (s : ResolverState ε) => s.store.contains e.entityId then return false
      else return !(← r.insertRecords e.entityId [e] now).isEmpty).Keeps (unreturning id)
        (unreturning id) := by
    refine (keeps_read (Drift.below_refl _) _).bind fun held => ?_
    split
    · exact keeps_pure false
    · exact (unreturning_insertRecords r foreign.symm).bind fun _ => keeps_pure _
  rw [loadEntity]
  split
  · exact (unreturning_dropKey key).bind fun _ => keeps_pure false
  · dsimp only
    split
    · exact (unreturning_moveKey key _).bind fun _ => insert
    · exact insert

/-- What is loaded from a cache that lacks an entity is of another one. -/
theorem ensures_foreign_load (key : String) (gone : s.IsGone id) :
    (onCache (·.load key)).Ensures (unreturning id) s (·.IsGone id)
      fun found _ => ∀ e, found = some e → e.entityId ≠ id := by
  refine ensures_read_bind fun m drifted => ?_
  refine (keeps_pauseIf _).bind_ensures IsGone.stays (drifted gone)
    fun _ m' gone _ => ?_
  refine ensures_perform_bind fun m'' drifted => ?_
  have gone := drifted gone
  have unkept : (m''.cache.load key).2.Lacks id := by
    rw [PersistentCache.load_snd]
    exact gone.unkept
  refine ensures_ofExcept ⟨gone.unstored, unkept⟩ fun found read e same => ?_
  exact gone.unkept key e (by rw [PersistentCache.Keeps, read, same])

/-- The descriptions that filters leave of a copy are of its entity, so none is of an entity
that is gone. -/
theorem ensures_foreign_readKey (r : Resolver ε) (honest : r.warmFilters.KeepsIds) (key : String)
    (gone : s.IsGone id) :
    (r.readKey now key).Ensures (unreturning id) s (·.IsGone id)
      fun entities _ => ∀ e ∈ entities, e.entityId ≠ id := by
  refine (ensures_foreign_load key gone).attempt_bind (fun _ gone => gone)
    fun loaded m gone foreign => ?_
  split
  · exact ensures_pure gone (by simp)
  · exact ensures_pure gone (by simp)
  · rename_i copy
    split
    · rename_i document filtered
      refine ensures_pure gone fun e listed same => ?_
      have kept : e.entityId ∈ document.entityIds := List.mem_map.2 ⟨e, listed, rfl⟩
      have copied : e.entityId = copy.entityId := by
        simpa [Document.entityIds, Document.flatten] using honest _ _ _ filtered kept
      exact foreign (some copy) rfl copy rfl (copied.symm.trans same)
    · exact ensures_pure gone (by simp)

theorem ensures_gone_loadKeys (r : Resolver ε) (honest : r.warmFilters.KeepsIds)
    (p : Persistence) (keys : List String) (gone : s.IsGone id) :
    (r.loadKeys p now keys).Ensures (unreturning id) s (·.IsGone id) fun _ _ => True := by
  induction keys generalizing s with
  | nil => exact ensures_pure gone trivial
  | cons key rest ih =>
    refine ensures_read_bind fun m drifted => ?_
    have gone := drifted gone
    split
    · exact ensures_pure gone trivial
    · refine (ensures_foreign_readKey r honest key gone).bind fun entities m₁ gone foreign => ?_
      have each : ∀ e ∈ entities, ∀ m', (unreturning id).rel m₁ m' →
          (r.loadEntity p now key e).Ensures (unreturning id) m' ((unreturning id).rel m')
            fun _ _ => True := by
        intro e listed m' _ outcome m'' ran
        exact ⟨unreturning_loadEntity r p key (foreign e listed) m' outcome m'' ran,
          fun _ _ => trivial⟩
      have loaded := (ensures_collect (fun _ _ _ _ _ => trivial) each).imp
        (fun _ stays => stays gone) fun _ _ _ found => found
      refine loaded.bind fun _ m₂ gone _ => ?_
      exact (ih gone).bind fun _ m₃ gone _ => ensures_pure gone trivial

/-- **A warm start does not bring back an entity that is gone**, if the filters say nothing of
entities that are not in a document. -/
theorem ensures_gone_loadCache (r : Resolver ε) (honest : r.warmFilters.KeepsIds)
    (gone : s.IsGone id) :
    r.loadCache.Ensures (unreturning id) s (·.IsGone id) fun _ _ => True := by
  rw [loadCache]
  split
  · exact ensures_pure gone trivial
  · rename_i p _
    have listing : (onCache (·.list) : Task (ResolverState ε) (List String)).Keeps
        (unreturning id) (unreturning id) := unreturning_onCache fun c lacks => by
      rwa [PersistentCache.list_snd]
    refine listing.attempt.bind_ensures IsGone.stays gone
      fun listed m gone _ => ?_
    cases listed with
    | error _ => exact ensures_pure gone trivial
    | ok keys =>
      refine ensures_read_bind fun m' drifted => ?_
      refine (ensures_gone_loadKeys r honest p _ (drifted gone)).bind fun _ m'' gone _ => ?_
      refine (unreturning_gaugeSize r).bind_ensures IsGone.stays gone
        fun _ _ gone _ => ?_
      exact ensures_pure gone trivial

end Resolver

end Federation
