/-
# A role beside other criteria

While nothing that is held is expired, a query that the store can answer is answered with the
descriptions of the entities it finds, in order, and a role that the query states picks some of
them. So a role that is added to a query narrows its answer, as long as the same entities are
found. They are not where an artifact stands alone in the query: beside it the index of roles
does not take the role for a condition, and finds every entity that has it.

## Main results

- `run_resolve_of_answeredHere`: what a query is answered with while nothing is expired.
- `role_narrows_iff`: when a role narrows a query.
- `role_beside_artifact_widens`: an artifact and a role, at work.
-/

import Mathlib.Data.List.Flatten
import Federation.Proofs.Resolver.Lookup
import Federation.Proofs.Resolver.Soundness

namespace Federation

open Federation.Metadata Federation.Time Federation.Task ResolverState

/-- The descriptions that a store holds for a query, whatever their roles. -/
def BackingStore.answers (s : BackingStore) (query : Criteria) : List Entity :=
  match query.entityId with
  | some id => s.descriptionsOf id
  | none => (s.found query).flatMap s.descriptionsOf

namespace Resolver

variable {ε : Type} {s : ResolverState ε} {id : String} {query : Criteria} {role : Role}

/-! ## While nothing is expired -/

/-- No record is expired. -/
def IsUnexpired (s : ResolverState ε) : Prop :=
  s.store.Satisfies fun _ record => s.now < record.expiration

theorem IsUnexpired.liveOf (unexpired : IsUnexpired s) (id : String) :
    liveOf s id = s.store.descriptionsOf id := by
  rw [Resolver.liveOf, BackingStore.descriptionsOf, List.filter_eq_self.2]
  intro record held
  simpa [CacheRecord.isExpired, Instant.not_le] using unexpired id record held

/-- A query needs no origin: it asks for an entity that is live or believed absent, or it
finds entities, or the origin is not asked such queries. -/
def IsAnsweredHere (r : Resolver ε) (s : ResolverState ε) (query : Criteria) : Prop :=
  match query.entityId with
  | some id => ¬ Misses s id
  | none => s.store.found query ≠ [] ∨ r.asksSecondary = false

/-- While nothing is expired, a query that needs no origin is answered with what is held for
it, as far as it has the role it asks for. -/
theorem run_resolve_of_answeredHere (r : Resolver ε) (filed : s.store.IsFiled)
    (ready : s.lifecycle = .initialized) (unexpired : IsUnexpired s)
    (here : r.IsAnsweredHere s query) :
    ((r.resolve query).run s).1 = .ok (keepRole query (s.store.answers query)) := by
  rw [IsAnsweredHere] at here
  rw [BackingStore.answers]
  cases asked : query.entityId with
  | some id =>
    simp only [asked] at here ⊢
    obtain ⟨metrics, ran⟩ := run_resolveEntityId_of_held r query here
    rw [(run_resolve r ready asked).1, ran, unexpired.liveOf]
    rfl
  | none =>
    simp only [asked] at here ⊢
    rw [run_resolve_of_no_id r ready asked, run_resolveSecondary]
    split
    · rename_i none_found
      have off := here.resolve_left fun some_found => some_found none_found
      rw [run_fetchSecondary_of_off r off, none_found]
      rfl
    · -- Whatever is found has a record, and that is live.
      have live : ∀ id ∈ s.store.found query, Resolver.liveOf s id ≠ [] := by
        intro id listed
        obtain ⟨record, held, -⟩ := filed.mem_found.1 listed
        rw [unexpired.liveOf, BackingStore.descriptionsOf]
        exact List.ne_nil_of_mem (List.mem_map_of_mem held)
      rw [run_resolveEach_of_live r _ live, funext unexpired.liveOf]
      rfl

/-! ## Roles -/

theorem keepRole_of_unstated (unstated : query.role = none) (entities : List Entity) :
    keepRole query entities = entities := by
  rw [keepRole, unstated]

theorem keepRole_add_role (query : Criteria) (role : Role) (entities : List Entity) :
    keepRole (query.add (.role role)) entities = entities.filter (·.hasRole role) := rfl

/-- A query with a role added to it needs no origin where the query needs none. -/
theorem IsAnsweredHere.add_role {r : Resolver ε} (filed : s.store.IsFiled)
    (builtIn : ∀ index ∈ s.store.indexes, index.IsBuiltIn) (unstated : query.role = none)
    (here : r.IsAnsweredHere s query) : r.IsAnsweredHere s (query.add (.role role)) := by
  rw [IsAnsweredHere] at here ⊢
  have same_id : (query.add (.role role)).entityId = query.entityId := rfl
  rw [same_id]
  cases asked : query.entityId with
  | some id => simpa only [asked] using here
  | none =>
    simp only [asked] at here ⊢
    refine here.imp_left fun some_found => ?_
    obtain ⟨id, listed⟩ := List.exists_mem_of_ne_nil _ some_found
    exact List.ne_nil_of_mem ((filed.mem_found_add_role builtIn unstated).2 (.inl listed))

/-- Distinct members of a list give less than the list, if one that is left out gives
something. -/
theorem length_flatMap_lt {α β : Type} {few many : List α} (distinct : few.Nodup)
    (among : few ⊆ many) {a : α} (listed : a ∈ many) (left_out : a ∉ few) {f : α → List β}
    (gives : f a ≠ []) : (few.flatMap f).length < (many.flatMap f).length := by
  have within : (a :: few).Subperm many := by
    apply List.subperm_of_subset (List.nodup_cons.2 ⟨left_out, distinct⟩)
    exact List.cons_subset.2 ⟨listed, among⟩
  obtain ⟨shuffled, same, sublist⟩ := within
  calc (few.flatMap f).length
      < (f a).length + (few.flatMap f).length :=
        Nat.lt_add_of_pos_left (List.length_pos_of_ne_nil gives)
    _ = ((a :: few).flatMap f).length := by rw [List.flatMap_cons, List.length_append]
    _ = (shuffled.flatMap f).length := (same.flatMap_right f).length_eq.symm
    _ ≤ (many.flatMap f).length := (sublist.flatMap f).length_le

/-- A role narrows what is held for a query unless it widens the query. -/
theorem answers_add_role_iff {s : BackingStore} (filed : s.IsFiled)
    (builtIn : ∀ index ∈ s.indexes, index.IsBuiltIn) (unstated : query.role = none) :
    (s.answers (query.add (.role role))).filter (·.hasRole role)
        = (s.answers query).filter (·.hasRole role) ↔ ¬ s.Widens query role := by
  have same_id : (query.add (.role role)).entityId = query.entityId := rfl
  constructor
  · rintro same ⟨no_id, no_text, indexed, id, unfound, record, held, has⟩
    -- The entity that is brought in has a description that has the role, so the answer is longer.
    simp only [BackingStore.answers, same_id, no_id, List.filter_flatMap] at same
    refine absurd (congrArg List.length same) (Nat.ne_of_gt ?_)
    refine length_flatMap_lt BackingStore.nodup_found ?_ ?_ unfound (a := id) ?_
    · intro other listed
      exact (filed.mem_found_add_role builtIn unstated).2 (.inl listed)
    · exact (filed.mem_found_add_role builtIn unstated).2
        (.inr ⟨no_id, no_text, indexed, record, held, has⟩)
    · exact List.ne_nil_of_mem (List.mem_filter.2 ⟨List.mem_map_of_mem held, has⟩)
  · intro narrow
    rw [BackingStore.answers, BackingStore.answers, same_id,
      filed.found_add_role builtIn unstated narrow]

/-- **When a role narrows a query.** Let a store be filed by indexes of this library and none
of its records be expired. If a query that states no role needs no origin, the same query with a
role added to it is answered with those descriptions of its answer that have the role, unless
the role widens the query. -/
theorem role_narrows_iff (r : Resolver ε) {indexes : List EntityIndex} {calls : List StoreCall}
    (builtIn : ∀ index ∈ indexes, index.IsBuiltIn) (held : s.store = .after indexes calls)
    (unexpired : IsUnexpired s) (ready : s.lifecycle = .initialized)
    (unstated : query.role = none) (here : r.IsAnsweredHere s query) (role : Role) :
    ∃ es es', ((r.resolve query).run s).1 = .ok es ∧
      ((r.resolve (query.add (.role role))).run s).1 = .ok es' ∧
      (es' = es.filter (·.hasRole role) ↔ ¬ s.store.Widens query role) := by
  have filed : s.store.IsFiled := by
    rw [held]
    exact BackingStore.isFiled_after indexes calls
  have kept : s.store.indexes = indexes := by
    rw [held]
    exact BackingStore.indexes_after indexes calls
  rw [← kept] at builtIn
  have there : r.IsAnsweredHere s (query.add (.role role)) := here.add_role filed builtIn unstated
  refine ⟨s.store.answers query, (s.store.answers (query.add (.role role))).filter (·.hasRole role),
    ?_, ?_, answers_add_role_iff filed builtIn unstated⟩
  · rw [run_resolve_of_answeredHere r filed ready unexpired here, keepRole_of_unstated unstated]
  · rw [run_resolve_of_answeredHere r filed ready unexpired there, keepRole_add_role]

/-! ### At work -/

/-- A description with one role, of a member of a federation. -/
def member (id : String) (role : RoleDescriptor) : Entity :=
  { (Entity.ofId id).withRole role with registrar := some "https://federation.example.org" }

/-- An attribute authority that states the source of its artifacts. -/
def authority : Entity :=
  member "https://aa.example.org"
    { RoleDescriptor.speaking .attributeAuthority "saml" with
      sourceId := some "0000000000000000000000000000000000000000" }

/-- An identity provider. -/
def provider : Entity := member "https://idp.example.org" (.speaking .identityProvider "saml")

/-- A resolver that holds both for an hour. -/
def holdingBoth : ResolverState Origin.Script :=
  { rehearsal "https://idp.example.org" (.ok none) ⟨0, 0⟩ with
    store := .after EntityIndex.standard
      [.insert "https://aa.example.org" [⟨authority, ⟨3600, 0⟩, ⟨0, 0⟩⟩],
        .insert "https://idp.example.org" [⟨provider, ⟨3600, 0⟩, ⟨0, 0⟩⟩]] }

/-- An artifact of that authority. -/
def artifactOfAuthority : List UInt8 := [0, 4, 0, 0] ++ List.replicate 40 0

theorem isUnexpired_holdingBoth : IsUnexpired holdingBoth := by
  show (((BackingStore.empty _).insert _ [⟨authority, ⟨3600, 0⟩, ⟨0, 0⟩⟩]).insert _
    [⟨provider, ⟨3600, 0⟩, ⟨0, 0⟩⟩]).Satisfies fun _ record => ⟨0, 0⟩ < record.expiration
  refine BackingStore.Satisfies.insert (BackingStore.satisfies_empty _ |>.insert ?_) ?_
  · decide
  · decide

/-- What is found for both by their federation, for the authority by its artifact, and for both
again by the artifact and a role. -/
theorem lookups_holdingBoth :
    holdingBoth.store.lookup { text := some "https://federation.example.org" }
        = some ["https://aa.example.org", "https://idp.example.org"] ∧
      holdingBoth.store.lookup { artifact := some artifactOfAuthority }
        = some ["https://aa.example.org"] ∧
      holdingBoth.store.lookup
          { artifact := some artifactOfAuthority, role := some .identityProvider }
        = some ["https://aa.example.org", "https://idp.example.org"] := by
  decide +kernel

theorem role_narrows_registrar :
    let r := rehearsed .standard
    let query : Criteria := { text := some "https://federation.example.org" }
    ∃ es, ((r.resolve query).run holdingBoth).1 = .ok es ∧
      ((r.resolve (query.add (.role .identityProvider))).run holdingBoth).1
        = .ok (es.filter (·.hasRole .identityProvider)) := by
  intro r query
  have found := BackingStore.found_eq_of_pairwise lookups_holdingBoth.1 (by decide)
  have here : r.IsAnsweredHere holdingBoth query := by
    left
    rw [found]
    exact List.cons_ne_nil _ _
  have builtIn : ∀ index ∈ EntityIndex.standard, index.IsBuiltIn := by
    simp [EntityIndex.standard, EntityIndex.IsBuiltIn]
  obtain ⟨es, es', resolved, with_role, narrows⟩ := role_narrows_iff r builtIn rfl
    isUnexpired_holdingBoth rfl rfl here .identityProvider
  have narrow : ¬ holdingBoth.store.Widens query .identityProvider := by
    intro widens
    cases widens.no_text
  rw [narrows.2 narrow] at with_role
  exact ⟨es, resolved, with_role⟩

/-- A query for the issuer of an artifact that asks for a role as well is answered with an
entity that did not issue the artifact. -/
theorem role_beside_artifact_widens :
    let r := rehearsed .standard
    let query : Criteria := { artifact := some artifactOfAuthority }
    IsUnexpired holdingBoth ∧ r.IsAnsweredHere holdingBoth query ∧
      ((r.resolve query).run holdingBoth).1 = .ok [authority] ∧
      ((r.resolve (query.add (.role .identityProvider))).run holdingBoth).1 = .ok [provider] ∧
      [authority].filter (·.hasRole .identityProvider) = [] := by
  intro r query
  obtain ⟨-, alone, beside⟩ := lookups_holdingBoth
  have alone := BackingStore.found_eq_of_pairwise alone (by decide)
  have beside := BackingStore.found_eq_of_pairwise beside (by decide)
  have filed : holdingBoth.store.IsFiled := BackingStore.isFiled_after _ _
  have here : r.IsAnsweredHere holdingBoth query := by
    left
    rw [alone]
    exact List.cons_ne_nil _ _
  have there : r.IsAnsweredHere holdingBoth (query.add (.role .identityProvider)) := by
    left
    show holdingBoth.store.found
      { artifact := some artifactOfAuthority, role := some .identityProvider } ≠ []
    rw [beside]
    exact List.cons_ne_nil _ _
  refine ⟨isUnexpired_holdingBoth, here, ?_, ?_, by decide⟩
  · rw [run_resolve_of_answeredHere r filed rfl isUnexpired_holdingBoth here]
    show Outcome.ok ((holdingBoth.store.found query).flatMap _) = _
    rw [alone]
    rfl
  · rw [run_resolve_of_answeredHere r filed rfl isUnexpired_holdingBoth there]
    show Outcome.ok (((holdingBoth.store.found
      { artifact := some artifactOfAuthority, role := some .identityProvider }).flatMap _).filter _)
        = _
    rw [beside]
    rfl

end Resolver

end Federation
