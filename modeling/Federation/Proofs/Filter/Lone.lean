/-
# What filters make of a description

A filter of this library lets a document through as it is, or works on its descriptions one by one.
What it makes of a description is of the same entity and has the same bounds, whatever is added to
it or left out of it. A description may come as a document of its own, as a copy in a persistent
cache does. What is let through then is again one description.

## Main definitions

- `Metadata.Entity.IsTrimmed`: what a filter may make of a description.
- `FilterChain.IsBuiltIn`: a chain of filters of this library.

## Main results

- `MetadataFilter.exists_trims_of_run`: what a filter does to a document.
- `FilterChain.lone_of_apply`: what a chain lets through of a description that comes alone.
-/

import Federation.Proofs.Filter.Identity

namespace Federation

open Federation.Metadata

/-- Two descriptions are of the same entity and valid for the same time. -/
structure Metadata.Entity.IsAlike (e other : Entity) : Prop where
  entityId : e.entityId = other.entityId
  validUntil : e.validUntil = other.validUntil

namespace Metadata.Entity.IsAlike

variable {e other another : Entity}

theorem refl (e : Entity) : e.IsAlike e := ⟨rfl, rfl⟩

theorem trans (first : e.IsAlike other) (second : other.IsAlike another) : e.IsAlike another :=
  ⟨first.entityId.trans second.entityId, first.validUntil.trans second.validUntil⟩

end Metadata.Entity.IsAlike

/-- What a filter may make of a description: one of the same entity with the same bounds, and roles
that are reached where roles of it were. -/
structure Metadata.Entity.IsTrimmed (d e : Entity) : Prop extends d.IsAlike e where
  cacheSeconds : d.cacheSeconds = e.cacheSeconds
  endpoints : ∀ role ∈ d.roles, ∃ other ∈ e.roles, role.endpoints = other.endpoints

namespace Metadata.Entity.IsTrimmed

variable {d e e' : Entity}

theorem refl (e : Entity) : e.IsTrimmed e := ⟨.refl e, rfl, fun role listed => ⟨role, listed, rfl⟩⟩

theorem trans (first : d.IsTrimmed e) (second : e.IsTrimmed e') : d.IsTrimmed e' := by
  refine ⟨first.toIsAlike.trans second.toIsAlike, first.cacheSeconds.trans second.cacheSeconds, ?_⟩
  intro role listed
  obtain ⟨other, listed', same⟩ := first.endpoints role listed
  obtain ⟨another, listed'', same'⟩ := second.endpoints other listed'
  exact ⟨another, listed'', same.trans same'⟩

end Metadata.Entity.IsTrimmed

/-! ## What filters do to entities -/

namespace Filter

/-- What is kept of an entity is trimmed at most. -/
def EntityMap.Trims (f : EntityMap) : Prop := ∀ e kept, f e = .ok (some kept) → kept.IsTrimmed e

theorem isTrimmed_foldl {Rule : Type} {annotate : Entity → Rule → Entity}
    (once : ∀ e rule, (annotate e rule).IsTrimmed e) (rules : List Rule) (e : Entity) :
    (rules.foldl annotate e).IsTrimmed e := by
  induction rules generalizing e with
  | nil => exact .refl e
  | cons rule rest ih => exact (ih _).trans (once e rule)

theorem isTrimmed_annotate_algorithms (rules : List AlgorithmRule) (e : Entity) :
    (rules.foldl AlgorithmRule.annotate e).IsTrimmed e := by
  refine isTrimmed_foldl (fun e rule => ?_) rules e
  rw [AlgorithmRule.annotate]
  split
  · exact ⟨⟨rfl, rfl⟩, rfl, fun role listed => ⟨role, listed, rfl⟩⟩
  · exact .refl e

theorem isTrimmed_annotate_formats (rules : List NameIdRule) (e : Entity) :
    (rules.foldl NameIdRule.annotate e).IsTrimmed e := by
  refine isTrimmed_foldl (fun e rule => ?_) rules e
  rw [NameIdRule.annotate]
  split
  · refine ⟨⟨rfl, rfl⟩, rfl, fun role listed => ?_⟩
    obtain ⟨other, listed', rfl⟩ := List.mem_map.1 listed
    refine ⟨other, listed', ?_⟩
    split <;> rfl
  · exact .refl e

theorem trims_keepUnlessWronglySigned (engine : TrustEngine) :
    EntityMap.Trims (keepUnlessWronglySigned engine) := by
  intro e kept admitted
  rw [keepUnlessWronglySigned] at admitted
  split at admitted
  · cases admitted
    exact .refl e
  · split at admitted
    · cases admitted
      exact .refl e
    · cases admitted

end Filter

/-- A filter of this library lets a document through as it is, or works on its entities one by one,
which it trims at most. -/
theorem MetadataFilter.exists_trims_of_run {filter : MetadataFilter} {context : Filter.Context}
    {document out : Document} (known : ∀ name run, filter ≠ .custom name run)
    (ran : filter.run context document = .ok (some out)) :
    out = document ∨
      ∃ f : Filter.EntityMap, f.Trims ∧ Filter.mapDocument f document = .ok (some out) := by
  cases filter with
  | validUntil longest => exact .inl (Filter.requireValidUntil_eq_ok.1 ran).1
  | signature engine rootRequired =>
    exact (mapDocument_of_checkSignatures ran).imp_right fun mapped =>
      ⟨_, Filter.trims_keepUnlessWronglySigned engine, mapped⟩
  | form =>
    refine .inr ⟨_, fun e kept admitted => ?_, ran⟩
    split at admitted
    · cases admitted
    · cases admitted
      exact .refl e
  | roles roles keepRoleless =>
    -- The roles that stay are some of those that there were.
    refine .inr ⟨_, fun e kept admitted => ?_, ran⟩
    dsimp only at admitted
    split at admitted
    · cases admitted
    · cases admitted
      exact ⟨⟨rfl, rfl⟩, rfl, fun role listed => ⟨role, (List.mem_filter.1 listed).1, rfl⟩⟩
  | entityIds mode ids =>
    refine .inr ⟨_, fun e kept admitted => ?_, ran⟩
    simp only [Except.ok.injEq, Option.ite_none_right_eq_some, Option.some.injEq] at admitted
    exact admitted.2 ▸ .refl e
  | algorithms rules =>
    refine .inr ⟨_, fun e kept annotated => ?_, ran⟩
    cases annotated
    exact Filter.isTrimmed_annotate_algorithms rules e
  | nameIdFormats rules =>
    refine .inr ⟨_, fun e kept annotated => ?_, ran⟩
    cases annotated
    exact Filter.isTrimmed_annotate_formats rules e
  | custom name run => exact absurd rfl (known name run)

/-- A filter of this library lets at most one description through, which is alike. -/
theorem MetadataFilter.lone_of_run {filter : MetadataFilter} {context : Filter.Context} {e : Entity}
    {document : Document} (known : ∀ name run, filter ≠ .custom name run)
    (ran : filter.run context (.entity e) = .ok (some document)) :
    ∃ kept, document = .entity kept ∧ kept.IsAlike e := by
  rcases exists_trims_of_run known ran with rfl | ⟨f, trims, mapped⟩
  · exact ⟨e, rfl, .refl e⟩
  · obtain ⟨kept, one, rfl⟩ := Filter.mapDocument_entity_eq_ok.1 mapped
    exact ⟨kept, rfl, (trims e kept one).toIsAlike⟩

namespace FilterChain

/-- A chain of filters of this library. -/
def IsBuiltIn (chain : FilterChain) : Prop := ∀ name run, .custom name run ∉ chain

theorem isBuiltIn_nil : IsBuiltIn [] := fun _ _ => List.not_mem_nil

theorem IsBuiltIn.cons {filter : MetadataFilter} {chain : FilterChain}
    (builtIn : IsBuiltIn (filter :: chain)) :
    (∀ name run, filter ≠ .custom name run) ∧ chain.IsBuiltIn := by
  refine ⟨?_, fun name run listed => builtIn name run (List.mem_cons_of_mem _ listed)⟩
  rintro name run rfl
  exact builtIn name run List.mem_cons_self

/-- A chain of filters of this library lets at most one description through, which is alike. -/
theorem lone_of_apply {chain : FilterChain} {context : Filter.Context} {e : Entity}
    {document : Document} (builtIn : chain.IsBuiltIn)
    (applied : chain.apply context (.entity e) = .ok (some document)) :
    ∃ kept, document = .entity kept ∧ kept.IsAlike e := by
  induction chain generalizing e with
  | nil =>
    cases applied
    exact ⟨e, rfl, .refl e⟩
  | cons filter rest ih =>
    obtain ⟨known, later⟩ := builtIn.cons
    obtain ⟨between, first, others⟩ := apply_cons_eq_ok.1 applied
    obtain ⟨once, rfl, alike⟩ := MetadataFilter.lone_of_run known first
    obtain ⟨kept, same, alike'⟩ := ih later others
    exact ⟨kept, same, alike'.trans alike⟩

end FilterChain

end Federation
