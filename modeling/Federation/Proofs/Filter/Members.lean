/-
# Members of a filtered document on their own

What a filter lets through of a document is cached member by member. Every member that is left comes
from a member of the document, which has the same bounds. A member may be looked at again later, as
a document of its own. A member that came through a check of form, or through one
that keeps certain roles, is then let through as it is: both look at nothing that a group says of
its members.

## Main definitions

- `MetadataFilter.Admits`: a filter lets an entity through as it is.

## Main results

- `Filter.yields_of_mem_flatten`: where the members of a filtered document come from.
- `FilterChain.exists_trimmed_of_apply`: they are trimmed at most.
- `MetadataFilter.admits_form_of_mem_flatten`, `MetadataFilter.admits_roles_of_mem_flatten`: members
  are let through again.
- `FilterChain.apply_of_admits`: what every filter of a chain lets through as it is, the chain does.
-/

import Federation.Proofs.Filter.Validity

namespace Federation

open Federation.Metadata Federation.Time

/-- What is trimmed is trimmed within bounds as well. -/
theorem Metadata.Entity.IsTrimmed.within {d e : Entity} (trimmed : d.IsTrimmed e)
    (validUntil : Option Instant) (cacheSeconds : Option Nat) :
    (d.within validUntil cacheSeconds).IsTrimmed (e.within validUntil cacheSeconds) where
  entityId := trimmed.entityId
  validUntil := congrArg (tighterInstant · validUntil) trimmed.validUntil
  cacheSeconds := congrArg (tighterSeconds · cacheSeconds) trimmed.cacheSeconds
  endpoints := trimmed.endpoints

namespace Filter

variable {f : EntityMap} {d : Entity} {document out : Document}

/-! ## Where members come from -/

/-- What is kept of an entity, within the bounds of the groups around it. -/
def EntityMap.Yields (f : EntityMap) (before : List Entity) (d : Entity) : Prop :=
  ∃ e kept validUntil cacheSeconds, f e = .ok (some kept) ∧
    e.within validUntil cacheSeconds ∈ before ∧ d = kept.within validUntil cacheSeconds

theorem EntityMap.Yields.mono {before after : List Entity} (yields : f.Yields before d)
    (more : before ⊆ after) : f.Yields after d := by
  obtain ⟨e, kept, validUntil, cacheSeconds, one, inside, rfl⟩ := yields
  exact ⟨e, kept, validUntil, cacheSeconds, one, more inside, rfl⟩

theorem exists_of_mem_mapList {entities kept : List Entity}
    (mapped : mapList f entities = .ok kept) (inside : d ∈ kept) :
    ∃ e ∈ entities, f e = .ok (some d) := by
  induction entities generalizing kept with
  | nil =>
    cases mapped
    cases inside
  | cons e rest ih =>
    obtain ⟨first, others, one, more, rfl⟩ := mapList_cons_eq_ok.1 mapped
    rcases List.mem_append.1 inside with head | tail
    · obtain rfl := Option.mem_toList.1 head
      exact ⟨e, List.mem_cons_self, one⟩
    · obtain ⟨e', listed, same⟩ := ih more tail
      exact ⟨e', List.mem_cons_of_mem e listed, same⟩

mutual

theorem yields_of_mem_mapGroup {g left : Group} {validUntil : Option Instant}
    {cacheSeconds : Option Nat} (mapped : mapGroup f g = .ok left)
    (inside : d ∈ left.flattenWithin validUntil cacheSeconds) :
    f.Yields (g.flattenWithin validUntil cacheSeconds) d := by
  obtain ⟨name, until_, seconds, entities, groups, signature⟩ := g
  obtain ⟨kept, left, own, below, rfl⟩ := mapGroup_eq_ok.1 mapped
  rw [Group.flattenWithin] at inside ⊢
  rcases List.mem_append.1 inside with inside | inside
  · obtain ⟨e', listed, rfl⟩ := List.mem_map.1 inside
    obtain ⟨e, listed', one⟩ := exists_of_mem_mapList own listed
    exact ⟨e, e', _, _, one, List.mem_append_left _ (List.mem_map_of_mem listed'), rfl⟩
  · exact (yields_of_mem_mapGroups below inside).mono (List.subset_append_right _ _)

theorem yields_of_mem_mapGroups {groups left : List Group} {validUntil : Option Instant}
    {cacheSeconds : Option Nat} (mapped : mapGroups f groups = .ok left)
    (inside : d ∈ Group.flattenAll validUntil cacheSeconds left) :
    f.Yields (Group.flattenAll validUntil cacheSeconds groups) d := by
  cases groups with
  | nil =>
    cases mapped
    cases inside
  | cons g rest =>
    obtain ⟨first, others, one, more, rfl⟩ := mapGroups_cons_eq_ok.1 mapped
    have of_rest (inside : d ∈ Group.flattenAll validUntil cacheSeconds others) :
        f.Yields (Group.flattenAll validUntil cacheSeconds (g :: rest)) d := by
      rw [Group.flattenAll]
      exact (yields_of_mem_mapGroups more inside).mono (List.subset_append_right _ _)
    split at inside
    · -- Nothing is left of the group, which is dropped.
      exact of_rest inside
    · rw [Group.flattenAll] at inside
      rcases List.mem_append.1 inside with inside | inside
      · rw [Group.flattenAll]
        exact (yields_of_mem_mapGroup one inside).mono (List.subset_append_left _ _)
      · exact of_rest inside

end

/-- Every member that is left after working on entities one by one is what was kept of a member,
within the same bounds. -/
theorem yields_of_mem_flatten (mapped : mapDocument f document = .ok (some out))
    (inside : d ∈ out.flatten) : f.Yields document.flatten d := by
  cases document with
  | entity e =>
    obtain ⟨kept, one, rfl⟩ := mapDocument_entity_eq_ok.1 mapped
    obtain rfl := List.mem_singleton.1 inside
    refine ⟨e, d, none, none, one, ?_, d.within_none.symm⟩
    rw [e.within_none]
    exact List.mem_cons_self
  | group g =>
    obtain ⟨left, one, rfl⟩ := mapDocument_group_eq_ok.1 mapped
    exact yields_of_mem_mapGroup one inside

/-- Such a member is trimmed at most. -/
theorem exists_trimmed_of_mem_flatten (trims : f.Trims) (mapped : mapDocument f document = .ok (some out))
    (inside : d ∈ out.flatten) : ∃ e ∈ document.flatten, d.IsTrimmed e := by
  obtain ⟨e, kept, validUntil, cacheSeconds, one, before, rfl⟩ := yields_of_mem_flatten mapped inside
  exact ⟨_, before, (trims e kept one).within validUntil cacheSeconds⟩

/-! ## The form of entities -/

theorem entityFault_within (e : Entity) (validUntil : Option Instant) (cacheSeconds : Option Nat) :
    entityFault (e.within validUntil cacheSeconds) = entityFault e := rfl

/-- An entity from which roles are taken away does not lose its form. -/
theorem entityFault_of_subset {e : Entity} {roles : List RoleDescriptor} (fewer : roles ⊆ e.roles)
    (sound : entityFault e = none) : entityFault { e with roles } = none := by
  rw [entityFault] at sound ⊢
  split at sound
  · cases sound
  split at sound
  · cases sound
  split at sound
  · cases sound
  rename_i named short absolute
  rw [if_neg named, if_neg short, if_neg absolute]
  rw [List.findSome?_eq_none_iff] at sound ⊢
  exact fun role listed => sound role (fewer listed)

end Filter

/-! ## Entities that are let through as they are -/

namespace MetadataFilter

variable {filter : MetadataFilter} {context context' : Filter.Context} {document out : Document}
  {d e : Entity} {longest : Option Span} {kept : List Role} {keepRoleless : Bool}

/-- Of what members a filter of this library leaves something. -/
theorem exists_trimmed_of_run (known : ∀ name run, filter ≠ .custom name run)
    (ran : filter.run context document = .ok (some out)) (inside : d ∈ out.flatten) :
    ∃ e ∈ document.flatten, d.IsTrimmed e := by
  rcases exists_trims_of_run known ran with rfl | ⟨f, trims, mapped⟩
  · exact ⟨d, inside, .refl d⟩
  · exact Filter.exists_trimmed_of_mem_flatten trims mapped inside

/-- A filter lets an entity through as it is. -/
def Admits (filter : MetadataFilter) (context : Filter.Context) (e : Entity) : Prop :=
  filter.run context (.entity e) = .ok (some (.entity e))

theorem admits_validUntil_iff :
    (validUntil longest).Admits context e ↔
      ∃ until_, e.validUntil = some until_ ∧ context.now < until_ ∧
        ∀ most, longest = some most → until_.span context.now ≤ most := by
  refine Filter.requireValidUntil_eq_ok.trans ?_
  exact and_iff_right rfl

theorem admits_form_iff : form.Admits context e ↔ Filter.entityFault e = none := by
  rw [Admits, run, Filter.checkForm, Filter.mapDocument]
  cases fault : Filter.entityFault e <;> simp [Except.map]

theorem admits_roles_iff :
    (roles kept keepRoleless).Admits context e ↔
      (∀ r ∈ e.roles, r.role ∈ kept) ∧ (e.roles = [] → keepRoleless = true) := by
  have same (left : List RoleDescriptor) : { e with roles := left } = e ↔ left = e.roles :=
    ⟨fun unchanged => congrArg Entity.roles unchanged, fun unchanged => by rw [unchanged]⟩
  rw [Admits, run, Filter.keepRoles, Filter.mapDocument]
  constructor
  · intro ran
    dsimp only at ran
    split at ran
    · cases ran
    · rename_i roleless
      have unchanged : e.roles.filter (fun r => kept.contains r.role) = e.roles := by
        simpa [Except.map, same] using ran
      rw [unchanged] at roleless
      refine ⟨fun r listed => ?_, fun none_left => ?_⟩
      · simpa using List.filter_eq_self.1 unchanged r listed
      · simpa [none_left] using roleless
  · rintro ⟨all, roleless⟩
    have unchanged : e.roles.filter (fun r => kept.contains r.role) = e.roles :=
      List.filter_eq_self.2 fun r listed => by simpa using all r listed
    dsimp only
    rw [unchanged, if_neg]
    · rfl
    · simpa using roleless

/-- A member of a document whose form was checked is let through by such a check. -/
theorem admits_form_of_mem_flatten (ran : form.run context document = .ok (some out))
    (inside : d ∈ out.flatten) : form.Admits context' d := by
  obtain ⟨e, e', validUntil, cacheSeconds, one, -, rfl⟩ := Filter.yields_of_mem_flatten ran inside
  dsimp only at one
  cases sound : Filter.entityFault e with
  | some reason =>
    rw [sound] at one
    cases one
  | none =>
    rw [sound] at one
    cases one
    exact admits_form_iff.2 sound

/-- A member of a document of which certain roles were kept is let through if they are to be kept
once more, and if all members had the right form before, it has. -/
theorem admits_roles_of_mem_flatten
    (ran : (roles kept keepRoleless).run context document = .ok (some out))
    (inside : d ∈ out.flatten) :
    (roles kept keepRoleless).Admits context' d ∧
      ((∀ e ∈ document.flatten, form.Admits context' e) → form.Admits context' d) := by
  obtain ⟨e, e', validUntil, cacheSeconds, one, before, rfl⟩ :=
    Filter.yields_of_mem_flatten ran inside
  dsimp only at one
  split at one
  · cases one
  rename_i roleless
  have fewer : { e with roles := e.roles.filter fun r => kept.contains r.role } = e' := by
    simpa using one
  subst fewer
  refine ⟨admits_roles_iff.2 ⟨fun r listed => ?_, fun none_left => ?_⟩, fun sound => ?_⟩
  · simpa using (List.mem_filter.1 listed).2
  · rw [show e.roles.filter (fun r => kept.contains r.role) = [] from none_left] at roleless
    simpa using roleless
  · -- Bounds are not looked at, neither before nor now.
    have whole := admits_form_iff.1 (sound _ before)
    rw [Filter.entityFault_within] at whole
    have fewer : e.roles.filter (fun r => kept.contains r.role) ⊆ e.roles :=
      List.filter_sublist.subset
    have left := Filter.entityFault_of_subset fewer whole
    exact admits_form_iff.2 left

end MetadataFilter

/-- Every member that a chain of filters of this library leaves is a member of the document that was
trimmed at most. -/
theorem FilterChain.exists_trimmed_of_apply {chain : FilterChain} {context : Filter.Context}
    {document out : Document} {d : Entity} (builtIn : chain.IsBuiltIn)
    (applied : chain.apply context document = .ok (some out)) (inside : d ∈ out.flatten) :
    ∃ e ∈ document.flatten, d.IsTrimmed e := by
  induction chain generalizing document with
  | nil =>
    cases applied
    exact ⟨d, inside, .refl d⟩
  | cons filter rest ih =>
    obtain ⟨known, later⟩ := builtIn.cons
    obtain ⟨between, first, others⟩ := apply_cons_eq_ok.1 applied
    obtain ⟨e, among, trimmed⟩ := ih later others
    obtain ⟨e', among', trimmed'⟩ := MetadataFilter.exists_trimmed_of_run known first among
    exact ⟨e', among', trimmed.trans trimmed'⟩

/-- What every filter of a chain lets through as it is, the chain does. -/
theorem FilterChain.apply_of_admits {chain : FilterChain} {context : Filter.Context} {e : Entity}
    (pass : ∀ filter ∈ chain, filter.Admits context e) :
    chain.apply context (.entity e) = .ok (some (.entity e)) := by
  induction chain with
  | nil => rfl
  | cons filter rest ih =>
    obtain ⟨first, others⟩ := List.forall_mem_cons.1 pass
    exact apply_cons_eq_ok.2 ⟨.entity e, first, ih others⟩

end Federation
