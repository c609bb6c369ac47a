/-
# Filters do not make entities up

A filter of this library drops entities and changes what is said of them, but it never says
anything of an entity that was not in the document: the IDs that are left stand in the order
in which they stood before.

## Main results

- `Filter.ids_mapDocument`: what works on entities one by one keeps their order.
- `Filter.requireValidUntil_eq_ok`: which documents have the end of validity that they must have.
- `FilterChain.apply_cons_eq_ok`: a chain is its first filter and then the others.
- `FilterChain.keepsIds`: a chain keeps to the entities of a document if its custom filters do.
-/

import Federation.Filter.Chain

namespace Federation

open Federation.Metadata Federation.Time

namespace Filter

variable {f : EntityMap} {name : Option String} {validUntil : Option Instant}
  {cacheSeconds : Option Nat} {e : Entity} {entities : List Entity} {g : Group}
  {groups : List Group} {signature : Option Signature}

/-! ## Documents, one level at a time -/

theorem mapList_cons_eq_ok {out : List Entity} :
    mapList f (e :: entities) = .ok out ↔
      ∃ first others, f e = .ok first ∧ mapList f entities = .ok others ∧
        first.toList ++ others = out := by
  rw [mapList]
  cases f e with
  | error failure => simp
  | ok first => cases mapList f entities <;> simp

theorem mapGroup_eq_ok {out : Group} :
    mapGroup f ⟨name, validUntil, cacheSeconds, entities, groups, signature⟩ = .ok out ↔
      ∃ kept left, mapList f entities = .ok kept ∧ mapGroups f groups = .ok left ∧
        ⟨name, validUntil, cacheSeconds, kept, left, signature⟩ = out := by
  rw [mapGroup]
  cases mapList f entities with
  | error failure => simp
  | ok kept => cases mapGroups f groups <;> simp

theorem mapGroups_cons_eq_ok {out : List Group} :
    mapGroups f (g :: groups) = .ok out ↔
      ∃ first others, mapGroup f g = .ok first ∧ mapGroups f groups = .ok others ∧
        (if first.isEmpty then others else first :: others) = out := by
  rw [mapGroups]
  cases mapGroup f g with
  | error failure => simp
  | ok first => cases mapGroups f groups <;> simp

theorem mapDocument_entity_eq_ok {out : Document} :
    mapDocument f (.entity e) = .ok (some out) ↔
      ∃ kept, f e = .ok (some kept) ∧ .entity kept = out := by
  rw [mapDocument]
  cases f e with
  | error failure => simp [Except.map]
  | ok first => simp [Except.map]

theorem mapDocument_group_eq_ok {out : Document} :
    mapDocument f (.group g) = .ok (some out) ↔
      ∃ left, mapGroup f g = .ok left ∧ .group left = out := by
  rw [mapDocument]
  cases mapGroup f g <;> simp [Except.map]

/-! ## The order of the IDs -/

/-- An entity that is kept keeps its ID. -/
def EntityMap.KeepsId (f : EntityMap) : Prop :=
  ∀ e kept, f e = .ok (some kept) → kept.entityId = e.entityId

/-- The IDs of entities. -/
def idsOf (entities : List Entity) : List String := entities.map (·.entityId)

/-- The bounds of a group change no ID. -/
theorem idsOf_within :
    idsOf (entities.map (·.within validUntil cacheSeconds)) = idsOf entities := by
  rw [idsOf, List.map_map]
  rfl

theorem idsOf_append (es others : List Entity) :
    idsOf (es ++ others) = idsOf es ++ idsOf others :=
  List.map_append

theorem ids_mapList (keeps : f.KeepsId) {kept : List Entity}
    (mapped : mapList f entities = .ok kept) : (idsOf kept).Sublist (idsOf entities) := by
  induction entities generalizing kept with
  | nil =>
    cases mapped
    exact .slnil
  | cons e rest ih =>
    obtain ⟨first, others, one, more, rfl⟩ := mapList_cons_eq_ok.1 mapped
    cases first with
    | none => exact (ih more).cons e.entityId
    | some e' =>
      have same : e'.entityId = e.entityId := keeps e e' one
      simp only [Option.toList_some, List.cons_append, List.nil_append, idsOf, List.map_cons, same]
      exact (ih more).cons_cons e.entityId

mutual

theorem ids_mapGroup (keeps : f.KeepsId) {g out : Group} (mapped : mapGroup f g = .ok out)
    (validUntil : Option Instant) (cacheSeconds : Option Nat) :
    (idsOf (out.flattenWithin validUntil cacheSeconds)).Sublist
      (idsOf (g.flattenWithin validUntil cacheSeconds)) := by
  obtain ⟨name, until_, seconds, entities, groups, signature⟩ := g
  obtain ⟨kept, left, own, below, rfl⟩ := mapGroup_eq_ok.1 mapped
  rw [Group.flattenWithin, Group.flattenWithin, idsOf_append, idsOf_append, idsOf_within,
    idsOf_within]
  exact (ids_mapList keeps own).append (ids_mapGroups keeps below _ _)

theorem ids_mapGroups (keeps : f.KeepsId) {groups left : List Group}
    (mapped : mapGroups f groups = .ok left)
    (validUntil : Option Instant) (cacheSeconds : Option Nat) :
    (idsOf (Group.flattenAll validUntil cacheSeconds left)).Sublist
      (idsOf (Group.flattenAll validUntil cacheSeconds groups)) := by
  cases groups with
  | nil =>
    cases mapped
    exact .refl _
  | cons g rest =>
    obtain ⟨first, others, one, more, rfl⟩ := mapGroups_cons_eq_ok.1 mapped
    have later := ids_mapGroups keeps more validUntil cacheSeconds
    rw [Group.flattenAll, idsOf_append]
    split
    · exact later.trans (List.sublist_append_right _ _)
    · rw [Group.flattenAll, idsOf_append]
      exact (ids_mapGroup keeps one _ _).append later

end

/-- **What works on entities one by one keeps their order.** If every entity that is kept
keeps its ID, the IDs that are left are some of those that were there, in the same order. -/
theorem ids_mapDocument (keeps : f.KeepsId) {document kept : Document}
    (mapped : mapDocument f document = .ok (some kept)) :
    kept.entityIds.Sublist document.entityIds := by
  cases document with
  | entity e =>
    obtain ⟨e', one, rfl⟩ := mapDocument_entity_eq_ok.1 mapped
    simp [Document.entityIds, Document.flatten, keeps e e' one]
  | group g =>
    obtain ⟨left, one, rfl⟩ := mapDocument_group_eq_ok.1 mapped
    exact ids_mapGroup keeps one none none

/-! ## The end of the validity of the root -/

/-- The end that the root must state lets a document through as it is if the root states an end
that is later than now, and not too far ahead. -/
theorem requireValidUntil_eq_ok {name : String} {longest : Option Span} {context : Context}
    {document out : Document} :
    requireValidUntil name longest context document = .ok (some out) ↔
      out = document ∧ ∃ until_, document.validUntil = some until_ ∧ context.now < until_ ∧
        ∀ most, longest = some most → until_.span context.now ≤ most := by
  rw [requireValidUntil]
  cases document.validUntil with
  | none => simp
  | some until_ =>
    by_cases expired : until_ ≤ context.now
    · simp [expired, Instant.not_lt.2 expired]
    · cases longest with
      | none => simp [expired, Instant.not_le.1 expired, eq_comm]
      | some most =>
        by_cases far : most < until_.span context.now
        · have far' : ¬ until_.span context.now ≤ most := Int.not_le.2 far
          simp [expired, far, far']
        · have near : until_.span context.now ≤ most := Int.not_lt.1 far
          simp [expired, far, near, Instant.not_le.1 expired, eq_comm]

end Filter

namespace MetadataFilter

/-- A filter says nothing of entities that are not in the document. -/
def KeepsIds (filter : MetadataFilter) : Prop :=
  ∀ context document kept, filter.run context document = .ok (some kept) →
    kept.entityIds ⊆ document.entityIds

variable {e : Entity}

theorem entityId_annotate_algorithms (rules : List Filter.AlgorithmRule) (e : Entity) :
    (rules.foldl Filter.AlgorithmRule.annotate e).entityId = e.entityId := by
  induction rules generalizing e with
  | nil => rfl
  | cons rule rest ih =>
    rw [List.foldl_cons, ih, Filter.AlgorithmRule.annotate]
    split <;> rfl

theorem entityId_annotate_formats (rules : List Filter.NameIdRule) (e : Entity) :
    (rules.foldl Filter.NameIdRule.annotate e).entityId = e.entityId := by
  induction rules generalizing e with
  | nil => rfl
  | cons rule rest ih =>
    rw [List.foldl_cons, ih, Filter.NameIdRule.annotate]
    split <;> rfl

theorem keepsIds_validUntil (longest : Option Span) : (validUntil longest).KeepsIds := by
  intro context document kept ran
  -- A document that is not rejected is left as it is.
  obtain ⟨rfl, -⟩ := Filter.requireValidUntil_eq_ok.1 ran
  exact List.Subset.refl _

/-- What passes a check of signatures is left as it is, or it is a group of which the entities with
wrong signatures are dropped. -/
theorem mapDocument_of_checkSignatures {name : String} {engine : TrustEngine} {rootRequired : Bool}
    {document kept : Document}
    (checked : Filter.checkSignatures name engine rootRequired document = .ok (some kept)) :
    kept = document ∨
      Filter.mapDocument (Filter.keepUnlessWronglySigned engine) document = .ok (some kept) := by
  cases document with
  | entity e =>
    simp only [Filter.checkSignatures] at checked
    split at checked <;> split at checked <;> cases checked <;> exact .inl rfl
  | group g =>
    simp only [Filter.checkSignatures] at checked
    split at checked <;> split at checked
    · exact .inr checked
    · cases checked
    · cases checked
    · exact .inr checked

theorem keepsIds_signature (engine : TrustEngine) (rootRequired : Bool) :
    (signature engine rootRequired).KeepsIds := by
  intro context document kept ran
  rcases mapDocument_of_checkSignatures ran with rfl | mapped
  · exact List.Subset.refl _
  · refine (Filter.ids_mapDocument (fun e e' admitted => ?_) mapped).subset
    rw [Filter.keepUnlessWronglySigned] at admitted
    split at admitted
    · cases admitted
      rfl
    · split at admitted
      · cases admitted
        rfl
      · cases admitted

theorem keepsIds_form : form.KeepsIds := by
  intro context document kept ran
  refine (Filter.ids_mapDocument (fun e e' admitted => ?_) ran).subset
  split at admitted
  · cases admitted
  · cases admitted
    rfl

theorem keepsIds_roles (kept : List Role) (keepRoleless : Bool) :
    (roles kept keepRoleless).KeepsIds := by
  intro context document out ran
  refine (Filter.ids_mapDocument (fun e e' admitted => ?_) ran).subset
  dsimp only at admitted
  split at admitted
  · cases admitted
  · cases admitted
    rfl

theorem keepsIds_entityIds (mode : Filter.ListMode) (ids : List String) :
    (entityIds mode ids).KeepsIds := by
  intro context document kept ran
  refine (Filter.ids_mapDocument (fun e e' admitted => ?_) ran).subset
  simp only [Except.ok.injEq, Option.ite_none_right_eq_some, Option.some.injEq] at admitted
  rw [admitted.2]

/-- No filter of this library says anything of an entity that is not in the document. -/
theorem keepsIds (filter : MetadataFilter) (known : ∀ name run, filter ≠ .custom name run) :
    filter.KeepsIds := by
  cases filter with
  | validUntil longest => exact keepsIds_validUntil longest
  | signature engine rootRequired => exact keepsIds_signature engine rootRequired
  | form => exact keepsIds_form
  | roles kept keepRoleless => exact keepsIds_roles kept keepRoleless
  | entityIds mode ids => exact keepsIds_entityIds mode ids
  | algorithms rules =>
    intro context document kept ran
    refine (Filter.ids_mapDocument (fun e e' annotated => ?_) ran).subset
    cases annotated
    exact entityId_annotate_algorithms rules e
  | nameIdFormats rules =>
    intro context document kept ran
    refine (Filter.ids_mapDocument (fun e e' annotated => ?_) ran).subset
    cases annotated
    exact entityId_annotate_formats rules e
  | custom name run => exact absurd rfl (known name run)

end MetadataFilter

namespace FilterChain

variable {filter : MetadataFilter} {chain : FilterChain} {context : Filter.Context}
  {document out : Document}

/-- What a chain lets through was let through by its first filter, and then by the others. -/
theorem apply_cons_eq_ok :
    apply context (filter :: chain) document = .ok (some out) ↔
      ∃ between, filter.run context document = .ok (some between) ∧
        chain.apply context between = .ok (some out) := by
  rw [apply]
  split
  · rename_i between first
    simp [first]
  · rename_i first
    simp [first]
  · rename_i failure first
    simp [first]

theorem apply_append_eq_ok {before after : FilterChain} :
    apply context (before ++ after) document = .ok (some out) ↔
      ∃ between, before.apply context document = .ok (some between) ∧
        after.apply context between = .ok (some out) := by
  induction before generalizing document with
  | nil => simp [apply]
  | cons filter rest ih =>
    rw [List.cons_append, apply_cons_eq_ok]
    simp only [ih, apply_cons_eq_ok]
    constructor
    · rintro ⟨first, ran, between, others, last⟩
      exact ⟨between, ⟨first, ran, others⟩, last⟩
    · rintro ⟨between, ⟨first, ran, others⟩, last⟩
      exact ⟨first, ran, between, others, last⟩

/-- A chain says nothing of entities that are not in the document. -/
def KeepsIds (chain : FilterChain) : Prop :=
  ∀ context document kept, chain.apply context document = .ok (some kept) →
    kept.entityIds ⊆ document.entityIds

/-- A chain keeps to the entities of a document if its custom filters do. -/
theorem keepsIds (chain : FilterChain)
    (custom : ∀ name run, .custom name run ∈ chain → (MetadataFilter.custom name run).KeepsIds) :
    chain.KeepsIds := by
  intro context document kept
  induction chain generalizing document with
  | nil =>
    intro ran
    cases ran
    exact List.Subset.refl _
  | cons filter rest ih =>
    intro ran
    obtain ⟨between, first, others⟩ := apply_cons_eq_ok.1 ran
    have keeps : filter.KeepsIds := by
      cases filter with
      | custom name run => exact custom name run List.mem_cons_self
      | _ => exact MetadataFilter.keepsIds _ fun name run same => by cases same
    have later := ih (fun name run listed => custom name run (List.mem_cons_of_mem _ listed))
      between others
    exact List.Subset.trans later (keeps context document between first)

end FilterChain

end Federation
