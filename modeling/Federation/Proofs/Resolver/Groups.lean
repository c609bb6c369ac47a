/-
# Descriptions by entity

An answer of the origin may describe several entities, and one of them more than once. What is
cached of it is cached entity by entity: of each the descriptions that are valid, in their order.

## Main definitions

- `ownOf`, `validOf`: the descriptions of one entity, and those of them that are valid.

## Main results

- `eq_ownOf_of_mem_groupById`: every group is all there is of its entity.
-/

import Federation.Proofs.Index.Filing
import Federation.Resolver.Basic

namespace Federation.Resolver

open Federation.Metadata Federation.Time

/-- The descriptions of one entity among others. -/
def ownOf (id : String) (entities : List Entity) : List Entity :=
  entities.filter (·.entityId == id)

/-- The descriptions of an entity that are valid, as they are recorded. -/
def validOf (id : String) (entities : List Entity) (now : Instant) : List Entity :=
  ((ownOf id entities).filter (·.isValidAt now)).map (·.withoutWireForm)

variable {id : String} {e : Entity} {entities group : List Entity} {now : Instant}
  {groups : List (String × List Entity)}

theorem mem_ownOf : e ∈ ownOf id entities ↔ e ∈ entities ∧ e.entityId = id := by
  simp [ownOf]

theorem ownOf_eq_nil_iff : ownOf id entities = [] ↔ ∀ e ∈ entities, e.entityId ≠ id := by
  simp [ownOf]

theorem validOf_ne_nil_iff :
    validOf id entities now ≠ [] ↔ ∃ e ∈ entities, e.entityId = id ∧ e.isValidAt now = true := by
  rw [validOf, ownOf, List.filter_filter, Ne, List.map_eq_nil_iff, List.filter_eq_nil_iff]
  simp [and_comm]

/-! ## Groups -/

theorem mem_ids_groupById :
    id ∈ (groupById entities).map (·.1) ↔ ∃ e ∈ entities, e.entityId = id := by
  rw [groupById, List.map_map, List.mem_map]
  simp [List.mem_eraseDups]

/-- No entity has two groups. -/
theorem nodup_ids_groupById : ((groupById entities).map (·.1)).Nodup := by
  have ids : (groupById entities).map (·.1) = (entities.map (·.entityId)).eraseDups := by
    rw [groupById, List.map_map]
    exact List.map_id _
  rw [ids]
  exact nodup_eraseDups _

/-- Every group consists of all descriptions of its entity, in their order. -/
theorem eq_ownOf_of_mem_groupById (grouped : (id, group) ∈ groupById entities) :
    group = ownOf id entities := by
  obtain ⟨id', -, same⟩ := List.mem_map.1 grouped
  obtain ⟨rfl, rfl⟩ := Prod.mk.inj same
  rfl

theorem mem_of_mem_group (grouped : (id, group) ∈ groupById entities) (listed : e ∈ group) :
    e ∈ entities ∧ e.entityId = id := by
  rw [eq_ownOf_of_mem_groupById grouped] at listed
  exact mem_ownOf.1 listed

/-- The groups, in whatever order, consist of all descriptions. -/
theorem exists_group_iff (ordered : groups.Perm (groupById entities)) :
    (∃ group ∈ groups, e ∈ group.2) ↔ e ∈ entities := by
  constructor
  · rintro ⟨⟨id, group⟩, listed, described⟩
    exact (mem_of_mem_group (ordered.mem_iff.1 listed) described).1
  · intro described
    obtain ⟨⟨id, group⟩, listed, same⟩ := List.mem_map.1 (mem_ids_groupById.2 ⟨e, described, rfl⟩)
    refine ⟨_, ordered.mem_iff.2 listed, ?_⟩
    rw [eq_ownOf_of_mem_groupById listed]
    exact mem_ownOf.2 ⟨described, same.symm⟩

end Federation.Resolver
