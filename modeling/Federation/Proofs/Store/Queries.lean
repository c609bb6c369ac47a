/-
# Entities that meet a query

A query meets a description if an index that understands the query asks for a key under which
it files the description. What a store finds for a query, in the order in which it is gone
through, depends on nothing but which entities have a record that the query meets.

A role stated beside other criteria changes what a query meets in one case only: beside
neither an ID nor a text, the index of roles takes it for a key of its own.

## Main results

- `IsFiled.mem_found`: what a store finds.
- `found_congr`: queries that meet the same descriptions find the same.
- `Criteria.meets_add_role`, `IsFiled.mem_found_add_role`: what a query meets and what is found
  for it with a role added to it.
-/

import Mathlib.Data.List.Sort
import Mathlib.Data.String.Basic
import Federation.Proofs.Store.Filing

namespace Federation

open Federation.Metadata

/-! ## Queries and descriptions -/

/-- An index that understands a query asks for a key under which it files a description. -/
def Criteria.Meets (query : Criteria) (indexes : List EntityIndex) (e : Entity) : Prop :=
  ∃ index ∈ indexes, ∃ keys, index.queryKeys query = some keys ∧
    ∃ key ∈ keys, key ∈ index.entityKeys e

theorem Criteria.meets_iff {query : Criteria} {indexes : List EntityIndex} {e : Entity} :
    query.Meets indexes e ↔ (indexes.any fun index =>
      ((index.queryKeys query).getD []).any (index.entityKeys e).contains) = true := by
  simp only [Meets, List.any_eq_true, List.contains_iff_mem]
  constructor
  · rintro ⟨index, listed, keys, asked, key, wanted, filed⟩
    exact ⟨index, listed, key, by rwa [asked], filed⟩
  · rintro ⟨index, listed, key, wanted, filed⟩
    cases asked : index.queryKeys query with
    | none =>
      rw [asked] at wanted
      cases wanted
    | some keys =>
      rw [asked] at wanted
      exact ⟨index, listed, keys, asked, key, wanted, filed⟩

instance (query : Criteria) (indexes : List EntityIndex) (e : Entity) :
    Decidable (query.Meets indexes e) :=
  decidable_of_iff _ Criteria.meets_iff.symm

/-- An index of this library. -/
def EntityIndex.IsBuiltIn : EntityIndex → Prop
  | artifactSource | role | attributeValue _ => True
  | custom .. => False

theorem Metadata.Role.text_injective {role other : Role} (same : role.text = other.text) :
    role = other := by
  have found := Role.ofText?_text role
  rw [same, Role.ofText?_text other] at found
  exact (Option.some_inj.1 found).symm

namespace EntityIndex

variable {query : Criteria} {role : Role} {e : Entity}

/-- The index of roles files a description under the roles it has. -/
theorem text_mem_entityKeys : role.text ∈ EntityIndex.role.entityKeys e ↔ e.hasRole role = true := by
  rw [entityKeys, List.mem_eraseDups, List.mem_map, Entity.hasRole, List.any_eq_true]
  constructor
  · rintro ⟨part, listed, same⟩
    exact ⟨part, listed, by simpa using Role.text_injective same⟩
  · rintro ⟨part, listed, same⟩
    have same : part.role = role := by simpa using same
    exact ⟨part, listed, by rw [same]⟩

/-- No index but that of roles looks at the role of a query. -/
theorem queryKeys_add_role_of_ne {index : EntityIndex} (builtIn : index.IsBuiltIn)
    (other : index ≠ .role) : index.queryKeys (query.add (.role role)) = index.queryKeys query := by
  cases index with
  | artifactSource => rfl
  | role => exact absurd rfl other
  | attributeValue names => rfl
  | custom name keys asked => exact builtIn.elim

end EntityIndex

/-- A role added to a query that states none is looked up beside what the query asks for
anyhow, if there is an index of roles and the query states neither an ID nor a text. -/
theorem Criteria.meets_add_role {query : Criteria} {indexes : List EntityIndex} {e : Entity}
    (builtIn : ∀ index ∈ indexes, index.IsBuiltIn) (unstated : query.role = none) (role : Role) :
    (query.add (.role role)).Meets indexes e ↔
      query.Meets indexes e ∨
        (query.entityId = none ∧ query.text = none ∧ .role ∈ indexes ∧ e.hasRole role = true) := by
  -- Without a role the index of roles does not understand the query.
  have silent : EntityIndex.role.queryKeys query = none := by
    simp [EntityIndex.queryKeys, unstated]
  constructor
  · rintro ⟨index, listed, keys, asked, key, wanted, filed⟩
    by_cases other : index = .role
    · subst other
      right
      rw [EntityIndex.queryKeys] at asked
      split at asked
      · cases asked
      · rename_i alone
        obtain rfl := Option.some_inj.1 asked
        obtain rfl := List.mem_singleton.1 wanted
        have alone : query.entityId = none ∧ query.text = none := by
          simpa [Criteria.add] using alone
        exact ⟨alone.1, alone.2, listed, EntityIndex.text_mem_entityKeys.1 filed⟩
    · left
      rw [EntityIndex.queryKeys_add_role_of_ne (builtIn index listed) other] at asked
      exact ⟨index, listed, keys, asked, key, wanted, filed⟩
  · rintro (⟨index, listed, keys, asked, key, wanted, filed⟩ | ⟨no_id, no_text, listed, has⟩)
    · have other : index ≠ .role := by
        rintro rfl
        rw [silent] at asked
        cases asked
      rw [← EntityIndex.queryKeys_add_role_of_ne (builtIn index listed) other] at asked
      exact ⟨index, listed, keys, asked, key, wanted, filed⟩
    · refine ⟨.role, listed, [role.text], ?_, role.text, List.mem_singleton_self _,
        EntityIndex.text_mem_entityKeys.2 has⟩
      simp [EntityIndex.queryKeys, Criteria.add, no_id, no_text]

/-! ## What a store finds -/

namespace BackingStore

variable {s : BackingStore} {id : String} {query other : Criteria}

/-- The IDs that a store finds for a query, in the order in which they are gone through. If no
index understands the query, nothing is found. -/
def found (s : BackingStore) (query : Criteria) : List String :=
  ((s.lookup query).getD []).mergeSort fun a b => a ≤ b

theorem nodup_found : (s.found query).Nodup := by
  rw [found, (List.mergeSort_perm _ _).nodup_iff]
  cases answer : s.lookup query with
  | none => exact List.nodup_nil
  | some ids => exact nodup_lookup answer

theorem pairwise_found : (s.found query).Pairwise (· ≤ ·) :=
  List.pairwise_mergeSort' (· ≤ ·) _

/-- IDs that stand in order are gone through as they stand. -/
theorem found_eq_of_pairwise {ids : List String} (answer : s.lookup query = some ids)
    (sorted : ids.Pairwise fun a b => decide (a ≤ b) = true) : s.found query = ids := by
  rw [found, answer]
  exact List.mergeSort_of_pairwise sorted

/-- A store finds an entity if a record of it meets the query. -/
theorem IsFiled.mem_found (filed : s.IsFiled) :
    id ∈ s.found query ↔ ∃ record ∈ s.recordsOf id, query.Meets s.indexes record.entity := by
  rw [found, List.mem_mergeSort]
  cases answer : s.lookup query with
  | none =>
    -- No index understands the query, so it meets nothing.
    have silent := (lookup_eq_none_iff query).1 answer
    constructor
    · intro listed
      cases listed
    · rintro ⟨record, -, index, listed, keys, asked, -⟩
      rw [silent index listed] at asked
      cases asked
  | some ids =>
    rw [Option.getD_some, filed.mem_lookup answer]
    constructor
    · rintro ⟨index, listed, keys, asked, key, wanted, record, held, under⟩
      exact ⟨record, held, index, listed, keys, asked, key, wanted, under⟩
    · rintro ⟨record, held, index, listed, keys, asked, key, wanted, under⟩
      exact ⟨index, listed, keys, asked, key, wanted, record, held, under⟩

/-- Queries that find the same entities find them in the same order. -/
theorem found_congr (same : ∀ id, id ∈ s.found query ↔ id ∈ s.found other) :
    s.found query = s.found other := by
  have shuffled : (s.found query).Perm (s.found other) :=
    (List.perm_ext_iff_of_nodup nodup_found nodup_found).2 same
  exact shuffled.eq_of_pairwise' pairwise_found pairwise_found

/-! ## A role beside other criteria -/

/-- A role that is added to a query brings in entities that the query does not find: it is
looked up, and there are other entities that have it. -/
structure Widens (s : BackingStore) (query : Criteria) (role : Role) : Prop where
  no_id : query.entityId = none
  no_text : query.text = none
  indexed : .role ∈ s.indexes
  others : ∃ id, id ∉ s.found query ∧ ∃ record ∈ s.recordsOf id, record.entity.hasRole role = true

/-- What a query finds with a role added to it: what it finds anyhow, and where the role is
looked up, every entity that has it. -/
theorem IsFiled.mem_found_add_role (filed : s.IsFiled)
    (builtIn : ∀ index ∈ s.indexes, index.IsBuiltIn) (unstated : query.role = none) {role : Role} :
    id ∈ s.found (query.add (.role role)) ↔
      id ∈ s.found query ∨ (query.entityId = none ∧ query.text = none ∧ .role ∈ s.indexes ∧
        ∃ record ∈ s.recordsOf id, record.entity.hasRole role = true) := by
  rw [filed.mem_found, filed.mem_found]
  constructor
  · rintro ⟨record, held, meets⟩
    rcases (Criteria.meets_add_role builtIn unstated role).1 meets with
      meets | ⟨no_id, no_text, indexed, has⟩
    · exact .inl ⟨record, held, meets⟩
    · exact .inr ⟨no_id, no_text, indexed, record, held, has⟩
  · rintro (⟨record, held, meets⟩ | ⟨no_id, no_text, indexed, record, held, has⟩)
    · exact ⟨record, held, (Criteria.meets_add_role builtIn unstated role).2 (.inl meets)⟩
    · refine ⟨record, held, (Criteria.meets_add_role builtIn unstated role).2 (.inr ?_)⟩
      exact ⟨no_id, no_text, indexed, has⟩

/-- A role that does not widen a query leaves it finding what it finds. -/
theorem IsFiled.found_add_role (filed : s.IsFiled)
    (builtIn : ∀ index ∈ s.indexes, index.IsBuiltIn) (unstated : query.role = none) {role : Role}
    (narrow : ¬ s.Widens query role) : s.found (query.add (.role role)) = s.found query := by
  apply found_congr
  intro id
  rw [filed.mem_found_add_role builtIn unstated]
  constructor
  · rintro (anyhow | ⟨no_id, no_text, indexed, has⟩)
    · exact anyhow
    · by_contra unfound
      exact narrow ⟨no_id, no_text, indexed, id, unfound, has⟩
  · exact Or.inl

end BackingStore

end Federation
