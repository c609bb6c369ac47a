/-
# Working on entities one by one

Most filters work on the entities of a document one by one, and remove the groups below the root
that they leave empty. Whether a document is worked on before it is flattened or what is listed of
it afterwards makes no difference, as long as the work does not depend on the bounds of validity
and caching, which flattening changes, and leaves them alone. Work that fails does so for the first
entity, in the order in which they are listed, for which it fails. Of the groups below the root
those stay, in order and with all that they state, in which something is left.

## Main definitions

- `Filter.DisregardsBounds`: work that neither looks at bounds nor changes them.
- `Group.subgroups`: the groups below a group, in the order of the document.
- `Filter.pruned`: what is left of a group below the root.

## Main results

- `Filter.mapDocument_eq_error_iff`: when work fails, and with which failure.
- `Filter.subgroups_mapGroup`: which groups stay.
- `Filter.filtering_commutes_with_flattening`: work before flattening is work after it.
-/

import Federation.Proofs.Filter.Flattening
import Federation.Proofs.Filter.Identity

namespace Federation

open Federation.Metadata Federation.Time

namespace Metadata

/-! ## The groups below a group -/

/-- The group that is the root of a document. -/
def Document.group? : Document → Option Group
  | .entity _ => none
  | .group g => some g

/-- The groups below a group, each before those below it. -/
def Group.subgroups (g : Group) : List Group := g.inside.filterMap Document.group?

/-- The groups of a list and those below them. -/
def Group.subgroupsAll (groups : List Group) : List Group :=
  (Group.insideAll groups).filterMap Document.group?

theorem Group.subgroups_eq (g : Group) : g.subgroups = Group.subgroupsAll g.groups := by
  obtain ⟨name, validUntil, cacheSeconds, entities, groups, signature⟩ := g
  have none_own : entities.filterMap (Document.group? ∘ .entity) = [] :=
    List.filterMap_eq_nil_iff.2 fun _ _ => rfl
  rw [Group.subgroups, Group.inside, List.filterMap_append, List.filterMap_map, none_own,
    List.nil_append]
  rfl

theorem Group.subgroupsAll_cons (g : Group) (rest : List Group) :
    Group.subgroupsAll (g :: rest) = g :: (g.subgroups ++ Group.subgroupsAll rest) := by
  rw [Group.subgroupsAll, Group.insideAll, List.filterMap_cons]
  exact congrArg (g :: ·) List.filterMap_append

/-- A group states of itself what another does. -/
structure Group.IsHeadedAs (g other : Group) : Prop where
  name : g.name = other.name
  validUntil : g.validUntil = other.validUntil
  cacheSeconds : g.cacheSeconds = other.cacheSeconds
  signature : g.signature = other.signature

/-- An entity with other bounds. -/
def Entity.bounded (e : Entity) (validUntil : Option Instant) (cacheSeconds : Option Nat) :
    Entity :=
  { e with validUntil, cacheSeconds }

end Metadata

namespace Filter

variable {f : EntityMap} {keep : Entity → Option Entity} {e : Entity} {g left : Group}
  {groups : List Group} {failure : Failure}

/-! ## Work that disregards bounds -/

/-- Work that drops entities, keeps or changes them, and neither looks at their bounds nor changes
these. -/
def DisregardsBounds (keep : Entity → Option Entity) : Prop :=
  ∀ e validUntil cacheSeconds,
    keep (e.bounded validUntil cacheSeconds) = (keep e).map (·.bounded validUntil cacheSeconds)

/-- What is kept has the bounds it had. -/
theorem DisregardsBounds.bounds_eq {kept : Entity} (disregards : DisregardsBounds keep)
    (one : keep e = some kept) :
    kept.validUntil = e.validUntil ∧ kept.cacheSeconds = e.cacheSeconds := by
  have same : keep e = (keep e).map (·.bounded e.validUntil e.cacheSeconds) :=
    disregards e e.validUntil e.cacheSeconds
  rw [one, Option.map_some] at same
  have same : kept = kept.bounded e.validUntil e.cacheSeconds := Option.some_inj.1 same
  exact ⟨by rw [same]; rfl, by rw [same]; rfl⟩

/-- Such work may as well be done within the bounds of a group. -/
theorem DisregardsBounds.within (disregards : DisregardsBounds keep) (e : Entity)
    (validUntil : Option Instant) (cacheSeconds : Option Nat) :
    keep (e.within validUntil cacheSeconds) = (keep e).map (·.within validUntil cacheSeconds) := by
  have tightened := disregards e (tighterInstant e.validUntil validUntil)
    (tighterSeconds e.cacheSeconds cacheSeconds)
  rw [show e.within validUntil cacheSeconds = e.bounded _ _ from rfl, tightened]
  refine Option.map_congr fun kept one => ?_
  obtain ⟨sameUntil, sameSeconds⟩ := disregards.bounds_eq one
  rw [Entity.bounded, Entity.within, sameUntil, sameSeconds]

theorem mapList_filterMap (keep : Entity → Option Entity) (entities : List Entity) :
    mapList (fun e => .ok (keep e)) entities = .ok (entities.filterMap keep) := by
  induction entities with
  | nil => rfl
  | cons e rest ih =>
    rw [mapList, ih, List.filterMap_cons]
    cases keep e <;> rfl

mutual

/-- Work on a group that does not fail, and then flattening, is flattening and then the work. -/
theorem exists_mapGroup (disregards : DisregardsBounds keep) (g : Group) :
    ∃ left, mapGroup (fun e => .ok (keep e)) g = .ok left ∧
      ∀ validUntil cacheSeconds, left.flattenWithin validUntil cacheSeconds
        = (g.flattenWithin validUntil cacheSeconds).filterMap keep := by
  obtain ⟨name, until_, seconds, entities, groups, signature⟩ := g
  obtain ⟨below, mapped, flat⟩ := exists_mapGroups disregards groups
  refine ⟨_, mapGroup_eq_ok.2 ⟨_, below, mapList_filterMap keep entities, mapped, rfl⟩, ?_⟩
  intro validUntil cacheSeconds
  rw [Group.flattenWithin, Group.flattenWithin, List.filterMap_append, flat, List.filterMap_map,
    List.map_filterMap]
  congr 2
  exact funext fun e => (disregards.within e _ _).symm

theorem exists_mapGroups (disregards : DisregardsBounds keep) (groups : List Group) :
    ∃ left, mapGroups (fun e => .ok (keep e)) groups = .ok left ∧
      ∀ validUntil cacheSeconds, Group.flattenAll validUntil cacheSeconds left
        = (Group.flattenAll validUntil cacheSeconds groups).filterMap keep := by
  cases groups with
  | nil => exact ⟨[], rfl, fun _ _ => rfl⟩
  | cons g rest =>
    obtain ⟨first, one, flat⟩ := exists_mapGroup disregards g
    obtain ⟨others, more, flat'⟩ := exists_mapGroups disregards rest
    refine ⟨_, mapGroups_cons_eq_ok.2 ⟨first, others, one, more, rfl⟩, ?_⟩
    intro validUntil cacheSeconds
    rw [Group.flattenAll, List.filterMap_append, ← flat, ← flat']
    by_cases empty : first.isEmpty = true
    -- A group that is removed would have had nothing listed.
    · rw [if_pos empty, Group.flattenWithin_eq_nil_iff.2 empty, List.nil_append]
    · rw [if_neg empty, Group.flattenAll]

end

/-! ## Work that fails -/

/-- The failure that was met, if one was. -/
def failureOf {α : Type} : Except Failure α → Option Failure
  | .ok _ => none
  | .error failure => some failure

theorem failureOf_eq_some_iff {α : Type} {x : Except Failure α} :
    failureOf x = some failure ↔ x = .error failure := by
  cases x <;> simp [failureOf]

theorem failureOf_eq_none_iff {α : Type} {x : Except Failure α} :
    failureOf x = none ↔ ∃ a, x = .ok a := by
  cases x <;> simp [failureOf]

theorem failureOf_map {α β : Type} (h : α → β) (x : Except Failure α) :
    failureOf (x.map h) = failureOf x := by
  cases x <;> rfl

/-- Work on a list fails as it does for the first entity for which it fails. -/
theorem failureOf_mapList (f : EntityMap) (entities : List Entity) :
    failureOf (mapList f entities) = entities.findSome? fun e => failureOf (f e) := by
  induction entities with
  | nil => rfl
  | cons e rest ih =>
    rw [mapList, List.findSome?_cons, ← ih]
    cases f e with
    | error failure => rfl
    | ok kept => cases mapList f rest <;> rfl

mutual

/-- So does work on a group, for the entities in it as they stand there. -/
theorem failureOf_mapGroup (f : EntityMap) (g : Group) :
    failureOf (mapGroup f g)
      = (g.inside.filterMap Document.entity?).findSome? fun e => failureOf (f e) := by
  obtain ⟨name, validUntil, cacheSeconds, entities, groups, signature⟩ := g
  rw [Group.members_mk, List.findSome?_append, ← failureOf_mapList, ← failureOf_mapGroups f groups,
    mapGroup]
  cases mapList f entities with
  | error failure => rfl
  | ok kept => cases mapGroups f groups <;> rfl

theorem failureOf_mapGroups (f : EntityMap) (groups : List Group) :
    failureOf (mapGroups f groups)
      = ((Group.insideAll groups).filterMap Document.entity?).findSome? fun e =>
        failureOf (f e) := by
  cases groups with
  | nil => rfl
  | cons g rest =>
    rw [Group.membersAll_cons, List.findSome?_append, ← failureOf_mapGroup f g,
      ← failureOf_mapGroups f rest, mapGroups]
    cases mapGroup f g with
    | error failure => rfl
    | ok first => cases mapGroups f rest <;> rfl

end

theorem failureOf_mapDocument (f : EntityMap) (document : Document) :
    failureOf (mapDocument f document) = document.members.findSome? fun e => failureOf (f e) := by
  cases document with
  | entity e =>
    rw [mapDocument, failureOf_map]
    exact List.findSome?_singleton.symm
  | group g =>
    rw [mapDocument, failureOf_map, failureOf_mapGroup]
    rfl

/-- Work on a document fails exactly as it does for the first of its entities for which it fails. -/
theorem mapDocument_eq_error_iff {document : Document} :
    mapDocument f document = .error failure ↔
      ∃ before e after, document.members = before ++ e :: after ∧
        (∀ other ∈ before, ∃ kept, f other = .ok kept) ∧ f e = .error failure := by
  rw [← failureOf_eq_some_iff, failureOf_mapDocument, List.findSome?_eq_some_iff]
  simp only [failureOf_eq_some_iff, failureOf_eq_none_iff]
  constructor
  · rintro ⟨before, e, after, split, fails, passed⟩
    exact ⟨before, e, after, split, passed, fails⟩
  · rintro ⟨before, e, after, split, passed, fails⟩
    exact ⟨before, e, after, split, fails, passed⟩

/-- It does fail if it fails for any of them. -/
theorem exists_mapDocument_eq_error {document : Document} (inside : e ∈ document.members)
    (fails : f e = .error failure) : ∃ first, mapDocument f document = .error first := by
  cases mapped : mapDocument f document with
  | error first => exact ⟨first, rfl⟩
  | ok kept =>
    have none_fails := failureOf_mapDocument f document
    rw [mapped, failureOf, eq_comm, List.findSome?_eq_none_iff] at none_fails
    cases (failureOf_eq_some_iff.2 fails).symm.trans (none_fails e inside)

/-! ## Groups that stay -/

/-- What is left of a group below the root, if an entity is left in it. -/
def pruned (f : EntityMap) (g : Group) : Option Group :=
  match mapGroup f g with
  | .ok left => if left.isEmpty then none else some left
  | .error _ => none

theorem pruned_eq_some_iff :
    pruned f g = some left ↔ mapGroup f g = .ok left ∧ left.isEmpty = false := by
  rw [pruned]
  cases mapGroup f g with
  | error failure => simp
  | ok first =>
    by_cases empty : first.isEmpty = true
    · simp only [if_pos empty, Except.ok.injEq, reduceCtorEq, false_iff, not_and]
      rintro rfl
      rw [empty]
      exact Bool.noConfusion
    · simp only [if_neg empty, Option.some.injEq, Except.ok.injEq, iff_self_and]
      rintro rfl
      exact Bool.eq_false_iff.2 empty

theorem isHeadedAs_of_mapGroup (mapped : mapGroup f g = .ok left) : left.IsHeadedAs g := by
  obtain ⟨name, validUntil, cacheSeconds, entities, groups, signature⟩ := g
  obtain ⟨kept, below, -, -, rfl⟩ := mapGroup_eq_ok.1 mapped
  exact ⟨rfl, rfl, rfl, rfl⟩

theorem isEmpty_eq_false_of_mem_mapGroups {groups below : List Group}
    (mapped : mapGroups f groups = .ok below) : ∀ h ∈ below, h.isEmpty = false := by
  induction groups generalizing below with
  | nil =>
    cases mapped
    exact fun _ => nofun
  | cons g rest ih =>
    obtain ⟨first, others, one, more, rfl⟩ := mapGroups_cons_eq_ok.1 mapped
    cases empty : first.isEmpty with
    | true => exact ih more
    | false => exact List.forall_mem_cons.2 ⟨empty, ih more⟩

/-- What is left of a group has no groups below it if it is empty. -/
theorem subgroups_eq_nil_of_isEmpty (mapped : mapGroup f g = .ok left)
    (empty : left.isEmpty = true) : left.subgroups = [] := by
  obtain ⟨name, validUntil, cacheSeconds, entities, groups, signature⟩ := g
  obtain ⟨kept, below, -, more, rfl⟩ := mapGroup_eq_ok.1 mapped
  rw [Group.isEmpty, Bool.and_eq_true] at empty
  rw [Group.subgroups_eq]
  cases below with
  | nil => rfl
  | cons first others =>
    have inhabited := isEmpty_eq_false_of_mem_mapGroups more first List.mem_cons_self
    rw [Group.allEmpty, inhabited] at empty
    exact absurd empty.2 Bool.noConfusion

mutual

/-- The groups that stay below a group are those in which something is left, in order. -/
theorem subgroups_mapGroup (f : EntityMap) (g : Group) {left : Group}
    (mapped : mapGroup f g = .ok left) : left.subgroups = g.subgroups.filterMap (pruned f) := by
  obtain ⟨name, validUntil, cacheSeconds, entities, groups, signature⟩ := g
  obtain ⟨kept, below, -, more, rfl⟩ := mapGroup_eq_ok.1 mapped
  rw [Group.subgroups_eq, Group.subgroups_eq]
  exact subgroups_mapGroups f groups more

theorem subgroups_mapGroups (f : EntityMap) (groups : List Group) {below : List Group}
    (mapped : mapGroups f groups = .ok below) :
    Group.subgroupsAll below = (Group.subgroupsAll groups).filterMap (pruned f) := by
  cases groups with
  | nil =>
    cases mapped
    rfl
  | cons g rest =>
    obtain ⟨first, others, one, more, rfl⟩ := mapGroups_cons_eq_ok.1 mapped
    have inFirst := subgroups_mapGroup f g one
    have inOthers := subgroups_mapGroups f rest more
    rw [Group.subgroupsAll_cons, List.filterMap_cons, List.filterMap_append, ← inFirst, ← inOthers]
    cases empty : first.isEmpty with
    | true =>
      have dropped : pruned f g = none := by
        rw [pruned, one]
        exact if_pos empty
      -- All groups in a group that is removed are removed as well.
      rw [dropped, subgroups_eq_nil_of_isEmpty one empty]
      rfl
    | false =>
      rw [pruned_eq_some_iff.2 ⟨one, empty⟩]
      exact Group.subgroupsAll_cons first others

end

/-- No group that stays below a group is empty. -/
theorem isEmpty_eq_false_of_mem_subgroups (mapped : mapGroup f g = .ok left) :
    ∀ h ∈ left.subgroups, h.isEmpty = false := by
  intro h listed
  rw [subgroups_mapGroup f g mapped] at listed
  obtain ⟨before, -, stays⟩ := List.mem_filterMap.1 listed
  exact (pruned_eq_some_iff.1 stays).2

/-! ## The whole document -/

/-- Work that does not fail, done on a document. -/
theorem exists_mapDocument (disregards : DisregardsBounds keep) (document : Document) :
    ∃ kept, mapDocument (fun e => .ok (keep e)) document = .ok kept ∧
      kept.elim [] Document.flatten = document.flatten.filterMap keep := by
  cases document with
  | entity e =>
    refine ⟨(keep e).map .entity, rfl, ?_⟩
    rw [Document.flatten, List.filterMap_cons]
    cases keep e <;> rfl
  | group g =>
    obtain ⟨left, mapped, flat⟩ := exists_mapGroup disregards g
    refine ⟨some (.group left), ?_, flat none none⟩
    rw [mapDocument, mapped]
    rfl

/-- **Work on entities commutes with flattening.** To work on a document and flatten what is left
is to flatten it and work on what is listed, in order, if the work does not fail and disregards
bounds. Work fails as it does for the first entity for which it fails, in the order in which the
entities are listed, and does not fail otherwise. A group as the root stays, even if it is left
empty, and states what it did; of the groups below it those stay, in order, that are left with an
entity, and so does what they state. -/
theorem filtering_commutes_with_flattening (document : Document) :
    (∀ keep, DisregardsBounds keep →
      ∃ kept, mapDocument (fun e => .ok (keep e)) document = .ok kept ∧
        kept.elim [] Document.flatten = document.flatten.filterMap keep) ∧
    List.Forall₂ Entity.IsListedAs document.members document.flatten ∧
    (∀ f failure, mapDocument f document = .error failure ↔
      ∃ before e after, document.members = before ++ e :: after ∧
        (∀ other ∈ before, ∃ kept, f other = .ok kept) ∧ f e = .error failure) ∧
    (∀ f, (∃ e ∈ document.members, ∃ failure, f e = .error failure) →
      ∃ failure, mapDocument f document = .error failure) ∧
    ∀ f g, document = .group g → ∀ kept, mapDocument f document = .ok kept →
      ∃ left, kept = some (.group left) ∧ left.IsHeadedAs g ∧
        (∀ h ∈ left.subgroups, h.isEmpty = false) ∧
        left.subgroups = g.subgroups.filterMap (pruned f) ∧
        ∀ h stays, pruned f h = some stays → mapGroup f h = .ok stays ∧ stays.IsHeadedAs h := by
  refine ⟨fun keep disregards => exists_mapDocument disregards document, ?_,
    fun f failure => mapDocument_eq_error_iff, ?_, ?_⟩
  · exact document.members_within
  · rintro f ⟨e, inside, failure, fails⟩
    exact exists_mapDocument_eq_error inside fails
  · rintro f g rfl kept mapped
    cases one : mapGroup f g with
    | error failure =>
      rw [mapDocument, one] at mapped
      cases mapped
    | ok left =>
      rw [mapDocument, one] at mapped
      obtain rfl := Except.ok.inj mapped
      refine ⟨left, rfl, isHeadedAs_of_mapGroup one, isEmpty_eq_false_of_mem_subgroups one,
        subgroups_mapGroup f g one, fun h stays survives => ?_⟩
      -- A subgroup that stays has been gone through as the root was.
      obtain ⟨same, -⟩ := pruned_eq_some_iff.1 survives
      exact ⟨same, isHeadedAs_of_mapGroup same⟩

/-- The work of a filter that keeps the entities of a list of IDs. -/
def listed (ids : List String) (e : Entity) : Option Entity :=
  if ids.contains e.entityId then some e else none

theorem disregardsBounds_listed (ids : List String) : DisregardsBounds (listed ids) := by
  intro e validUntil cacheSeconds
  rw [listed, listed, Entity.bounded]
  split <;> rfl

/-- A group with an entity and two groups, each with one more entity. -/
def twoLevels : Document :=
  .group ⟨none, some ⟨100, 0⟩, none, [.ofId "a"],
    [⟨some "first", none, some 60, [.ofId "b"], [], none⟩,
      ⟨some "second", none, none, [.ofId "c"], [], none⟩], none⟩

theorem filtering_commutes_twoLevels :
    DisregardsBounds (listed ["b"]) ∧
      ∃ kept, keepListed .including ["b"] twoLevels = .ok kept ∧
        kept.elim [] Document.flatten = [(Entity.ofId "b").bounded (some ⟨100, 0⟩) (some 60)] := by
  obtain ⟨kept, mapped, flat⟩ :=
    (filtering_commutes_with_flattening twoLevels).1 (listed ["b"]) (disregardsBounds_listed _)
  exact ⟨disregardsBounds_listed _, kept, mapped, flat⟩

end Filter

end Federation
