/-
# What a check of signatures lets through

A document is a tree whose every part can be signed: the root, the entities and the groups in
it. The check looks at the root and at the entities. What is left of the document are the
entities with a right signature or none, as they were and where they were, and the groups that
have an entity left. It does not look at the signatures of the groups below the root, so a
group with a wrong signature is let through with the entities in it.

## Main definitions

- `Document.parts`: all parts of a document, a group before what is in it.
- `Group.keeping`: a group from which entities were dropped, and groups left empty.
- `Filter.Vets`: what is promised of the signatures in a document that was let through.

## Main results

- `inside_keeping`: the parts that are left are those with an entity left, in order.
- `Filter.checked_signatures`: what the check rejects, what it leaves of a document, and when
  it keeps its promise.
- `Filter.wrongly_signed_group_passes`: a group that breaks it.
-/

import Federation.Filter.Chain

namespace Federation

open Federation.Metadata

namespace Metadata

/-! ## The parts of a document

A part of a document is a document itself, with that part as its root. -/

mutual

/-- What is in a group, at any depth. -/
def Group.inside : Group → List Document
  | ⟨_, _, _, entities, groups, _⟩ => entities.map .entity ++ Group.insideAll groups

/-- The groups of a list and what is in them. -/
def Group.insideAll : List Group → List Document
  | [] => []
  | g :: rest => .group g :: (g.inside ++ Group.insideAll rest)

end

/-- What is below the root of a document. -/
def Document.inside : Document → List Document
  | .entity _ => []
  | .group g => g.inside

/-- All parts of a document, a group before what is in it. -/
def Document.parts (d : Document) : List Document := d :: d.inside

/-- The entity that is the root of a document. -/
def Document.entity? : Document → Option Entity
  | .entity e => some e
  | .group _ => none

/-- The entities of a document as they stand in it. -/
def Document.members (d : Document) : List Entity := d.parts.filterMap Document.entity?

/-! ## Dropping entities -/

variable {keep : Entity → Bool}

mutual

/-- A group from which entities were dropped, and the groups that were left empty. -/
def Group.keeping (keep : Entity → Bool) : Group → Group
  | ⟨name, validUntil, cacheSeconds, entities, groups, signature⟩ =>
    ⟨name, validUntil, cacheSeconds, entities.filter keep, Group.keepingAll keep groups, signature⟩

/-- The groups of a list that have an entity left. -/
def Group.keepingAll (keep : Entity → Bool) : List Group → List Group
  | [] => []
  | g :: rest =>
    if (g.keeping keep).isEmpty then Group.keepingAll keep rest
    else g.keeping keep :: Group.keepingAll keep rest

end

/-- A document from which entities were dropped. A root stays, whatever is left of it. -/
def Document.keeping (keep : Entity → Bool) : Document → Document
  | .entity e => .entity e
  | .group g => .group (g.keeping keep)

/-- Does a part below the root stay: an entity that is kept, or a group with an entity left? -/
def Document.stays (keep : Entity → Bool) : Document → Bool
  | .entity e => keep e
  | .group g => !(g.keeping keep).isEmpty

@[simp]
theorem Document.entity?_entity (e : Entity) : (Document.entity e).entity? = some e := rfl

@[simp]
theorem Document.entity?_group (g : Group) : (Document.group g).entity? = none := rfl

@[simp]
theorem Document.keeping_entity (e : Entity) : (Document.entity e).keeping keep = .entity e := rfl

@[simp]
theorem Document.keeping_group (g : Group) :
    (Document.group g).keeping keep = .group (g.keeping keep) := rfl

@[simp]
theorem Document.stays_entity (e : Entity) : (Document.entity e).stays keep = keep e := rfl

@[simp]
theorem Document.stays_group (g : Group) :
    (Document.group g).stays keep = !(g.keeping keep).isEmpty := rfl

/-- The parts of a document that stay when entities are dropped. -/
def Document.left (keep : Entity → Bool) (d : Document) : List Document :=
  d :: d.inside.filter (·.stays keep)

mutual

/-- Nothing is in an empty group but empty groups, of which none is left. -/
theorem Group.inside_keeping_of_isEmpty (g : Group) (empty : (g.keeping keep).isEmpty = true) :
    (g.keeping keep).inside = [] := by
  obtain ⟨name, validUntil, cacheSeconds, entities, groups, signature⟩ := g
  simp only [Group.keeping, Group.isEmpty, Bool.and_eq_true, List.isEmpty_iff] at empty
  rw [Group.keeping, Group.inside, empty.1,
    Group.insideAll_keeping_of_allEmpty groups empty.2]
  rfl

theorem Group.insideAll_keeping_of_allEmpty (groups : List Group)
    (empty : Group.allEmpty (Group.keepingAll keep groups) = true) :
    Group.insideAll (Group.keepingAll keep groups) = [] := by
  cases groups with
  | nil => rfl
  | cons g rest =>
    rw [Group.keepingAll] at empty ⊢
    split
    · rename_i first
      rw [if_pos first] at empty
      exact Group.insideAll_keeping_of_allEmpty rest empty
    · rename_i first
      rw [if_neg first, Group.allEmpty, Bool.and_eq_true] at empty
      exact absurd empty.1 first

end

mutual

/-- **What is left in a group**: the entities that are kept, as they were, and the groups that
have an entity left, in the order in which they were. -/
theorem Group.inside_keeping (g : Group) :
    (g.keeping keep).inside = (g.inside.filter (·.stays keep)).map (·.keeping keep) := by
  obtain ⟨name, validUntil, cacheSeconds, entities, groups, signature⟩ := g
  rw [Group.keeping, Group.inside, Group.inside, List.filter_append, List.map_append,
    Group.insideAll_keeping groups, List.filter_map, List.map_map]
  rfl

theorem Group.insideAll_keeping (groups : List Group) :
    Group.insideAll (Group.keepingAll keep groups)
      = ((Group.insideAll groups).filter (·.stays keep)).map (·.keeping keep) := by
  cases groups with
  | nil => rfl
  | cons g rest =>
    have first := Group.inside_keeping g
    have others := Group.insideAll_keeping rest
    rw [Group.keepingAll, Group.insideAll, List.filter_cons, List.filter_append, Document.stays]
    by_cases empty : (g.keeping keep).isEmpty = true
    -- An empty group goes with all that is in it.
    · rw [Group.inside_keeping_of_isEmpty g empty] at first
      simp [empty, others, ← first]
    · simp [empty, Group.insideAll, first, others, Document.keeping]

end

/-- What is left of a document. -/
theorem Document.parts_keeping (d : Document) :
    (d.keeping keep).parts = (d.left keep).map (·.keeping keep) := by
  cases d with
  | entity e => rfl
  | group g => rw [Document.keeping, Document.parts, Document.inside, Group.inside_keeping]; rfl

theorem filterMap_entity?_left (keep : Entity → Bool) (parts : List Document) :
    ((parts.filter (·.stays keep)).map (·.keeping keep)).filterMap Document.entity?
      = (parts.filterMap Document.entity?).filter keep := by
  induction parts with
  | nil => rfl
  | cons part rest ih =>
    cases part with
    | entity e =>
      by_cases kept : keep e = true
      · rw [List.filter_cons_of_pos (by simpa using kept), List.map_cons, Document.keeping_entity,
          List.filterMap_cons, List.filterMap_cons, Document.entity?_entity]
        simp only [List.filter_cons_of_pos kept, ih]
      · rw [List.filter_cons_of_neg (by simpa using kept), List.filterMap_cons,
          Document.entity?_entity]
        simp only [List.filter_cons_of_neg kept, ih]
    | group g =>
      have skipped : List.filterMap Document.entity? (.group g :: rest)
          = List.filterMap Document.entity? rest := rfl
      rw [skipped, ← ih, List.filter_cons]
      split <;> rfl

/-- The entities that are left are those that are kept, as they were and in order, unless the
root is an entity, which stays in any case. -/
theorem Document.members_keeping (d : Document) (root : ∀ e, d = .entity e → keep e = true) :
    (d.keeping keep).members = d.members.filter keep := by
  cases d with
  | entity e =>
    show [e] = [e].filter keep
    rw [List.filter_cons_of_pos (root e rfl), List.filter_nil]
  | group g =>
    have below := filterMap_entity?_left keep g.inside
    rw [← Group.inside_keeping] at below
    exact below

mutual

/-- A group is empty when no entity is in it, at any depth. -/
theorem Group.isEmpty_iff (g : Group) :
    g.isEmpty = true ↔ g.inside.filterMap Document.entity? = [] := by
  obtain ⟨name, validUntil, cacheSeconds, entities, groups, signature⟩ := g
  rw [Group.isEmpty, Bool.and_eq_true, List.isEmpty_iff, Group.allEmpty_iff groups, Group.inside,
    List.filterMap_append, List.append_eq_nil_iff, List.filterMap_map]
  have own : entities.filterMap (Document.entity? ∘ .entity) = entities := List.filterMap_some
  rw [own]

theorem Group.allEmpty_iff (groups : List Group) :
    Group.allEmpty groups = true ↔ (Group.insideAll groups).filterMap Document.entity? = [] := by
  cases groups with
  | nil => simp [Group.allEmpty, Group.insideAll]
  | cons g rest =>
    rw [Group.allEmpty, Bool.and_eq_true, Group.isEmpty_iff g, Group.allEmpty_iff rest,
      Group.insideAll, ← List.append_eq_nil_iff, ← List.filterMap_append]
    rfl

end

/-- A group stays when an entity in it is kept. -/
theorem Document.stays_group_iff (g : Group) :
    (Document.group g).stays keep = true ↔ ∃ e ∈ (Document.group g).members, keep e = true := by
  have below := filterMap_entity?_left keep g.inside
  rw [← Group.inside_keeping] at below
  rw [Document.stays_group, Bool.not_eq_true', ← Bool.not_eq_true, Group.isEmpty_iff, below,
    List.filter_eq_nil_iff]
  simp only [Classical.not_forall, Classical.not_not]
  exact ⟨fun ⟨e, listed, kept⟩ => ⟨e, listed, kept⟩, fun ⟨e, listed, kept⟩ => ⟨e, listed, kept⟩⟩

end Metadata

/-! ## Signatures -/

/-- A part of a document is not signed, or signed right. -/
def TrustEngine.admits (engine : TrustEngine) (part : Document) : Bool :=
  match part.signature with
  | none => true
  | some signature => engine.accepts part.signingInput signature

namespace Filter

variable {engine : TrustEngine}

/-- An entity that is not signed, or signed right. -/
def admitsEntity (engine : TrustEngine) (e : Entity) : Bool := engine.admits (.entity e)

theorem keepUnlessWronglySigned_eq (e : Entity) :
    keepUnlessWronglySigned engine e = .ok (if admitsEntity engine e then some e else none) := by
  cases signed : e.signature with
  | none =>
    simp [keepUnlessWronglySigned, admitsEntity, TrustEngine.admits, Document.signature, signed]
  | some signature =>
    cases accepted : engine.accepts e.signingInput signature <;>
      simp [keepUnlessWronglySigned, admitsEntity, TrustEngine.admits, Document.signature,
        Document.signingInput, signed, accepted]

theorem mapList_keepUnlessWronglySigned (entities : List Entity) :
    mapList (keepUnlessWronglySigned engine) entities
      = .ok (entities.filter (admitsEntity engine)) := by
  induction entities with
  | nil => rfl
  | cons e rest ih =>
    rw [mapList, keepUnlessWronglySigned_eq, ih]
    cases admitted : admitsEntity engine e <;> simp [admitted]

mutual

/-- Checking the entities of a group drops those with a wrong signature. -/
theorem mapGroup_keepUnlessWronglySigned (g : Group) :
    mapGroup (keepUnlessWronglySigned engine) g = .ok (g.keeping (admitsEntity engine)) := by
  obtain ⟨name, validUntil, cacheSeconds, entities, groups, signature⟩ := g
  rw [mapGroup, mapList_keepUnlessWronglySigned, mapGroups_keepUnlessWronglySigned groups]
  rfl

theorem mapGroups_keepUnlessWronglySigned (groups : List Group) :
    mapGroups (keepUnlessWronglySigned engine) groups
      = .ok (Group.keepingAll (admitsEntity engine) groups) := by
  cases groups with
  | nil => rfl
  | cons g rest =>
    rw [mapGroups, mapGroup_keepUnlessWronglySigned g, mapGroups_keepUnlessWronglySigned rest]
    rfl

end

/-- A root is rejected that is not signed and should be, or that is signed wrong. -/
def RejectsRoot (engine : TrustEngine) (rootRequired : Bool) (document : Document) : Prop :=
  (document.signature = none ∧ rootRequired = true) ∨
    ∃ signature, document.signature = some signature ∧
      engine.accepts document.signingInput signature = false

/-- The check of signatures fails for a root that is rejected, and otherwise drops entities
with a wrong signature. -/
theorem run_signature (engine : TrustEngine) (rootRequired : Bool) (context : Context)
    (document : Document) :
    match (MetadataFilter.signature engine rootRequired).run context document with
    | .error _ => RejectsRoot engine rootRequired document
    | .ok kept =>
      ¬ RejectsRoot engine rootRequired document ∧
        kept = some (document.keeping (admitsEntity engine)) := by
  -- Without a signature at the root all depends on whether one is required.
  have unsigned (absent : document.signature = none) :
      (MetadataFilter.signature engine rootRequired).run context document =
        if rootRequired then
          .error (.filterFailed "SignatureValidation" "metadata root is not signed")
        else .ok (some (document.keeping (admitsEntity engine))) := by
    cases document with
    | entity e =>
      simp only [MetadataFilter.run, checkSignatures, absent]
      rfl
    | group g =>
      simp only [MetadataFilter.run, checkSignatures, absent, mapDocument,
        mapGroup_keepUnlessWronglySigned]
      rfl
  -- With one the trust engine decides, whether it is required or not.
  have rootSigned (signature : Signature) (present : document.signature = some signature) :
      (MetadataFilter.signature engine rootRequired).run context document =
        if engine.accepts document.signingInput signature then
          .ok (some (document.keeping (admitsEntity engine)))
        else .error (.filterFailed "SignatureValidation"
          ("root signature by key '" ++ signature.keyName ++ "' did not verify")) := by
    cases document with
    | entity e =>
      simp only [MetadataFilter.run, checkSignatures, present]
      rfl
    | group g =>
      simp only [MetadataFilter.run, checkSignatures, present, mapDocument,
        mapGroup_keepUnlessWronglySigned]
      rfl
  cases signed : document.signature with
  | none =>
    rw [unsigned signed]
    cases rootRequired with
    | true => exact .inl ⟨signed, rfl⟩
    | false =>
      refine ⟨?_, rfl⟩
      rintro (⟨-, required⟩ | ⟨signature, present, -⟩)
      · cases required
      · cases signed.symm.trans present
  | some signature =>
    rw [rootSigned signature signed]
    cases accepted : engine.accepts document.signingInput signature with
    | true =>
      refine ⟨?_, rfl⟩
      rintro (⟨absent, -⟩ | ⟨other, present, rejected⟩)
      · cases signed.symm.trans absent
      · obtain rfl := Option.some_inj.1 (signed.symm.trans present)
        cases accepted.symm.trans rejected
    | false => exact .inr ⟨signature, signed, accepted⟩

/-! ### What is promised -/

mutual

/-- The entities of a group that are not signed wrong and lie in no group in it that is. -/
def vettedOf (engine : TrustEngine) : Group → List Entity
  | ⟨_, _, _, entities, groups, _⟩ =>
    entities.filter (admitsEntity engine) ++ vettedOfAll engine groups

/-- The same for the groups of a list, without those that are signed wrong. -/
def vettedOfAll (engine : TrustEngine) : List Group → List Entity
  | [] => []
  | g :: rest =>
    (if engine.admits (.group g) then vettedOf engine g else []) ++ vettedOfAll engine rest

end

/-- The entities of a document that are not signed wrong and lie in no group below the root
that is. -/
def vetted (engine : TrustEngine) : Document → List Entity
  | .entity e => [e].filter (admitsEntity engine)
  | .group g => vettedOf engine g

mutual

theorem vettedOf_sublist (g : Group) :
    (vettedOf engine g).Sublist
      ((g.inside.filterMap Document.entity?).filter (admitsEntity engine)) := by
  obtain ⟨name, validUntil, cacheSeconds, entities, groups, signature⟩ := g
  rw [vettedOf, Group.inside, List.filterMap_append, List.filter_append, List.filterMap_map]
  have own : entities.filterMap (Document.entity? ∘ .entity) = entities := List.filterMap_some
  rw [own]
  exact (List.Sublist.refl _).append (vettedOfAll_sublist groups)

theorem vettedOfAll_sublist (groups : List Group) :
    (vettedOfAll engine groups).Sublist
      (((Group.insideAll groups).filterMap Document.entity?).filter (admitsEntity engine)) := by
  cases groups with
  | nil => exact .slnil
  | cons g rest =>
    have below : (Group.insideAll (g :: rest)).filterMap Document.entity?
        = g.inside.filterMap Document.entity?
          ++ (Group.insideAll rest).filterMap Document.entity? := by
      rw [Group.insideAll, ← List.filterMap_append]
      rfl
    rw [vettedOfAll, below, List.filter_append]
    refine List.Sublist.append ?_ (vettedOfAll_sublist rest)
    split
    · exact vettedOf_sublist g
    · exact List.nil_sublist _

end

/-- No entity is lost that is not signed wrong and lies in no group that is. -/
theorem vetted_sublist (document : Document) :
    (vetted engine document).Sublist (document.members.filter (admitsEntity engine)) := by
  cases document with
  | entity e => exact .refl _
  | group g => exact vettedOf_sublist g

/-- What is promised of a document that was let through: no part that stayed is signed wrong,
and no entity is lost that is not signed wrong and lies in no group that is. -/
structure Vets (engine : TrustEngine) (document kept : Document) : Prop where
  accepted : ∀ part ∈ document.left (admitsEntity engine), ∀ signature,
    part.signature = some signature → engine.accepts part.signingInput signature = true
  complete : (vetted engine document).Sublist kept.members

theorem admits_iff {part : Document} :
    engine.admits part = true ↔ ∀ signature, part.signature = some signature →
      engine.accepts part.signingInput signature = true := by
  rw [TrustEngine.admits]
  cases part.signature <;> simp

/-- A root that is not rejected is not signed wrong. -/
theorem admits_of_not_rejectsRoot {rootRequired : Bool} {document : Document}
    (passed : ¬ RejectsRoot engine rootRequired document) : engine.admits document = true := by
  refine admits_iff.2 fun signature signed => ?_
  rw [← Bool.not_eq_false]
  exact fun rejected => passed (.inr ⟨signature, signed, rejected⟩)

/-- **What the check of signatures does to any document, and when it keeps its promise.** It
fails for a root that is not signed and should be, or that is signed wrong, and for no other.
Otherwise the parts are left that have an entity left, at any depth and in order, and just the
entities are left, unchanged and in order, that are not signed wrong. So no entity is lost that
should stay. No part that stayed is signed wrong if and only if every group below the root is
unsigned or signed right in which there is an entity that is not signed wrong. -/
theorem checked_signatures (engine : TrustEngine) (rootRequired : Bool) (context : Context)
    (document : Document) :
    match (MetadataFilter.signature engine rootRequired).run context document with
    | .error _ => RejectsRoot engine rootRequired document
    | .ok none => False
    | .ok (some kept) =>
      ¬ RejectsRoot engine rootRequired document ∧
        kept.parts = (document.left (admitsEntity engine)).map (·.keeping (admitsEntity engine)) ∧
        kept.members = document.members.filter (admitsEntity engine) ∧
        (Vets engine document kept ↔ ∀ g, .group g ∈ document.inside →
          (∃ e ∈ (Document.group g).members, admitsEntity engine e = true) →
            engine.admits (.group g) = true) := by
  have ran := run_signature engine rootRequired context document
  split at ran
  · rename_i failed
    rw [failed]
    exact ran
  · rename_i checked
    obtain ⟨passed, rfl⟩ := ran
    rw [checked]
    have root : engine.admits document = true := admits_of_not_rejectsRoot passed
    have members : (document.keeping (admitsEntity engine)).members
        = document.members.filter (admitsEntity engine) := document.members_keeping fun e same => by
      rw [admitsEntity, ← same]
      exact root
    refine ⟨passed, document.parts_keeping, members, ?_, ?_⟩
    · intro vets g inside inhabited
      refine admits_iff.2 (vets.accepted _ (List.mem_cons_of_mem _ ?_))
      exact List.mem_filter.2 ⟨inside, (Document.stays_group_iff g).2 inhabited⟩
    · intro groups
      refine ⟨fun part listed => admits_iff.1 ?_, members ▸ vetted_sublist document⟩
      rcases List.mem_cons.1 listed with rfl | below
      · exact root
      · obtain ⟨inside, stays⟩ := List.mem_filter.1 below
        -- An entity stays that is not signed wrong; a group, if one is in it.
        cases part with
        | entity e => exact stays
        | group g => exact groups g inside ((Document.stays_group_iff g).1 stays)

/-- A group whose signature is by nobody, with one entity. -/
def forged : Group :=
  { Group.ofEntities [.ofId "https://idp.example.org"] with
    signature := some ⟨"nobody", "ES256K", "00"⟩ }

/-- A group below the root is let through with its entity though no key is trusted. -/
theorem wrongly_signed_group_passes :
    let engine := KeyRing.empty.engine
    let document : Document := .group { Group.ofEntities [] with groups := [forged] }
    (match (MetadataFilter.signature engine false).run ⟨⟨0, 0⟩, "r"⟩ document with
      | .ok (some kept) => kept.parts = document.parts
      | _ => False) ∧
      Document.group forged ∈ document.inside ∧
      forged.signature = some ⟨"nobody", "ES256K", "00"⟩ ∧
      engine.accepts forged.signingInput ⟨"nobody", "ES256K", "00"⟩ = false :=
  ⟨rfl, List.mem_cons_self, rfl, rfl⟩

end Filter

end Federation
