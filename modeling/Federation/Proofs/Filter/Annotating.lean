/-
# Filters that only add

Two filters add to what a document says of its entities: one the algorithms, the other the formats of
name identifiers that certain entities are known to support. A rule says which entities it is about
by their IDs, their attributes or their registrar, and neither filter changes any of these. So the
rules about an entity are the same at any time, and what all of them add in turn is what is missing
of the values that they name. Adding it once more adds nothing, and since the two filters write in
different places, their order does not matter.

## Main definitions

- `Document.revised`: a document of which every entity was changed, and nothing else.
- `Filter.Supplements`: values were added to a list, and none was lost.
- `Filter.IsAdvertised`, `Filter.IsFormatted`: all that may have changed about an entity.

## Main results

- `Filter.foldl_annotate_algorithms`, `Filter.foldl_annotate_formats`: what rules add in turn.
- `Filter.mapDocument_revised`: what a filter does that drops no entity.
- `Filter.annotations_only_add`: both filters, once, twice and in either order.
-/

import Federation.Proofs.Filter.Pruning

namespace Federation

open Federation.Metadata

namespace Metadata

/-! ## Changing every entity where it stands -/

mutual

/-- A group in which every entity was changed. -/
def Group.revised (change : Entity → Entity) : Group → Group
  | ⟨name, validUntil, cacheSeconds, entities, groups, signature⟩ =>
    ⟨name, validUntil, cacheSeconds, entities.map change, Group.revisedAll change groups, signature⟩

/-- Groups in which every entity was changed. -/
def Group.revisedAll (change : Entity → Entity) : List Group → List Group
  | [] => []
  | g :: rest => g.revised change :: Group.revisedAll change rest

end

/-- A document in which every entity was changed. -/
def Document.revised (change : Entity → Entity) : Document → Document
  | .entity e => .entity (change e)
  | .group g => .group (g.revised change)

variable (first second : Entity → Entity)

mutual

theorem Group.isEmpty_revised (g : Group) : (g.revised first).isEmpty = g.isEmpty := by
  obtain ⟨name, validUntil, cacheSeconds, entities, groups, signature⟩ := g
  rw [Group.revised, Group.isEmpty, Group.isEmpty, Group.allEmpty_revisedAll groups, List.isEmpty_map]

theorem Group.allEmpty_revisedAll (groups : List Group) :
    Group.allEmpty (Group.revisedAll first groups) = Group.allEmpty groups := by
  cases groups with
  | nil => rfl
  | cons g rest =>
    rw [Group.revisedAll, Group.allEmpty, Group.allEmpty, Group.isEmpty_revised g,
      Group.allEmpty_revisedAll rest]

end

mutual

theorem Group.inside_revised (g : Group) :
    (g.revised first).inside = g.inside.map (·.revised first) := by
  obtain ⟨name, validUntil, cacheSeconds, entities, groups, signature⟩ := g
  rw [Group.revised, Group.inside, Group.inside, List.map_append, List.map_map, List.map_map,
    Group.insideAll_revised groups]
  rfl

theorem Group.insideAll_revised (groups : List Group) :
    Group.insideAll (Group.revisedAll first groups)
      = (Group.insideAll groups).map (·.revised first) := by
  cases groups with
  | nil => rfl
  | cons g rest =>
    rw [Group.revisedAll, Group.insideAll, Group.insideAll, List.map_cons, List.map_append,
      Group.inside_revised g, Group.insideAll_revised rest]
    rfl

end

mutual

/-- Two changes in turn are one. -/
theorem Group.revised_revised (g : Group) :
    (g.revised first).revised second = g.revised (second ∘ first) := by
  obtain ⟨name, validUntil, cacheSeconds, entities, groups, signature⟩ := g
  rw [Group.revised, Group.revised, Group.revised, List.map_map,
    Group.revisedAll_revisedAll groups]

theorem Group.revisedAll_revisedAll (groups : List Group) :
    Group.revisedAll second (Group.revisedAll first groups)
      = Group.revisedAll (second ∘ first) groups := by
  cases groups with
  | nil => rfl
  | cons g rest =>
    rw [Group.revisedAll, Group.revisedAll, Group.revisedAll, Group.revised_revised g,
      Group.revisedAll_revisedAll rest]

end

theorem Document.revised_revised (d : Document) :
    (d.revised first).revised second = d.revised (second ∘ first) := by
  cases d with
  | entity e => rfl
  | group g => exact congrArg Document.group (Group.revised_revised first second g)

/-- No group below the root is empty. -/
def Document.IsFull (d : Document) : Prop := ∀ g, .group g ∈ d.inside → g.isEmpty = false

theorem Document.IsFull.revised {d : Document} (full : d.IsFull) : (d.revised first).IsFull := by
  intro g inside
  cases d with
  | entity e => cases inside
  | group root =>
    have inside : .group g ∈ (root.revised first).inside := inside
    rw [Group.inside_revised] at inside
    obtain ⟨part, among, same⟩ := List.mem_map.1 inside
    cases part with
    | entity e => cases same
    | group before =>
      obtain rfl := Document.group.inj same
      rw [Group.isEmpty_revised]
      exact full before among

end Metadata

namespace Filter

variable {change : Entity → Entity} {document : Document} {target values more : List String}
  {v : String} {e : Entity}

mutual

theorem mapGroup_revised (g : Group) (full : ∀ h, .group h ∈ g.inside → h.isEmpty = false) :
    mapGroup (fun e => .ok (some (change e))) g = .ok (g.revised change) := by
  obtain ⟨name, validUntil, cacheSeconds, entities, groups, signature⟩ := g
  have below := mapGroups_revised groups fun h inside => full h (List.mem_append_right _ inside)
  have own := mapList_filterMap (some ∘ change) entities
  rw [List.filterMap_eq_map] at own
  exact mapGroup_eq_ok.2 ⟨_, _, own, below, rfl⟩

theorem mapGroups_revised (groups : List Group)
    (full : ∀ h, .group h ∈ Group.insideAll groups → h.isEmpty = false) :
    mapGroups (fun e => .ok (some (change e))) groups = .ok (Group.revisedAll change groups) := by
  cases groups with
  | nil => rfl
  | cons g rest =>
    have inFirst := mapGroup_revised g fun h inside =>
      full h (List.mem_cons_of_mem _ (List.mem_append_left _ inside))
    have inRest := mapGroups_revised rest fun h inside =>
      full h (List.mem_cons_of_mem _ (List.mem_append_right _ inside))
    have stays : (g.revised change).isEmpty = false := by
      rw [Group.isEmpty_revised]
      exact full g List.mem_cons_self
    refine mapGroups_cons_eq_ok.2 ⟨_, _, inFirst, inRest, ?_⟩
    rw [stays]
    rfl

end

/-- Work that drops no entity leaves a document in which no group is empty as it is, save for what
it does to the entities. -/
theorem mapDocument_revised (full : document.IsFull) :
    mapDocument (fun e => .ok (some (change e))) document
      = .ok (some (document.revised change)) := by
  cases document with
  | entity e => rfl
  | group g =>
    rw [mapDocument, mapGroup_revised g full]
    rfl

/-! ## Values that are added -/

theorem mem_addMissing : v ∈ addMissing target values ↔ v ∈ target ∨ v ∈ values := by
  induction values generalizing target with
  | nil => simp [addMissing]
  | cons w rest ih =>
    rw [addMissing, ih, List.mem_cons]
    split
    · rename_i known
      have known : w ∈ target := by simpa using known
      constructor
      · exact Or.imp_right .inr
      · rintro (there | rfl | listed)
        · exact .inl there
        · exact .inl known
        · exact .inr listed
    · rw [List.mem_append, List.mem_singleton, or_assoc]

theorem addMissing_append (target values more : List String) :
    addMissing target (values ++ more) = addMissing (addMissing target values) more := by
  induction values generalizing target with
  | nil => rfl
  | cons w rest ih => exact ih _

/-- There is nothing to add where nothing is missing. -/
theorem addMissing_of_subset (known : values ⊆ target) : addMissing target values = target := by
  induction values with
  | nil => rfl
  | cons w rest ih =>
    obtain ⟨there, others⟩ := List.cons_subset.1 known
    rw [addMissing, if_pos (by simpa using there)]
    exact ih others

/-- What was added is not missing any longer. -/
theorem addMissing_addMissing (target values : List String) :
    addMissing (addMissing target values) values = addMissing target values :=
  addMissing_of_subset fun _ listed => mem_addMissing.2 (.inr listed)

/-- A list has got the values that it should have. What it had stands first, in order, and of the
wanted values those follow, once each, that it did not have. -/
structure Supplements (wanted : String → Prop) (before after : List String) : Prop where
  only_added : ∃ added, after = before ++ added ∧ added.Nodup ∧
    ∀ v ∈ added, v ∉ before ∧ wanted v
  complete : ∀ v, wanted v → v ∈ after

theorem exists_addMissing (target values : List String) :
    ∃ added, addMissing target values = target ++ added ∧ added.Nodup ∧
      ∀ v ∈ added, v ∉ target ∧ v ∈ values := by
  induction values generalizing target with
  | nil => exact ⟨[], (List.append_nil target).symm, .nil, fun _ => nofun⟩
  | cons w rest ih =>
    rw [addMissing]
    split
    · obtain ⟨added, same, distinct, new⟩ := ih target
      exact ⟨added, same, distinct, fun v listed =>
        (new v listed).imp_right (List.mem_cons_of_mem w)⟩
    · rename_i missing
      have missing : w ∉ target := by simpa using missing
      obtain ⟨added, same, distinct, new⟩ := ih (target ++ [w])
      -- What is added later is not in the list to which `w` was added before.
      have once : w ∉ added := fun listed => (new w listed).1 (by simp)
      refine ⟨w :: added, by rw [same, List.append_assoc, List.singleton_append],
        List.nodup_cons.2 ⟨once, distinct⟩, ?_⟩
      rintro v listed
      rcases List.mem_cons.1 listed with rfl | listed
      · exact ⟨missing, List.mem_cons_self⟩
      · obtain ⟨absent, wanted⟩ := new v listed
        exact ⟨fun there => absent (List.mem_append_left _ there), List.mem_cons_of_mem w wanted⟩

theorem supplements_addMissing {wanted : String → Prop} (named : ∀ v, v ∈ values ↔ wanted v)
    (target : List String) : Supplements wanted target (addMissing target values) where
  only_added := by
    obtain ⟨added, same, distinct, new⟩ := exists_addMissing target values
    exact ⟨added, same, distinct, fun v listed => (new v listed).imp_right (named v).1⟩
  complete v wanted := mem_addMissing.2 (.inr ((named v).2 wanted))

/-! ## The values that rules name -/

/-- Whether a rule is about an entity does not depend on the algorithms that it supports. -/
theorem Target.includes_extensions (target : Target) (e : Entity) (extensions : Extensions) :
    target.includes { e with extensions } = target.includes e := by
  cases target <;> rfl

/-- Nor does it depend on its roles. -/
theorem Target.includes_roles (target : Target) (e : Entity) (roles : List RoleDescriptor) :
    target.includes { e with roles } = target.includes e := by
  cases target <;> rfl

section Rules

variable {ρ : Type} (target : ρ → Target) (named : ρ → List String) (rule : ρ) (rules : List ρ)

/-- A value is named by a rule about an entity. -/
def IsWanted (e : Entity) (v : String) : Prop :=
  ∃ rule ∈ rules, (target rule).includes e = true ∧ v ∈ named rule

/-- All values that the rules about an entity name. -/
def valuesFor (e : Entity) : List String :=
  (rules.filter fun rule => (target rule).includes e).flatMap named

theorem mem_valuesFor (e : Entity) (v : String) :
    v ∈ valuesFor target named rules e ↔ IsWanted target named rules e v := by
  simp only [valuesFor, IsWanted, List.mem_flatMap, List.mem_filter, and_assoc]

theorem valuesFor_cons (e : Entity) :
    valuesFor target named (rule :: rules) e
      = (if (target rule).includes e then named rule else []) ++ valuesFor target named rules e := by
  rw [valuesFor, List.filter_cons]
  split <;> rfl

theorem valuesFor_extensions (e : Entity) (extensions : Extensions) :
    valuesFor target named rules { e with extensions } = valuesFor target named rules e := by
  simp only [valuesFor, Target.includes_extensions]

theorem valuesFor_roles (e : Entity) (roles : List RoleDescriptor) :
    valuesFor target named rules { e with roles } = valuesFor target named rules e := by
  simp only [valuesFor, Target.includes_roles]

end Rules

/-! ## Algorithms -/

/-- Rules add, one after the other, what is missing of all that they name. -/
theorem foldl_annotate_algorithms (rules : List AlgorithmRule) (e : Entity) :
    rules.foldl AlgorithmRule.annotate e
      = { e with
          extensions :=
            ⟨addMissing e.extensions.digestMethods
                (valuesFor (·.target) (·.digestMethods) rules e),
              addMissing e.extensions.signingMethods
                (valuesFor (·.target) (·.signingMethods) rules e)⟩ } := by
  -- The later rules meet the entity as the first one left it, but are about it just as before.
  induction rules generalizing e with
  | nil => rfl
  | cons rule rest ih =>
    rw [List.foldl_cons, ih, AlgorithmRule.annotate, valuesFor_cons, valuesFor_cons,
      addMissing_append, addMissing_append]
    split
    · simp only [valuesFor_extensions]
    · rfl

/-- All that may have changed about an entity to which algorithms were added. -/
structure IsAdvertised (rules : List AlgorithmRule) (e e' : Entity) : Prop where
  digest : Supplements (IsWanted (·.target) (·.digestMethods) rules e)
    e.extensions.digestMethods e'.extensions.digestMethods
  signing : Supplements (IsWanted (·.target) (·.signingMethods) rules e)
    e.extensions.signingMethods e'.extensions.signingMethods
  unchanged : e' = { e with extensions := e'.extensions }

theorem isAdvertised_foldl (rules : List AlgorithmRule) (e : Entity) :
    IsAdvertised rules e (rules.foldl AlgorithmRule.annotate e) := by
  rw [foldl_annotate_algorithms]
  exact ⟨supplements_addMissing (mem_valuesFor _ _ rules e) _,
    supplements_addMissing (mem_valuesFor _ _ rules e) _, rfl⟩

/-- Algorithms are not added a second time. -/
theorem annotate_algorithms_twice (rules : List AlgorithmRule) :
    rules.foldl AlgorithmRule.annotate ∘ rules.foldl AlgorithmRule.annotate
      = rules.foldl AlgorithmRule.annotate := by
  funext e
  rw [Function.comp_apply, foldl_annotate_algorithms rules (rules.foldl _ e),
    foldl_annotate_algorithms rules e]
  simp only [valuesFor_extensions, addMissing_addMissing]

/-! ## Formats of name identifiers -/

/-- A role to which formats were added, if users sign on in it. -/
def offering (formats : List String) (r : RoleDescriptor) : RoleDescriptor :=
  if isSignOn r.role then { r with nameIdFormats := addMissing r.nameIdFormats formats } else r

theorem offering_nil : offering [] = id := by
  funext r
  rw [offering]
  split <;> rfl

theorem offering_append (formats more : List String) :
    offering (formats ++ more) = offering more ∘ offering formats := by
  funext r
  simp only [offering, Function.comp_apply, addMissing_append]
  split <;> simp_all

theorem offering_twice (formats : List String) :
    offering formats ∘ offering formats = offering formats := by
  funext r
  simp only [offering, Function.comp_apply]
  split <;> simp_all [addMissing_addMissing]

/-- Rules add, one after the other, what is missing of all that they name. -/
theorem foldl_annotate_formats (rules : List NameIdRule) (e : Entity) :
    rules.foldl NameIdRule.annotate e
      = { e with
          roles := e.roles.map (offering (valuesFor (·.target) (·.formats) rules e)) } := by
  induction rules generalizing e with
  | nil =>
    show e = { e with roles := e.roles.map (offering []) }
    rw [offering_nil, List.map_id]
  | cons rule rest ih =>
    rw [List.foldl_cons, ih, NameIdRule.annotate, valuesFor_cons, offering_append,
      ← List.map_map]
    split
    · rw [valuesFor_roles]
      rfl
    · rw [offering_nil, List.map_id]

/-- All that may have changed about a role. Formats are added where users sign on, with an identity
provider or at a service provider. -/
structure IsFormattedRole (wanted : String → Prop) (r r' : RoleDescriptor) : Prop where
  signOn : r.role = .identityProvider ∨ r.role = .serviceProvider →
    Supplements wanted r.nameIdFormats r'.nameIdFormats ∧
      r' = { r with nameIdFormats := r'.nameIdFormats }
  other : ¬ (r.role = .identityProvider ∨ r.role = .serviceProvider) → r' = r

/-- All that may have changed about an entity to which formats were added. -/
structure IsFormatted (rules : List NameIdRule) (e e' : Entity) : Prop where
  roles : List.Forall₂
    (IsFormattedRole (IsWanted (·.target) (·.formats) rules e)) e.roles e'.roles
  unchanged : e' = { e with roles := e'.roles }

theorem isSignOn_iff {role : Role} :
    isSignOn role = true ↔ role = .identityProvider ∨ role = .serviceProvider := by
  cases role <;> simp [isSignOn]

theorem isFormatted_offering {wanted : String → Prop} (named : ∀ v, v ∈ values ↔ wanted v)
    (r : RoleDescriptor) : IsFormattedRole wanted r (offering values r) where
  signOn signsOn := by
    rw [offering, if_pos (isSignOn_iff.2 signsOn)]
    exact ⟨supplements_addMissing named _, rfl⟩
  other elsewhere := by
    rw [offering, if_neg fun signsOn => elsewhere (isSignOn_iff.1 signsOn)]

theorem isFormatted_foldl (rules : List NameIdRule) (e : Entity) :
    IsFormatted rules e (rules.foldl NameIdRule.annotate e) := by
  rw [foldl_annotate_formats]
  refine ⟨?_, rfl⟩
  rw [List.forall₂_map_right_iff, List.forall₂_same]
  exact fun r _ => isFormatted_offering (mem_valuesFor _ _ rules e) r

/-- Formats are not added a second time. -/
theorem annotate_formats_twice (rules : List NameIdRule) :
    rules.foldl NameIdRule.annotate ∘ rules.foldl NameIdRule.annotate
      = rules.foldl NameIdRule.annotate := by
  funext e
  rw [Function.comp_apply, foldl_annotate_formats rules (rules.foldl _ e),
    foldl_annotate_formats rules e]
  simp only [valuesFor_roles, List.map_map, offering_twice]

/-- It does not matter whether algorithms or formats are added first. -/
theorem annotate_comm (rules : List AlgorithmRule) (rules' : List NameIdRule) :
    rules.foldl AlgorithmRule.annotate ∘ rules'.foldl NameIdRule.annotate
      = rules'.foldl NameIdRule.annotate ∘ rules.foldl AlgorithmRule.annotate := by
  funext e
  simp only [Function.comp_apply, foldl_annotate_algorithms, foldl_annotate_formats,
    valuesFor_roles, valuesFor_extensions]

/-! ## Both filters -/

/-- **Annotations only add.** Neither filter fails or drops an entity of a document in which no group
below the root is empty. What it changes are the lists of algorithms, or the lists of formats in
the roles in which users sign on: they begin as they were, and then come, once each, those values
of the rules about the entity that were not in them, so that all of these are there. A second
run of the same filter changes nothing, and after a run of both the document is the same, in
whichever order they ran. -/
theorem annotations_only_add (rules : List AlgorithmRule) (rules' : List NameIdRule)
    (context : Context) (full : document.IsFull) :
    ∃ advertise format : Entity → Entity,
      (∀ e, IsAdvertised rules e (advertise e)) ∧ (∀ e, IsFormatted rules' e (format e)) ∧
      ((MetadataFilter.algorithms rules).run context document
          = .ok (some (document.revised advertise)) ∧
        (MetadataFilter.nameIdFormats rules').run context document
          = .ok (some (document.revised format))) ∧
      ((MetadataFilter.algorithms rules).run context (document.revised advertise)
          = .ok (some (document.revised advertise)) ∧
        (MetadataFilter.nameIdFormats rules').run context (document.revised format)
          = .ok (some (document.revised format))) ∧
      ∃ both,
        (MetadataFilter.nameIdFormats rules').run context (document.revised advertise)
            = .ok (some both) ∧
          (MetadataFilter.algorithms rules).run context (document.revised format)
            = .ok (some both) := by
  have advertised {d : Document} (full : d.IsFull) :
      (MetadataFilter.algorithms rules).run context d
        = .ok (some (d.revised (rules.foldl AlgorithmRule.annotate))) := mapDocument_revised full
  have formatted {d : Document} (full : d.IsFull) :
      (MetadataFilter.nameIdFormats rules').run context d
        = .ok (some (d.revised (rules'.foldl NameIdRule.annotate))) := mapDocument_revised full
  refine ⟨rules.foldl AlgorithmRule.annotate, rules'.foldl NameIdRule.annotate,
    isAdvertised_foldl rules, isFormatted_foldl rules', ⟨advertised full, formatted full⟩,
    ⟨?_, ?_⟩, _, formatted (full.revised _), ?_⟩
  · rw [advertised (full.revised _), Document.revised_revised, annotate_algorithms_twice]
  · rw [formatted (full.revised _), Document.revised_revised, annotate_formats_twice]
  · -- The two revise different members of an entity.
    rw [advertised (full.revised _), Document.revised_revised, Document.revised_revised,
      annotate_comm]

/-- Two rules about one service provider that have a value in common, of which one is named twice,
and a rule about an entity that is not there. -/
def overlapping : List AlgorithmRule :=
  [⟨.ids ["https://sp.example.org"], ["sha256", "sha512"], []⟩,
    ⟨.ids ["https://other.example.org"], ["md5"], []⟩,
    ⟨.registrar "https://federation.example.org", ["sha512", "sha384", "sha384"], ["rsa"]⟩]

/-- A rule about all entities of a category. -/
def ofCategory : List NameIdRule := [⟨.carrying "category" "research", ["persistent"]⟩]

/-- A service provider in a group in a group. It is known to support one of the values. No rule is
about the one beside the inner group. -/
def nestedProvider : Document :=
  .group ⟨none, none, none,
    [(Entity.ofId "https://plain.example.org").withRole (.speaking .serviceProvider "saml")],
    [⟨some "inner", none, none,
      [{ ((Entity.ofId "https://sp.example.org").withRole
            (.speaking .serviceProvider "saml")).withAttribute "category" "research" with
          registrar := some "https://federation.example.org"
          extensions := ⟨["sha512"], []⟩ }], [], none⟩], none⟩

/-- What is known of the one service provider comes first, and then what the rules about it add. The
other one is left as it was. -/
theorem annotations_only_add_nestedProvider :
    nestedProvider.IsFull ∧ ∃ advertised formatted both,
      ((MetadataFilter.algorithms overlapping).run ⟨⟨0, 0⟩, "r"⟩ nestedProvider
          = .ok (some advertised) ∧
        (MetadataFilter.algorithms overlapping).run ⟨⟨0, 0⟩, "r"⟩ advertised
          = .ok (some advertised)) ∧
      ((MetadataFilter.nameIdFormats ofCategory).run ⟨⟨0, 0⟩, "r"⟩ nestedProvider
          = .ok (some formatted) ∧
        (MetadataFilter.nameIdFormats ofCategory).run ⟨⟨0, 0⟩, "r"⟩ formatted
          = .ok (some formatted)) ∧
      ((MetadataFilter.nameIdFormats ofCategory).run ⟨⟨0, 0⟩, "r"⟩ advertised
          = .ok (some both) ∧
        (MetadataFilter.algorithms overlapping).run ⟨⟨0, 0⟩, "r"⟩ formatted = .ok (some both)) ∧
      (both.flatten.map fun e => (e.extensions.digestMethods, e.roles.map (·.nameIdFormats)))
        = [([], [[]]), (["sha512", "sha256", "sha384"], [["persistent"]])] := by
  have full : nestedProvider.IsFull := by
    intro g inside
    rcases List.mem_cons.1 inside with other | inside
    · cases other
    rcases List.mem_cons.1 inside with same | within
    · obtain rfl := Document.group.inj same
      rfl
    · cases List.mem_singleton.1 within
  obtain ⟨advertise, format, -, -, ⟨advertised, formatted⟩, ⟨twice, twice'⟩, both, last, last'⟩ :=
    annotations_only_add overlapping ofCategory ⟨⟨0, 0⟩, "r"⟩ full
  refine ⟨full, _, _, both, ⟨advertised, twice⟩, ⟨formatted, twice'⟩, ⟨last, last'⟩, ?_⟩
  rw [← Option.some.inj (Except.ok.inj formatted)] at last'
  rw [← Option.some.inj (Except.ok.inj last')]
  decide

end Filter

end Federation
