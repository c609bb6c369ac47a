/-
# The form of entities

Every entity must have the right form, or the document is rejected. Here the form is written down as
what is asked of an entity, and what is wrong with an entity as the first thing that it lacks. An ID
may be no longer than a bound, and what its size is was left open: the check counts the bytes of the
ID, its message and the rule it stands for count the characters. A verdict for characters is
therefore reached on all documents but those in which the first entity that lacks anything has an ID
with more bytes, but not more characters, than the bound.

## Main definitions

- `IsAbsolute`: an address with a scheme.
- `Entity.Conforms`, `Entity.Lacks`: what is asked of an entity, and the first thing it lacks.
- `Filter.Judges`: an outcome is the verdict on a document.

## Main results

- `Filter.entityFault_eq_some_iff`: what the check says of an entity.
- `Filter.mapDocument_congr`: work depends on the members of a document only.
- `Filter.form_judges_iff`: when the check reaches the verdict for characters.
-/

import Federation.Proofs.Filter.Members
import Federation.Proofs.Filter.Pruning

namespace Federation

open Federation.Metadata Federation.Filter Federation.Time

/-! ## Texts -/

namespace Text

/-- A list is cut at the first character that satisfies a test. -/
theorem cutFirst?_eq_some_iff {p : Char → Bool} {cs before after : List Char} :
    cutFirst? p cs = some (before, after) ↔
      ∃ c, cs = before ++ c :: after ∧ p c = true ∧ ∀ d ∈ before, p d = false := by
  induction cs generalizing before with
  | nil => simp [cutFirst?]
  | cons c rest ih =>
    rw [cutFirst?]
    by_cases here : p c = true
    · -- The first character is the one, and nothing comes before it.
      rw [if_pos here]
      constructor
      · intro cut
        obtain ⟨rfl, rfl⟩ := Prod.mk.inj (Option.some_inj.1 cut)
        exact ⟨c, rfl, here, fun _ => nofun⟩
      · rintro ⟨d, same, -, earlier⟩
        cases before with
        | nil => rw [(List.cons.inj same).2]
        | cons d' before =>
          obtain ⟨rfl, -⟩ := List.cons.inj same
          cases here.symm.trans (earlier _ List.mem_cons_self)
    · -- It is further back, so that this character is the first of those before it.
      rw [if_neg here, Option.map_eq_some_iff]
      constructor
      · rintro ⟨⟨front, back⟩, cut, same⟩
        obtain ⟨rfl, rfl⟩ := Prod.mk.inj same
        obtain ⟨d, rfl, found, earlier⟩ := ih.1 cut
        exact ⟨d, rfl, found, List.forall_mem_cons.2 ⟨Bool.eq_false_iff.2 here, earlier⟩⟩
      · rintro ⟨d, same, found, earlier⟩
        cases before with
        | nil =>
          obtain ⟨rfl, -⟩ := List.cons.inj same
          exact absurd found here
        | cons d' before =>
          obtain ⟨rfl, rfl⟩ := List.cons.inj same
          have later := ih.2 ⟨d, rfl, found, (List.forall_mem_cons.1 earlier).2⟩
          exact ⟨_, later, rfl⟩

/-- A text has the bytes of its characters. -/
theorem utf8ByteSize_eq (s : String) :
    s.utf8ByteSize = (s.toList.flatMap String.utf8EncodeChar).length := by
  rw [← String.size_toByteArray, ← String.utf8Encode_toList, List.utf8Encode]
  simp

/-- No character takes less than a byte. -/
theorem length_le_utf8ByteSize (s : String) : s.length ≤ s.utf8ByteSize := by
  rw [utf8ByteSize_eq, ← String.length_toList]
  induction s.toList with
  | nil => exact Nat.le_refl 0
  | cons c rest ih =>
    have some_byte : 0 < (String.utf8EncodeChar c).length := by
      rw [String.length_utf8EncodeChar]
      exact c.utf8Size_pos
    rw [List.flatMap_cons, List.length_append, List.length_cons]
    omega

theorem getLast?_append {last : String} {c : Char} (ends : last.toList.getLast? = some c)
    (s : String) : (s ++ last).toList.getLast? = some c := by
  rw [String.toList_append, List.getLast?_append, ends, Option.some_or]

end Text

/-! ## What is asked of an entity -/

/-- An address with a scheme: a letter and then letters, digits, plus signs, hyphens and dots, a
colon, and something behind it. The letters and digits are those of ASCII. -/
def IsAbsolute (s : String) : Prop :=
  ∃ first scheme rest, s.toList = first :: scheme ++ ':' :: rest ∧ first.isAlpha = true ∧
    (∀ c ∈ scheme, c.isAlphanum = true ∨ c = '+' ∨ c = '-' ∨ c = '.') ∧ rest ≠ []

namespace Metadata

/-- A binding and an absolute location. -/
def Endpoint.Conforms (endpoint : Endpoint) : Prop :=
  endpoint.binding ≠ "" ∧ IsAbsolute endpoint.location

/-- At least one protocol, and endpoints that conform. -/
def RoleDescriptor.Conforms (role : RoleDescriptor) : Prop :=
  role.protocols ≠ [] ∧ ∀ endpoint ∈ role.endpoints, endpoint.Conforms

/-- An absolute ID that is not too long, and roles that conform. -/
def Entity.Conforms (size : String → Nat) (e : Entity) : Prop :=
  size e.entityId ≤ longestEntityId ∧ IsAbsolute e.entityId ∧ ∀ role ∈ e.roles, role.Conforms

/-- The first thing that a role of an entity lacks. -/
inductive RoleDescriptor.Lacks (entityId : String) (role : RoleDescriptor) : String → Prop where
  | protocols (missing : role.protocols = []) :
    Lacks entityId role
      (role.role.text ++ " role of " ++ entityId ++ " has no protocolSupportEnumeration")
  | endpoint (stated : role.protocols ≠ []) (before : List Endpoint) (endpoint : Endpoint)
    (after : List Endpoint) (split : role.endpoints = before ++ endpoint :: after)
    (earlier : ∀ other ∈ before, other.Conforms) (fails : ¬ endpoint.Conforms) :
    Lacks entityId role
      (endpoint.kind ++ " endpoint of " ++ entityId ++ " needs a binding and an absolute location")

/-- The first thing that an entity lacks. -/
inductive Entity.Lacks (size : String → Nat) (e : Entity) : String → Prop where
  | name (unnamed : e.entityId = "") : Lacks size e "entityID is empty"
  | shortness (named : e.entityId ≠ "") (long : longestEntityId < size e.entityId) :
    Lacks size e "entityID longer than 1024 characters"
  | scheme (named : e.entityId ≠ "") (short : size e.entityId ≤ longestEntityId)
    (relative : ¬ IsAbsolute e.entityId) :
    Lacks size e ("entityID '" ++ e.entityId ++ "' is not an absolute URI")
  | role (named : e.entityId ≠ "") (short : size e.entityId ≤ longestEntityId)
    (absolute : IsAbsolute e.entityId) (before : List RoleDescriptor) (role : RoleDescriptor)
    (after : List RoleDescriptor) (split : e.roles = before ++ role :: after)
    (earlier : ∀ other ∈ before, other.Conforms) {reason : String}
    (lacks : role.Lacks e.entityId reason) : Lacks size e reason

end Metadata

namespace Filter

variable {size size' : String → Nat} {s entityId reason : String} {endpoint : Endpoint}
  {role : RoleDescriptor} {d e : Entity} {entities : List Entity} {f g : EntityMap}
  {document : Document}

/-! ## What the check says of an entity -/

theorem isAbsoluteUri_iff : isAbsoluteUri s = true ↔ IsAbsolute s := by
  have scheme_char (c : Char) :
      (c.isAlphanum || c == '+' || c == '-' || c == '.') = true ↔
        c.isAlphanum = true ∨ c = '+' ∨ c = '-' ∨ c = '.' := by
    simp only [Bool.or_eq_true, beq_iff_eq, or_assoc]
  rw [isAbsoluteUri]
  constructor
  · intro passes
    cases cut : Text.cutFirst? (· == ':') s.toList with
    | none =>
      rw [cut] at passes
      cases passes
    | some parts =>
      obtain ⟨scheme, rest⟩ := parts
      obtain ⟨colon, split, is, -⟩ := Text.cutFirst?_eq_some_iff.1 cut
      obtain rfl := eq_of_beq is
      rw [cut] at passes
      cases scheme with
      | nil => simp at passes
      | cons first scheme =>
        simp only [Bool.and_eq_true, Bool.not_eq_true', List.all_eq_true, scheme_char,
          List.isEmpty_eq_false_iff] at passes
        exact ⟨first, scheme, rest, split, passes.2.1, passes.2.2, passes.1⟩
  · rintro ⟨first, scheme, rest, split, letter, others, more⟩
    -- No character of a scheme is a colon, so the text is cut behind the scheme.
    have cut : Text.cutFirst? (· == ':') s.toList = some (first :: scheme, rest) := by
      refine Text.cutFirst?_eq_some_iff.2 ⟨':', split, rfl, List.forall_mem_cons.2 ⟨?_, ?_⟩⟩
      · rw [beq_eq_false_iff_ne]
        rintro rfl
        exact absurd letter (by decide)
      · intro c listed
        rw [beq_eq_false_iff_ne]
        rintro rfl
        exact absurd (others ':' listed) (by decide)
    rw [cut]
    simp only [Bool.and_eq_true, Bool.not_eq_true', List.all_eq_true, scheme_char,
      List.isEmpty_eq_false_iff]
    exact ⟨more, letter, others⟩

theorem endpointFails_eq_false_iff : endpointFails endpoint = false ↔ endpoint.Conforms := by
  rw [endpointFails, Bool.or_eq_false_iff, Bool.not_eq_false', isAbsoluteUri_iff,
    Endpoint.Conforms, ← Bool.not_eq_true, String.isEmpty_iff]

theorem endpointFails_iff : endpointFails endpoint = true ↔ ¬ endpoint.Conforms := by
  rw [← endpointFails_eq_false_iff, Bool.not_eq_false]

theorem roleFault_eq_some_iff :
    roleFault entityId role = some reason ↔ role.Lacks entityId reason := by
  rw [roleFault]
  by_cases missing : role.protocols = []
  · rw [if_pos (List.isEmpty_iff.2 missing), Option.some_inj]
    constructor
    · rintro rfl
      exact .protocols missing
    · intro lacks
      cases lacks with
      | protocols _ => rfl
      | endpoint stated => exact absurd missing stated
  · rw [if_neg (mt List.isEmpty_iff.1 missing), Option.map_eq_some_iff]
    simp only [List.find?_eq_some_iff_append, Bool.not_eq_true', endpointFails_iff,
      endpointFails_eq_false_iff]
    constructor
    · rintro ⟨endpoint, ⟨fails, before, after, split, earlier⟩, rfl⟩
      exact .endpoint missing before endpoint after split earlier fails
    · intro lacks
      cases lacks with
      | protocols unstated => exact absurd unstated missing
      | endpoint _ before endpoint after split earlier fails =>
        exact ⟨endpoint, ⟨fails, before, after, split, earlier⟩, rfl⟩

theorem roleFault_eq_none_iff : roleFault entityId role = none ↔ role.Conforms := by
  rw [roleFault, RoleDescriptor.Conforms]
  by_cases missing : role.protocols = []
  · simp [missing]
  · rw [if_neg (mt List.isEmpty_iff.1 missing), Option.map_eq_none_iff, List.find?_eq_none]
    simp only [endpointFails_iff, not_not]
    exact (and_iff_right missing).symm

/-- The check tells of the first thing that an entity lacks, if IDs are measured in bytes. -/
theorem entityFault_eq_some_iff :
    entityFault e = some reason ↔ e.Lacks String.utf8ByteSize reason := by
  constructor
  · -- The checks are made in turn: what a check tells, those before it did not.
    intro fault
    rw [entityFault] at fault
    split at fault
    · rename_i unnamed
      obtain rfl := Option.some_inj.1 fault
      exact .name (String.isEmpty_iff.1 unnamed)
    rename_i named
    have named : e.entityId ≠ "" := mt String.isEmpty_iff.2 named
    split at fault
    · rename_i long
      obtain rfl := Option.some_inj.1 fault
      exact .shortness named long
    rename_i short
    split at fault
    · rename_i relative
      obtain rfl := Option.some_inj.1 fault
      refine .scheme named (Nat.not_lt.1 short) ?_
      rwa [Bool.not_eq_true', ← Bool.not_eq_true, isAbsoluteUri_iff] at relative
    · rename_i absolute
      rw [Bool.not_eq_true', Bool.not_eq_false, isAbsoluteUri_iff] at absolute
      obtain ⟨before, role, after, split, here, earlier⟩ := List.findSome?_eq_some_iff.1 fault
      exact .role named (Nat.not_lt.1 short) absolute before role after split
        (fun other listed => roleFault_eq_none_iff.1 (earlier other listed))
        (roleFault_eq_some_iff.1 here)
  · intro lacks
    rw [entityFault]
    cases lacks with
    | name unnamed => rw [if_pos (String.isEmpty_iff.2 unnamed)]
    | shortness named long =>
      rw [if_neg (mt String.isEmpty_iff.1 named), if_pos long]
      rfl
    | scheme named short relative =>
      rw [if_neg (mt String.isEmpty_iff.1 named), if_neg (Nat.not_lt.2 short), if_pos]
      rwa [Bool.not_eq_true', ← Bool.not_eq_true, isAbsoluteUri_iff]
    | role named short absolute before role after split earlier lacks =>
      rw [if_neg (mt String.isEmpty_iff.1 named), if_neg (Nat.not_lt.2 short), if_neg]
      · exact List.findSome?_eq_some_iff.2 ⟨before, role, after, split,
          roleFault_eq_some_iff.2 lacks,
          fun other listed => roleFault_eq_none_iff.2 (earlier other listed)⟩
      · rwa [Bool.not_eq_true', Bool.not_eq_false, isAbsoluteUri_iff]

/-- An entity without a name does not conform either. -/
theorem not_isAbsolute_empty : ¬ IsAbsolute "" := by
  rw [← isAbsoluteUri_iff]
  decide

/-- The check says nothing of an entity that conforms, if IDs are measured in bytes. -/
theorem entityFault_eq_none_iff : entityFault e = none ↔ e.Conforms String.utf8ByteSize := by
  constructor
  · intro sound
    rw [entityFault] at sound
    split at sound
    · cases sound
    split at sound
    · cases sound
    split at sound
    · cases sound
    rename_i short absolute
    rw [Bool.not_eq_true', Bool.not_eq_false, isAbsoluteUri_iff] at absolute
    rw [List.findSome?_eq_none_iff] at sound
    exact ⟨Nat.not_lt.1 short, absolute,
      fun role listed => roleFault_eq_none_iff.1 (sound role listed)⟩
  · rintro ⟨short, absolute, roles⟩
    rw [entityFault, if_neg, if_neg (Nat.not_lt.2 short), if_neg]
    · exact List.findSome?_eq_none_iff.2
        fun role listed => roleFault_eq_none_iff.2 (roles role listed)
    · rwa [Bool.not_eq_true', Bool.not_eq_false, isAbsoluteUri_iff]
    · intro unnamed
      rw [String.isEmpty_iff.1 unnamed] at absolute
      exact not_isAbsolute_empty absolute

theorem not_conforms_of_roleLacks (lacks : role.Lacks entityId reason) : ¬ role.Conforms := by
  intro conforms
  have sound : roleFault entityId role = none := roleFault_eq_none_iff.2 conforms
  rw [roleFault_eq_some_iff.2 lacks] at sound
  cases sound

/-- What lacks anything does not conform. -/
theorem not_conforms_of_lacks (lacks : e.Lacks size reason) : ¬ e.Conforms size := by
  rintro ⟨short, absolute, roles⟩
  cases lacks with
  | name unnamed => exact not_isAbsolute_empty (unnamed ▸ absolute)
  | shortness _ long => exact Nat.not_lt.2 short long
  | scheme _ _ relative => exact relative absolute
  | role _ _ _ _ role _ split _ lacks =>
    have listed : role ∈ e.roles := by
      rw [split]
      exact List.mem_append_right _ List.mem_cons_self
    exact not_conforms_of_roleLacks lacks (roles role listed)

/-- An entity lacks the same if its ID is as long by another measure. -/
theorem lacks_congr (same : longestEntityId < size e.entityId ↔ longestEntityId < size' e.entityId)
    (lacks : e.Lacks size reason) : e.Lacks size' reason := by
  cases lacks with
  | name unnamed => exact .name unnamed
  | shortness named long => exact .shortness named (same.1 long)
  | scheme named short relative =>
    exact .scheme named (Nat.not_lt.1 (mt same.2 (Nat.not_lt.2 short))) relative
  | role named short absolute before role after split earlier lacks =>
    exact .role named (Nat.not_lt.1 (mt same.2 (Nat.not_lt.2 short))) absolute before role after
      split earlier lacks

/-- The reasons differ in their last characters where they are about anything but the length. -/
theorem long_of_lacks (lacks : e.Lacks size "entityID longer than 1024 characters") :
    longestEntityId < size e.entityId := by
  -- The other reasons have an ID inside, so that only their ends can be computed.
  have ends : "entityID longer than 1024 characters".toList.getLast? = some 's' := by decide
  generalize same : "entityID longer than 1024 characters" = reason at lacks ends
  cases lacks with
  | name => exact absurd ends (by decide)
  | shortness _ long => exact long
  | scheme =>
    rw [Text.getLast?_append (c := 'I') (by decide)] at ends
    cases ends
  | role _ _ _ _ _ _ _ _ lacks =>
    cases lacks with
    | protocols =>
      rw [Text.getLast?_append (c := 'n') (by decide)] at ends
      cases ends
    | endpoint =>
      rw [Text.getLast?_append (c := 'n') (by decide)] at ends
      cases ends

/-! ## Work that depends on the members of a document -/

theorem mapList_congr (same : ∀ e ∈ entities, f e = g e) :
    mapList f entities = mapList g entities := by
  induction entities with
  | nil => rfl
  | cons e rest ih =>
    obtain ⟨first, others⟩ := List.forall_mem_cons.1 same
    rw [mapList, mapList, first, ih others]

mutual

theorem mapGroup_congr (group : Group)
    (same : ∀ e ∈ group.inside.filterMap Document.entity?, f e = g e) :
    mapGroup f group = mapGroup g group := by
  obtain ⟨name, validUntil, cacheSeconds, entities, groups, signature⟩ := group
  rw [Group.members_mk] at same
  obtain ⟨own, below⟩ := List.forall_mem_append.1 same
  rw [mapGroup, mapGroup, mapList_congr own, mapGroups_congr groups below]

theorem mapGroups_congr (groups : List Group)
    (same : ∀ e ∈ (Group.insideAll groups).filterMap Document.entity?, f e = g e) :
    mapGroups f groups = mapGroups g groups := by
  cases groups with
  | nil => rfl
  | cons group rest =>
    rw [Group.membersAll_cons] at same
    obtain ⟨first, others⟩ := List.forall_mem_append.1 same
    rw [mapGroups, mapGroups, mapGroup_congr group first, mapGroups_congr rest others]

end

/-- Work that is the same for every member of a document is the same for the document. -/
theorem mapDocument_congr (same : ∀ e ∈ document.members, f e = g e) :
    mapDocument f document = mapDocument g document := by
  cases document with
  | entity e => rw [mapDocument, mapDocument, same e List.mem_cons_self]
  | group group => rw [mapDocument, mapDocument, mapGroup_congr group same]

/-! ## The verdict on a document -/

/-- An entity is the first of some that does not conform. -/
def IsFirstFaulty (size : String → Nat) (entities : List Entity) (e : Entity) : Prop :=
  ∃ before after, entities = before ++ e :: after ∧ (∀ d ∈ before, d.Conforms size) ∧
    ¬ e.Conforms size

/-- An outcome is the verdict on a document: it is let through just if every entity in it conforms,
at any depth, and is then listed as before. Otherwise it fails, for what the first entity lacks that
does not conform, in the order in which entities are listed. -/
structure Judges (size : String → Nat) (document : Document)
    (outcome : Except Failure (Option Document)) : Prop where
  passes_iff : (∃ out, outcome = .ok (some out)) ↔ ∀ e ∈ document.members, e.Conforms size
  keeps : ∀ out, outcome = .ok (some out) → out.flatten = document.flatten
  tells : (¬ ∀ e ∈ document.members, e.Conforms size) →
    ∃ e reason, IsFirstFaulty size document.flatten e ∧ e.Lacks size reason ∧
      outcome = .error (.filterFailed "SchemaValidation" reason)

theorem IsFirstFaulty.eq (one : IsFirstFaulty size entities d)
    (other : IsFirstFaulty size entities e) : d = e := by
  classical
  have found {e : Entity} : IsFirstFaulty size entities e →
      entities.find? (fun d => ¬ d.Conforms size) = some e := by
    rintro ⟨before, after, split, earlier, fails⟩
    refine List.find?_eq_some_iff_append.2 ⟨decide_eq_true fails, before, after, split, ?_⟩
    intro d listed
    simpa using earlier d listed
  exact Option.some_inj.1 ((found one).symm.trans (found other))

theorem forall_conforms_iff {listed : List Entity}
    (lists : List.Forall₂ Entity.IsListedAs entities listed) :
    (∀ e ∈ entities, e.Conforms size) ↔ ∀ d ∈ listed, d.Conforms size := by
  induction lists with
  | nil => exact Iff.rfl
  | @cons e d _ _ one _ ih =>
    obtain ⟨validUntil, cacheSeconds, rfl⟩ := one
    rw [List.forall_mem_cons, List.forall_mem_cons, ih]
    exact Iff.rfl

/-- Bounds matter neither to the form of a member nor to what is said of it. -/
theorem findSome?_entityFault {listed : List Entity}
    (lists : List.Forall₂ Entity.IsListedAs entities listed) :
    entities.findSome? entityFault = listed.findSome? entityFault := by
  induction lists with
  | nil => rfl
  | @cons e d _ _ one _ ih =>
    obtain ⟨validUntil, cacheSeconds, rfl⟩ := one
    rw [List.findSome?_cons, List.findSome?_cons, entityFault_within, ih]

/-- The check of form fails just as it does for the first member of which it says anything. -/
theorem failureOf_checkForm (name : String) (document : Document) :
    failureOf (checkForm name document)
      = (document.flatten.findSome? entityFault).map (.filterFailed name) := by
  rw [checkForm, failureOf_mapDocument, ← findSome?_entityFault document.members_within,
    List.map_findSome?]
  refine congrArg (document.members.findSome? ·) (funext fun e => ?_)
  rw [Function.comp_apply]
  cases entityFault e <;> rfl

/-- A document passes and is listed as before if all members conform, IDs measured in bytes. -/
theorem exists_checkForm (name : String)
    (sound : ∀ e ∈ document.members, e.Conforms String.utf8ByteSize) :
    ∃ out, checkForm name document = .ok (some out) ∧ out.flatten = document.flatten := by
  -- The check looks at members and not at what is listed, and finds no fault with any.
  have idle : checkForm name document = mapDocument (fun e => .ok (some e)) document := by
    refine mapDocument_congr fun e inside => ?_
    rw [entityFault_eq_none_iff.2 (sound e inside)]
  rw [idle]
  cases document with
  | entity e => exact ⟨.entity e, rfl, rfl⟩
  | group g =>
    have disregards : DisregardsBounds some := fun _ _ _ => rfl
    obtain ⟨left, mapped, flat⟩ := exists_mapGroup disregards g
    refine ⟨.group left, ?_, (flat none none).trans List.filterMap_some⟩
    rw [mapDocument, mapped]
    rfl

/-- To let a document through in which every entity conforms is the verdict on it. -/
theorem Judges.of_pass {out : Document} (sound : ∀ e ∈ document.members, e.Conforms size)
    (flat : out.flatten = document.flatten) : Judges size document (.ok (some out)) where
  passes_iff := ⟨fun _ => sound, fun _ => ⟨out, rfl⟩⟩
  keeps := by
    rintro _ ⟨rfl⟩
    exact flat
  tells := absurd sound

theorem IsFirstFaulty.not_forall (first : IsFirstFaulty size document.flatten e) :
    ¬ ∀ e ∈ document.members, e.Conforms size := by
  obtain ⟨before, after, split, -, fails⟩ := first
  rw [forall_conforms_iff document.members_within, split]
  exact fun sound => fails (sound e (List.mem_append_right _ List.mem_cons_self))

/-- To fail for what the first entity lacks that does not conform is the verdict, too. -/
theorem Judges.of_fault (first : IsFirstFaulty size document.flatten e)
    (lacks : e.Lacks size reason) :
    Judges size document (.error (.filterFailed "SchemaValidation" reason)) where
  passes_iff := by
    refine ⟨?_, fun sound => absurd sound first.not_forall⟩
    rintro ⟨_, passes⟩
    cases passes
  keeps _ := nofun
  tells _ := ⟨e, reason, first, lacks, rfl⟩

/-- The check reaches the verdict on every document, if IDs are measured in bytes. -/
theorem judges_bytes (context : Context) (document : Document) :
    Judges String.utf8ByteSize document (MetadataFilter.form.run context document) := by
  have fails_as : failureOf (MetadataFilter.form.run context document)
      = (document.flatten.findSome? entityFault).map (.filterFailed "SchemaValidation") :=
    failureOf_checkForm _ document
  by_cases sound : ∀ e ∈ document.members, e.Conforms String.utf8ByteSize
  · obtain ⟨out, passes, flat⟩ := exists_checkForm "SchemaValidation" sound
    have passes : MetadataFilter.form.run context document = .ok (some out) := passes
    rw [passes]
    exact .of_pass sound flat
  · have faulty : document.flatten.findSome? entityFault ≠ none := by
      rw [Ne, List.findSome?_eq_none_iff]
      simp only [entityFault_eq_none_iff]
      -- The bounds of a member do not matter to its form.
      rwa [← forall_conforms_iff document.members_within]
    obtain ⟨reason, first⟩ := Option.ne_none_iff_exists'.1 faulty
    rw [first, Option.map_some, failureOf_eq_some_iff] at fails_as
    obtain ⟨before, e, after, split, fault, earlier⟩ := List.findSome?_eq_some_iff.1 first
    have lacks := entityFault_eq_some_iff.1 fault
    rw [fails_as]
    exact .of_fault ⟨before, after, split,
      fun d listed => entityFault_eq_none_iff.1 (earlier d listed), not_conforms_of_lacks lacks⟩
      lacks

/-- What conforms with its ID measured in bytes does so with it measured in characters. -/
theorem conforms_length (conforms : e.Conforms String.utf8ByteSize) : e.Conforms String.length :=
  ⟨Nat.le_trans (Text.length_le_utf8ByteSize e.entityId) conforms.1, conforms.2⟩

/-- An ID that is too long is told of, whatever else is lacking. -/
theorem reason_of_long (long : longestEntityId < size e.entityId) (empty : size "" = 0)
    (lacks : e.Lacks size reason) : reason = "entityID longer than 1024 characters" := by
  cases lacks with
  | name unnamed =>
    rw [unnamed, empty] at long
    exact absurd long (Nat.not_lt_zero _)
  | shortness => rfl
  | scheme _ short => exact absurd long (Nat.not_lt.2 short)
  | role _ short => exact absurd long (Nat.not_lt.2 short)

theorem lacks_of_long (long : longestEntityId < size e.entityId) (empty : size "" = 0) :
    e.Lacks size "entityID longer than 1024 characters" := by
  refine .shortness (fun unnamed => ?_) long
  rw [unnamed, empty] at long
  exact absurd long (Nat.not_lt_zero _)

/-- What the first entity lacks that fails the check is lacked by the first that breaks the rule, if
an ID that is too long in bytes only does not come between them. -/
theorem IsFirstFaulty.exists_lacks_length
    (first : IsFirstFaulty String.utf8ByteSize entities e)
    (lacks : e.Lacks String.utf8ByteSize reason)
    (spared : e.entityId.length ≤ longestEntityId → longestEntityId < e.entityId.utf8ByteSize →
      ∃ d, IsFirstFaulty String.length entities d ∧ longestEntityId < d.entityId.length) :
    ∃ d, IsFirstFaulty String.length entities d ∧ d.Lacks String.length reason := by
  by_cases same : longestEntityId < e.entityId.utf8ByteSize ↔ longestEntityId < e.entityId.length
  · have lacks : e.Lacks String.length reason := lacks_congr same lacks
    obtain ⟨before, after, split, earlier, -⟩ := first
    exact ⟨e, ⟨before, after, split, fun d listed => conforms_length (earlier d listed),
      not_conforms_of_lacks lacks⟩, lacks⟩
  · have fewer := Text.length_le_utf8ByteSize e.entityId
    have many : longestEntityId < e.entityId.utf8ByteSize := by omega
    obtain rfl := reason_of_long many rfl lacks
    obtain ⟨d, first', long⟩ := spared (by omega) many
    exact ⟨d, first', lacks_of_long long rfl⟩

/-- **When the check of form reaches the verdict that its rule asks for.** On every document it
reaches the verdict that IDs measured in bytes lead to. The rule speaks of characters. What it asks
for is reached just if the first entity that fails the check is not one whose ID is too long in
bytes only, or the first that breaks the rule has an ID that is too long in characters, so that the
same is said of another entity. -/
theorem form_judges_iff (context : Context) (document : Document) :
    Judges String.utf8ByteSize document (MetadataFilter.form.run context document) ∧
    (Judges String.length document (MetadataFilter.form.run context document) ↔
      ∀ e, IsFirstFaulty String.utf8ByteSize document.flatten e →
        e.entityId.length ≤ longestEntityId → longestEntityId < e.entityId.utf8ByteSize →
          ∃ d, IsFirstFaulty String.length document.flatten d ∧
            longestEntityId < d.entityId.length) := by
  have bytes := judges_bytes context document
  refine ⟨bytes, ?_, ?_⟩
  · intro chars e first _ many
    obtain ⟨e', reason, first', lacks, failed⟩ := bytes.tells first.not_forall
    obtain rfl := first'.eq first
    -- The reason that is given is the length, so it has to be that of the first by characters.
    obtain rfl := reason_of_long many rfl lacks
    by_cases sound : ∀ e ∈ document.members, e.Conforms String.length
    · obtain ⟨out, passed⟩ := chars.passes_iff.2 sound
      cases failed.symm.trans passed
    · obtain ⟨d, reason, first, lacks, failed'⟩ := chars.tells sound
      have same := Except.error.inj (failed.symm.trans failed')
      obtain rfl : "entityID longer than 1024 characters" = reason := by injection same
      exact ⟨d, first, long_of_lacks lacks⟩
  · intro spared
    by_cases sound : ∀ e ∈ document.members, e.Conforms String.utf8ByteSize
    · obtain ⟨out, passed⟩ := bytes.passes_iff.2 sound
      have flat := bytes.keeps out passed
      rw [passed]
      exact .of_pass (fun e inside => conforms_length (sound e inside)) flat
    · obtain ⟨e, reason, first, lacks, failed⟩ := bytes.tells sound
      obtain ⟨d, first', lacks'⟩ := first.exists_lacks_length lacks (spared e first)
      rw [failed]
      exact .of_fault first' lacks'

/-- An entity whose ID has 604 characters, most of which take two bytes. -/
def accented : Entity := .ofId (String.ofList ("urn:".toList ++ List.replicate 600 'é'))

/-- It conforms, and yet is refused for an ID of too many characters. -/
theorem accented_id_is_refused :
    accented.entityId.length = 604 ∧
      (∀ e ∈ (Document.entity accented).members, e.Conforms String.length) ∧
      MetadataFilter.form.run ⟨⟨0, 0⟩, "r"⟩ (.entity accented)
        = .error (.filterFailed "SchemaValidation" "entityID longer than 1024 characters") ∧
      ¬ Judges String.length (.entity accented)
        (MetadataFilter.form.run ⟨⟨0, 0⟩, "r"⟩ (.entity accented)) := by
  have size : accented.entityId.length = 604 := by
    rw [accented, Entity.ofId, String.length_ofList, List.length_append, List.length_replicate]
    rfl
  -- An accented letter is one character of two bytes.
  have bytes : accented.entityId.utf8ByteSize = 1204 := by
    rw [Text.utf8ByteSize_eq, accented, Entity.ofId, String.toList_ofList, List.flatMap_append,
      List.length_append, List.length_flatMap, List.length_flatMap, List.map_replicate,
      List.sum_replicate_nat]
    rfl
  have absolute : IsAbsolute accented.entityId := by
    refine ⟨'u', ['r', 'n'], List.replicate 600 'é', String.toList_ofList, rfl, fun c listed => ?_,
      List.cons_ne_nil 'é' _⟩
    rcases List.mem_pair.1 listed with rfl | rfl <;> exact .inl rfl
  have conforms : ∀ e ∈ (Document.entity accented).members, e.Conforms String.length := by
    intro e inside
    obtain rfl := List.mem_singleton.1 inside
    exact ⟨by rw [size]; decide, absolute, fun _ => nofun⟩
  have fault : entityFault accented = some "entityID longer than 1024 characters" :=
    entityFault_eq_some_iff.2 (lacks_of_long (by rw [bytes]; decide) rfl)
  have refused : MetadataFilter.form.run ⟨⟨0, 0⟩, "r"⟩ (.entity accented)
      = .error (.filterFailed "SchemaValidation" "entityID longer than 1024 characters") := by
    rw [MetadataFilter.run, checkForm, mapDocument, fault]
    rfl
  refine ⟨size, conforms, refused, fun judges => ?_⟩
  obtain ⟨out, passed⟩ := judges.passes_iff.2 conforms
  cases refused.symm.trans passed

end Filter

end Federation
