/-
# The values of descriptions

What a description is written as is a plain value: its numbers are whole, and its containers nest
at most five deep. Groups add two containers for every level of nesting, so that up to sixty
levels stay within what any text may nest.

Numbers and instants have bounds of their own. An index has 16 bits and a duration 64, and an
instant is one that some text states. The wire form of an entity is not written.

## Main definitions

- `Entity.InBounds`, `Group.InBounds`: every number and instant is within its bounds.
- `Group.nesting`: how deep groups nest.
- `Group.withoutWireForms`: a group whose entities have lost the texts they were read from.

## Main results

- `Entity.isPlain`, `Group.isPlain`: descriptions are written as plain values.
- `Group.value_withoutWireForms`: wire forms are not written.
-/

import Federation.Metadata.Canonical
import Federation.Metadata.Decoder
import Federation.Proofs.Json.Text
import Federation.Proofs.Time.Text

namespace Federation.Metadata

open Federation.Json

/-! ## Members that may be left out -/

section members

variable {α : Type} {name : String} {write : α → Value} {o : Option α} {as : List α}
  {m : String × Value}

theorem mem_optionalMember : m ∈ optionalMember name write o ↔ ∃ a ∈ o, m = (name, write a) := by
  cases o with
  | none => simp [optionalMember]
  | some a => simp [optionalMember]

theorem mem_listMember :
    m ∈ listMember name write as ↔ as ≠ [] ∧ m = (name, .array (as.map write)) := by
  cases as with
  | nil => simp [listMember]
  | cons a rest => simp [listMember]

theorem mem_attributesMember {a : Attributes} :
    m ∈ attributesMember a ↔ a.entries ≠ [] ∧ m = ("attributes",
      .object (a.entries.map fun (name, values) => (name, textsValue values))) := by
  rw [attributesMember, Attributes.isEmpty]
  cases a.entries with
  | nil => simp
  | cons entry rest => simp

theorem mem_extensionsMember {x : Extensions} :
    m ∈ extensionsMember x ↔ x.isEmpty = false ∧ m = ("extensions", x.value) := by
  rw [extensionsMember]
  cases x.isEmpty with
  | false => simp
  | true => simp

theorem names_optionalMember :
    (optionalMember name write o).map (·.1) = if o.isNone then [] else [name] := by
  cases o with
  | none => rfl
  | some a => rfl

theorem names_listMember :
    (listMember name write as).map (·.1) = if as.isEmpty then [] else [name] := by
  cases as with
  | nil => rfl
  | cons a rest => rfl

theorem names_attributesMember {a : Attributes} :
    (attributesMember a).map (·.1) = if a.isEmpty then [] else ["attributes"] := by
  rw [attributesMember]
  split <;> rfl

theorem names_extensionsMember {x : Extensions} :
    (extensionsMember x).map (·.1) = if x.isEmpty then [] else ["extensions"] := by
  rw [extensionsMember]
  split <;> rfl

/-- A member that may be left out has its own name or none. -/
theorem sublist_name (left_out : Bool) :
    (if left_out then [] else [name]).Sublist [name] := by
  cases left_out with
  | false => exact .refl _
  | true => exact List.nil_sublist _

end members

/-! ## Entities -/

/-- An index of 16 bits. -/
def Endpoint.InBounds (e : Endpoint) : Prop := ∀ n ∈ e.index, n ≤ 65535

def RoleDescriptor.InBounds (r : RoleDescriptor) : Prop := ∀ e ∈ r.endpoints, e.InBounds

/-- Indices of 16 bits, a duration of 64 bits, and an instant that some text states. -/
structure Entity.InBounds (e : Entity) : Prop where
  roles : ∀ r ∈ e.roles, r.InBounds
  validUntil : ∀ t ∈ e.validUntil, t.IsCivil
  cacheSeconds : ∀ n ∈ e.cacheSeconds, n ≤ maxSeconds

/-- An entity of which only the ID is known states nothing that could be out of bounds. -/
theorem Entity.inBounds_ofId (id : String) : (Entity.ofId id).InBounds := ⟨nofun, nofun, nofun⟩

variable {depth : Nat}

theorem isPlain_strings (texts : List String) :
    (Value.array (texts.map .string)).IsPlain (depth + 1) := by
  refine isPlain_array fun v among => ?_
  obtain ⟨s, -, rfl⟩ := List.mem_map.1 among
  exact isPlain_string s

theorem isPlain_map {α : Type} {write : α → Value} {as : List α}
    (each : ∀ a ∈ as, (write a).IsPlain depth) :
    (Value.array (as.map write)).IsPlain (depth + 1) := by
  refine isPlain_array fun v among => ?_
  obtain ⟨a, listed, rfl⟩ := List.mem_map.1 among
  exact each a listed

theorem Endpoint.isPlain {e : Endpoint} (bounds : e.InBounds) : e.value.IsPlain 1 := by
  refine isPlain_object fun m among => ?_
  simp only [List.mem_cons, mem_optionalMember] at among
  rcases among with rfl | rfl | rfl | ⟨n, stated, rfl⟩
  · exact isPlain_string e.kind
  · exact isPlain_string e.binding
  · exact isPlain_string e.location
  · exact isPlain_natural (Nat.le_trans (bounds n stated) (by decide))

theorem RoleDescriptor.isPlain {r : RoleDescriptor} (bounds : r.InBounds) : r.value.IsPlain 3 := by
  refine isPlain_object fun m among => ?_
  simp only [List.cons_append, List.mem_cons, List.mem_append, mem_listMember, mem_optionalMember]
    at among
  rcases among with rfl | rfl | (⟨-, rfl⟩ | ⟨-, rfl⟩) | ⟨s, -, rfl⟩
  · exact isPlain_string r.role.text
  · exact isPlain_strings r.protocols
  · exact isPlain_strings r.nameIdFormats
  · exact isPlain_map fun e among => Endpoint.isPlain (bounds e among)
  · exact isPlain_string s

theorem Signature.isPlain (s : Signature) : s.asValue.IsPlain 1 := by
  refine isPlain_object fun m among => ?_
  simp only [List.mem_cons, List.not_mem_nil, or_false] at among
  rcases among with rfl | rfl | rfl
  · exact isPlain_string s.keyName
  · exact isPlain_string s.algorithm
  · exact isPlain_string s.value

theorem Extensions.isPlain (x : Extensions) : x.value.IsPlain 2 := by
  refine isPlain_object fun m among => ?_
  simp only [List.mem_append, mem_listMember] at among
  rcases among with ⟨-, rfl⟩ | ⟨-, rfl⟩
  · exact isPlain_strings x.digestMethods
  · exact isPlain_strings x.signingMethods

namespace Entity

variable {e : Entity}

/-- The members of an entity. -/
def members (e : Entity) : List (String × Value) :=
  ("entityID", .string e.entityId)
    :: listMember "roles" RoleDescriptor.value e.roles
      ++ optionalMember "validUntil" instantValue e.validUntil
      ++ optionalMember "cacheDuration" naturalValue e.cacheSeconds
      ++ optionalMember "registrationAuthority" .string e.registrar
      ++ attributesMember e.attributes
      ++ extensionsMember e.extensions
      ++ optionalMember "signature" Signature.asValue e.signature

theorem value_eq (e : Entity) : e.value = .object e.members := rfl

theorem mem_members {m : String × Value} :
    m ∈ e.members ↔ m = ("entityID", .string e.entityId) ∨
      (e.roles ≠ [] ∧ m = ("roles", .array (e.roles.map RoleDescriptor.value))) ∨
      (∃ t ∈ e.validUntil, m = ("validUntil", instantValue t)) ∨
      (∃ n ∈ e.cacheSeconds, m = ("cacheDuration", naturalValue n)) ∨
      (∃ s ∈ e.registrar, m = ("registrationAuthority", .string s)) ∨
      (e.attributes.entries ≠ [] ∧ m = ("attributes",
        .object (e.attributes.entries.map fun (name, values) => (name, textsValue values)))) ∨
      (e.extensions.isEmpty = false ∧ m = ("extensions", e.extensions.value)) ∨
      ∃ s ∈ e.signature, m = ("signature", s.asValue) := by
  simp only [members, List.cons_append, List.mem_append, List.mem_cons, mem_optionalMember,
    mem_listMember, mem_attributesMember, mem_extensionsMember, or_assoc]

/-- Which members an entity has. -/
theorem mem_names {name : String} :
    name ∈ e.members.map (·.1) ↔ name = "entityID" ∨ name = "roles" ∧ e.roles ≠ [] ∨
      name = "validUntil" ∧ e.validUntil ≠ none ∨ name = "cacheDuration" ∧ e.cacheSeconds ≠ none ∨
      name = "registrationAuthority" ∧ e.registrar ≠ none ∨
      name = "attributes" ∧ e.attributes.isEmpty = false ∨
      name = "extensions" ∧ e.extensions.isEmpty = false ∨
      name = "signature" ∧ e.signature ≠ none := by
  simp [members, names_listMember, names_optionalMember, names_attributesMember,
    names_extensionsMember, and_comm]

theorem nodup_names (e : Entity) : (e.members.map (·.1)).Nodup := by
  simp only [members, List.map_cons, List.map_append, names_listMember, names_optionalMember,
    names_attributesMember, names_extensionsMember]
  exact ((((((((sublist_name _).cons_cons _).append (sublist_name _)).append
    (sublist_name _)).append (sublist_name _)).append (sublist_name _)).append
    (sublist_name _)).append (sublist_name _)).nodup
    (show ["entityID", "roles", "validUntil", "cacheDuration", "registrationAuthority",
      "attributes", "extensions", "signature"].Nodup by decide)

/-- An entity is written as a plain value. -/
theorem isPlain (bounds : e.InBounds) : e.value.IsPlain 5 := by
  rw [value_eq]
  refine isPlain_object fun m among => ?_
  rcases mem_members.1 among with rfl | ⟨-, rfl⟩ | ⟨t, -, rfl⟩ | ⟨n, stated, rfl⟩ | ⟨s, -, rfl⟩ |
    ⟨-, rfl⟩ | ⟨-, rfl⟩ | ⟨s, -, rfl⟩
  · exact isPlain_string e.entityId
  · exact isPlain_map fun r among => RoleDescriptor.isPlain (bounds.roles r among)
  · exact isPlain_string t.text
  · exact isPlain_natural (bounds.cacheSeconds n stated)
  · exact isPlain_string s
  · refine isPlain_object fun m among => ?_
    obtain ⟨entry, -, rfl⟩ := List.mem_map.1 among
    exact isPlain_strings entry.2
  · exact (Extensions.isPlain e.extensions).mono (by decide)
  · exact (Signature.isPlain s).mono (by decide)

end Entity

/-! ## Groups -/

namespace Group

/-- Every number and instant of a group and of what is in it is within its bounds. -/
inductive InBounds : Group → Prop where
  | intro {g : Group} (validUntil : ∀ t ∈ g.validUntil, t.IsCivil)
      (cacheSeconds : ∀ n ∈ g.cacheSeconds, n ≤ maxSeconds)
      (entities : ∀ e ∈ g.entities, e.InBounds) (groups : ∀ inner ∈ g.groups, InBounds inner) :
      InBounds g

mutual

/-- How many levels of groups there are within a group. -/
def nesting : Group → Nat
  | ⟨_, _, _, _, groups, _⟩ => nestingIn groups

/-- How many levels of groups the groups of a list make up. -/
def nestingIn : List Group → Nat
  | [] => 0
  | g :: rest => max (g.nesting + 1) (nestingIn rest)

end

mutual

/-- A group whose entities, and those of the groups in it, have lost their wire forms. -/
def withoutWireForms : Group → Group
  | ⟨name, validUntil, cacheSeconds, entities, groups, signature⟩ =>
    ⟨name, validUntil, cacheSeconds, entities.map Entity.withoutWireForm,
      allWithoutWireForms groups, signature⟩

/-- The groups of a list without wire forms. -/
def allWithoutWireForms : List Group → List Group
  | [] => []
  | g :: rest => g.withoutWireForms :: allWithoutWireForms rest

end

variable {g : Group} {groups : List Group}

theorem nestingIn_le_iff : nestingIn groups ≤ depth ↔ ∀ g ∈ groups, g.nesting < depth := by
  induction groups with
  | nil => simp [nestingIn]
  | cons g rest ih => rw [nestingIn, Nat.max_le, Nat.succ_le_iff, ih, List.forall_mem_cons]

theorem nesting_lt {inner : Group} (among : inner ∈ g.groups) : inner.nesting < g.nesting := by
  obtain ⟨_, _, _, _, groups, _⟩ := g
  rw [nesting]
  exact nestingIn_le_iff.1 (Nat.le_refl _) inner among

theorem values_eq_map : values groups = groups.map value := by
  induction groups with
  | nil => rfl
  | cons g rest ih => rw [values, ih, List.map_cons]

theorem allWithoutWireForms_eq_map : allWithoutWireForms groups = groups.map withoutWireForms := by
  induction groups with
  | nil => rfl
  | cons g rest ih => rw [allWithoutWireForms, ih, List.map_cons]

theorem withoutWireForms_eq (g : Group) :
    g.withoutWireForms = { g with
      entities := g.entities.map Entity.withoutWireForm
      groups := g.groups.map withoutWireForms } := by
  obtain ⟨name, validUntil, cacheSeconds, entities, groups, signature⟩ := g
  rw [withoutWireForms, allWithoutWireForms_eq_map]

/-- The members of a group. -/
def members (g : Group) : List (String × Value) :=
  optionalMember "name" .string g.name
    ++ optionalMember "validUntil" instantValue g.validUntil
    ++ optionalMember "cacheDuration" naturalValue g.cacheSeconds
    ++ ("entities", .array (g.entities.map Entity.value)) :: listMember "groups" value g.groups
    ++ optionalMember "signature" Signature.asValue g.signature

theorem value_eq (g : Group) : g.value = .object g.members := by
  obtain ⟨name, validUntil, cacheSeconds, entities, groups, signature⟩ := g
  rw [value, members, listMember, values_eq_map]

theorem mem_members {m : String × Value} :
    m ∈ g.members ↔ (∃ s ∈ g.name, m = ("name", .string s)) ∨
      (∃ t ∈ g.validUntil, m = ("validUntil", instantValue t)) ∨
      (∃ n ∈ g.cacheSeconds, m = ("cacheDuration", naturalValue n)) ∨
      m = ("entities", .array (g.entities.map Entity.value)) ∨
      (g.groups ≠ [] ∧ m = ("groups", .array (g.groups.map value))) ∨
      ∃ s ∈ g.signature, m = ("signature", s.asValue) := by
  simp only [members, List.mem_append, List.mem_cons, mem_optionalMember, mem_listMember, or_assoc]

/-- Which members a group has. -/
theorem mem_names {name : String} :
    name ∈ g.members.map (·.1) ↔ name = "name" ∧ g.name ≠ none ∨
      name = "validUntil" ∧ g.validUntil ≠ none ∨ name = "cacheDuration" ∧ g.cacheSeconds ≠ none ∨
      name = "entities" ∨ name = "groups" ∧ g.groups ≠ [] ∨
      name = "signature" ∧ g.signature ≠ none := by
  simp [members, names_listMember, names_optionalMember, and_comm]

theorem nodup_names (g : Group) : (g.members.map (·.1)).Nodup := by
  simp only [members, List.map_append, List.map_cons, names_listMember, names_optionalMember]
  exact (((((sublist_name _).append (sublist_name _)).append (sublist_name _)).append
    ((sublist_name _).cons_cons _)).append (sublist_name _)).nodup
    (show ["name", "validUntil", "cacheDuration", "entities", "groups", "signature"].Nodup by
      decide)

/-- A group is written as a plain value, with two containers for each level of nesting around an
entity and the group it is in. -/
theorem isPlain (bounds : g.InBounds) : g.value.IsPlain (2 * g.nesting + 7) := by
  induction bounds with
  | @intro g _ fits entities _ ih =>
    rw [value_eq]
    refine isPlain_object fun m among => ?_
    rcases mem_members.1 among with ⟨s, -, rfl⟩ | ⟨t, -, rfl⟩ | ⟨n, stated, rfl⟩ | rfl | ⟨-, rfl⟩ |
      ⟨s, -, rfl⟩
    · exact isPlain_string s
    · exact isPlain_string t.text
    · exact isPlain_natural (fits n stated)
    · exact isPlain_map fun e among => (Entity.isPlain (entities e among)).mono (by omega)
    · refine isPlain_map fun inner among => (ih inner among).mono ?_
      have deeper := nesting_lt among
      omega
    · exact (Signature.isPlain s).mono (by omega)

/-! ## Wire forms -/

mutual

/-- Wire forms are not written. -/
theorem value_withoutWireForms : ∀ g : Group, g.withoutWireForms.value = g.value
  | ⟨name, validUntil, cacheSeconds, entities, groups, signature⟩ => by
    have same : (Entity.value ∘ Entity.withoutWireForm) = Entity.value := rfl
    have inner := values_allWithoutWireForms groups
    have empty : (allWithoutWireForms groups).isEmpty = groups.isEmpty := by
      rw [allWithoutWireForms_eq_map, List.isEmpty_map]
    rw [withoutWireForms, value, value, List.map_map, same, inner, empty]

theorem values_allWithoutWireForms :
    ∀ groups : List Group, values (allWithoutWireForms groups) = values groups
  | [] => rfl
  | g :: rest => by
    rw [allWithoutWireForms, values, values, value_withoutWireForms g,
      values_allWithoutWireForms rest]

end

mutual

/-- A group none of whose entities has a wire form has none to lose. -/
theorem withoutWireForms_eq_self (validUntil : Option Time.Instant) (cacheSeconds : Option Nat) :
    ∀ g : Group, (∀ e ∈ g.flattenWithin validUntil cacheSeconds, e.wireForm = none) →
      g.withoutWireForms = g
  | ⟨name, until_, seconds, entities, groups, signature⟩, unread => by
    rw [flattenWithin] at unread
    have own : entities.map Entity.withoutWireForm = entities := by
      refine (List.map_congr_left fun e among => ?_).trans (List.map_id' entities)
      have bounded := unread _ (List.mem_append_left _ (List.mem_map.2 ⟨e, among, rfl⟩))
      have none_left : e.wireForm = none := bounded
      rw [Entity.withoutWireForm, ← none_left]
    have inner := allWithoutWireForms_eq_self _ _ groups fun e among =>
      unread e (List.mem_append_right _ among)
    rw [withoutWireForms, own, inner]

theorem allWithoutWireForms_eq_self (validUntil : Option Time.Instant) (cacheSeconds : Option Nat) :
    ∀ groups : List Group, (∀ e ∈ flattenAll validUntil cacheSeconds groups, e.wireForm = none) →
      allWithoutWireForms groups = groups
  | [], _ => rfl
  | g :: rest, unread => by
    rw [flattenAll] at unread
    have first := withoutWireForms_eq_self _ _ g fun e among =>
      unread e (List.mem_append_left _ among)
    have others := allWithoutWireForms_eq_self _ _ rest fun e among =>
      unread e (List.mem_append_right _ among)
    rw [allWithoutWireForms, first, others]

end

end Group

end Federation.Metadata
