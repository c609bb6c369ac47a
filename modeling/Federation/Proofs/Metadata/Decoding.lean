/-
# Decoding what is written

Descriptions are decoded from the values they are written as, in any arrangement of members. For
every record its *draft* says what is known of it once some of its members have been seen; a
member that is left out has its default, and a member that is written adds to the draft what it
was written from.

## Main results

- `reads_entity`: an entity is read from its value, without a wire form.
- `reads_group`: a group is read from its value where groups may nest as deep as it does, without
  the wire forms of its entities.
-/

import Federation.Proofs.Json.Decoding
import Federation.Proofs.Metadata.Values

namespace Federation.Metadata

open Federation.Json

variable {A : Arrangement}

/-! ## Parts of an entity -/

theorem reads_instant {t : Time.Instant} (civil : t.IsCivil) :
    A.Reads decodeInstant (instantValue t) t := by
  rw [Arrangement.Reads, instantValue, A.string, Value.outline, decodeInstant, Json.string]
  simp [Time.Instant.ofText?_text civil]

theorem reads_role (r : Role) : A.Reads decodeRole (.string r.text) r := by
  rw [Arrangement.Reads, A.string, Value.outline, decodeRole, decodeRole.named, Role.ofText?_text]

theorem reads_texts (texts : List String) :
    A.Reads (list Json.string) (.array (texts.map .string)) texts :=
  Arrangement.reads_list fun s _ => Arrangement.reads_string s

/-- What is known of an endpoint from some of its members. -/
def Endpoint.draft (e : Endpoint) (seen : List String) : EndpointDraft where
  kind := slot seen "kind" e.kind
  binding := slot seen "binding" e.binding
  location := slot seen "location" e.location
  index := slot seen "index" e.index

theorem reads_endpoint {e : Endpoint} (bounds : e.InBounds) : A.Reads decodeEndpoint e.value e := by
  refine Arrangement.reads_record e.draft rfl ?_ ?_ ?_
  · simp only [List.map_cons, names_optionalMember]
    exact ((((sublist_name _).cons_cons _).cons_cons _).cons_cons _).nodup
      (show ["kind", "binding", "location", "index"].Nodup by decide)
  · intro seen m among fresh
    simp only [List.mem_cons, mem_optionalMember] at among
    rcases among with rfl | rfl | rfl | ⟨n, stated, rfl⟩
    · have read := A.reads_string e.kind
      simp [EndpointDraft.step, Endpoint.draft, read.fill_slot fresh]
    · have read := A.reads_string e.binding
      simp [EndpointDraft.step, Endpoint.draft, read.fill_slot fresh]
    · have read := A.reads_string e.location
      simp [EndpointDraft.step, Endpoint.draft, read.fill_slot fresh]
    · have read : A.Reads (optional (natural 65535)) (naturalValue n) (some n) :=
        (Arrangement.reads_natural (bounds n stated)).optional nofun
      simp [EndpointDraft.step, Endpoint.draft, read.fill_slot fresh, Option.mem_def.1 stated]
  · intro seen all
    simp only [List.map_cons, names_optionalMember] at all
    have index : (slot seen "index" e.index).getD none = e.index :=
      getD_slot fun unseen => by simpa [all] using unseen
    rw [EndpointDraft.finish, Endpoint.draft, require_slot ((all _).2 (by simp)),
      require_slot ((all _).2 (by simp)), require_slot ((all _).2 (by simp)), index]
    rfl

/-- What is known of a role from some of its members. -/
def RoleDescriptor.draft (r : RoleDescriptor) (seen : List String) : RoleDraft where
  role := slot seen "role" r.role
  protocols := slot seen "protocolSupport" r.protocols
  nameIdFormats := slot seen "nameIdFormats" r.nameIdFormats
  endpoints := slot seen "endpoints" r.endpoints
  sourceId := slot seen "sourceId" r.sourceId

theorem reads_roleDescriptor {r : RoleDescriptor} (bounds : r.InBounds) :
    A.Reads decodeRoleDescriptor r.value r := by
  refine Arrangement.reads_record r.draft rfl ?_ ?_ ?_
  · -- The names that are written are some of those that a role may have, in the same order.
    simp only [List.map_cons, List.map_append, names_listMember, names_optionalMember]
    exact (((((sublist_name _).cons_cons _).cons_cons _).append (sublist_name _)).append
      (sublist_name _)).nodup (show ["role", "protocolSupport", "nameIdFormats", "endpoints",
        "sourceId"].Nodup by decide)
  · -- A member that is written is taken as what it is written from.
    intro seen m among fresh
    simp only [List.cons_append, List.mem_cons, List.mem_append, mem_listMember,
      mem_optionalMember] at among
    rcases among with rfl | rfl | (⟨-, rfl⟩ | ⟨-, rfl⟩) | ⟨s, stated, rfl⟩
    · have read := reads_role (A := A) r.role
      simp [RoleDraft.step, RoleDescriptor.draft, read.fill_slot fresh]
    · have read : A.Reads (list Json.string) (textsValue r.protocols) r.protocols := reads_texts _
      simp [RoleDraft.step, RoleDescriptor.draft, read.fill_slot fresh]
    · have read := reads_texts (A := A) r.nameIdFormats
      simp [RoleDraft.step, RoleDescriptor.draft, read.fill_slot fresh]
    · have read : A.Reads (list decodeEndpoint) (.array (r.endpoints.map Endpoint.value))
          r.endpoints :=
        Arrangement.reads_list fun e among => reads_endpoint (bounds e among)
      simp [RoleDraft.step, RoleDescriptor.draft, read.fill_slot fresh]
    · have read := (A.reads_string s).optional nofun
      simp [RoleDraft.step, RoleDescriptor.draft, read.fill_slot fresh, Option.mem_def.1 stated]
  · -- A member that is not written has the value that it is given when it is missing.
    intro seen all
    simp only [List.map_cons, List.map_append, names_listMember, names_optionalMember] at all
    have protocols : (slot seen "protocolSupport" r.protocols).getD [] = r.protocols :=
      getD_slot fun unseen => by simp [all] at unseen
    have formats : (slot seen "nameIdFormats" r.nameIdFormats).getD [] = r.nameIdFormats :=
      getD_slot fun unseen => by simpa [all] using unseen
    have endpoints : (slot seen "endpoints" r.endpoints).getD [] = r.endpoints :=
      getD_slot fun unseen => by simpa [all] using unseen
    have sourceId : (slot seen "sourceId" r.sourceId).getD none = r.sourceId :=
      getD_slot fun unseen => by simpa [all] using unseen
    rw [RoleDraft.finish, RoleDescriptor.draft, require_slot ((all _).2 (by simp)), protocols,
      formats, endpoints, sourceId]
    rfl

/-- What is known of a signature from some of its members. -/
def Signature.draft (s : Signature) (seen : List String) : SignatureDraft where
  keyName := slot seen "keyName" s.keyName
  algorithm := slot seen "algorithm" s.algorithm
  value := slot seen "value" s.value

theorem reads_signature (s : Signature) : A.Reads decodeSignature s.asValue s := by
  refine Arrangement.reads_record s.draft rfl (by simp) ?_ ?_
  · intro seen m among fresh
    simp only [List.mem_cons, List.not_mem_nil, or_false] at among
    rcases among with rfl | rfl | rfl
    · have read := A.reads_string s.keyName
      simp [SignatureDraft.step, Signature.draft, read.fill_slot fresh]
    · have read := A.reads_string s.algorithm
      simp [SignatureDraft.step, Signature.draft, read.fill_slot fresh]
    · have read := A.reads_string s.value
      simp [SignatureDraft.step, Signature.draft, read.fill_slot fresh]
  · intro seen all
    rw [SignatureDraft.finish, Signature.draft, require_slot ((all _).2 (by simp)),
      require_slot ((all _).2 (by simp)), require_slot ((all _).2 (by simp))]
    rfl

/-- What is known of algorithms from some of their members. -/
def Extensions.draft (x : Extensions) (seen : List String) : ExtensionsDraft where
  digestMethods := slot seen "digestMethods" x.digestMethods
  signingMethods := slot seen "signingMethods" x.signingMethods

theorem reads_extensions (x : Extensions) : A.Reads decodeExtensions x.value x := by
  refine Arrangement.reads_record x.draft rfl ?_ ?_ ?_
  · simp only [List.map_append, names_listMember]
    exact ((sublist_name _).append (sublist_name _)).nodup
      (show ["digestMethods", "signingMethods"].Nodup by decide)
  · intro seen m among fresh
    simp only [List.mem_append, mem_listMember] at among
    rcases among with ⟨-, rfl⟩ | ⟨-, rfl⟩
    · have read := reads_texts (A := A) x.digestMethods
      simp [ExtensionsDraft.step, Extensions.draft, read.fill_slot fresh]
    · have read := reads_texts (A := A) x.signingMethods
      simp [ExtensionsDraft.step, Extensions.draft, read.fill_slot fresh]
  · intro seen all
    simp only [List.map_append, names_listMember] at all
    have digests : (slot seen "digestMethods" x.digestMethods).getD [] = x.digestMethods :=
      getD_slot fun unseen => by simpa [all] using unseen
    have signings : (slot seen "signingMethods" x.signingMethods).getD [] = x.signingMethods :=
      getD_slot fun unseen => by simpa [all] using unseen
    rw [ExtensionsDraft.finish, Extensions.draft, digests, signings]

/-! ## Attributes -/

/-- The attributes of some names. -/
def Attributes.among (a : Attributes) (seen : List String) : Attributes where
  entries := a.entries.filter (·.1 ∈ seen)
  sorted := a.sorted.filter _

theorem Attributes.nodup_names (a : Attributes) : (a.entries.map (·.1)).Nodup := by
  refine List.pairwise_map.2 (a.sorted.imp fun lt same => ?_)
  rw [same] at lt
  exact String.lt_irrefl _ lt

theorem putEntry_of_first {name : String} {values : List String}
    {entries : List (String × List String)} (first : ∀ entry ∈ entries, name < entry.1) :
    putEntry name values entries = (name, values) :: entries := by
  cases entries with
  | nil => rfl
  | cons entry rest => rw [putEntry, if_pos (first entry List.mem_cons_self)]

theorem putEntry_of_later {name : String} {values : List String} {entry : String × List String}
    (later : entry.1 < name) (rest : List (String × List String)) :
    putEntry name values (entry :: rest) = entry :: putEntry name values rest := by
  have not_first : ¬ name < entry.1 := String.lt_asymm later
  have ne : name ≠ entry.1 := by
    rintro rfl
    exact String.lt_irrefl _ later
  rw [putEntry, if_neg not_first, if_neg ne]

/-- An entry goes back to its place among those of other names. -/
theorem putEntry_filter {entries : List (String × List String)} {entry : String × List String}
    {seen : List String} (sorted : entries.Pairwise (·.1 < ·.1)) (own : entry ∈ entries)
    (fresh : entry.1 ∉ seen) :
    putEntry entry.1 entry.2 (entries.filter (·.1 ∈ seen))
      = entries.filter (·.1 ∈ entry.1 :: seen) := by
  induction entries with
  | nil => cases own
  | cons head rest ih =>
    obtain ⟨below, sorted⟩ := List.pairwise_cons.1 sorted
    rcases List.mem_cons.1 own with rfl | own
    -- The entry is the first one, and all others come after it.
    · have others : rest.filter (·.1 ∈ entry.1 :: seen) = rest.filter (·.1 ∈ seen) := by
        refine List.filter_congr fun other among => ?_
        have ne : other.1 ≠ entry.1 := by
          intro same
          exact String.lt_irrefl _ (same ▸ below other among)
        simp [ne]
      have first : ∀ other ∈ rest.filter (·.1 ∈ seen), entry.1 < other.1 :=
        fun other among => below other (List.mem_filter.1 among).1
      rw [List.filter_cons_of_neg (by simpa using fresh), List.filter_cons_of_pos (by simp), others,
        putEntry_of_first first]
    -- The entry is further back, and the first one stays in front if it is known.
    · have later := below entry own
      have ne : head.1 ≠ entry.1 := by
        intro same
        exact String.lt_irrefl _ (same ▸ later)
      by_cases known : head.1 ∈ seen
      · rw [List.filter_cons_of_pos (by simpa using known),
          List.filter_cons_of_pos (by simp [known]), putEntry_of_later later, ih sorted own]
      · rw [List.filter_cons_of_neg (by simpa using known),
          List.filter_cons_of_neg (by simp [known, ne]), ih sorted own]

theorem reads_attributes (a : Attributes) :
    A.Reads decodeAttributes
      (.object (a.entries.map fun (name, values) => (name, textsValue values))) a := by
  have names : (a.entries.map fun (name, values) => (name, textsValue values)).map (·.1)
      = a.entries.map (·.1) := by
    rw [List.map_map]
    rfl
  -- In whatever order the entries come, those that have come are kept in the order of their names.
  obtain ⟨arranged, seen, made, all, taken⟩ := Arrangement.exists_members (A := A)
    a.among (fun a name o => (list Json.string o).map (a.put name))
    (by rw [names]; exact a.nodup_names) (by
      intro seen m among fresh
      obtain ⟨entry, own, rfl⟩ := List.mem_map.1 among
      have read : A.Reads (list Json.string) (textsValue entry.2) entry.2 := reads_texts _
      have placed := putEntry_filter a.sorted own fresh
      rw [Arrangement.Reads] at read
      simp [read, Except.map, Attributes.put, Attributes.among, placed])
  have blank : a.among [] = .empty := by simp [Attributes.among, Attributes.empty]
  have complete : a.among seen = a := by
    have kept : a.entries.filter (·.1 ∈ seen) = a.entries := by
      refine List.filter_eq_self.2 fun entry own => decide_eq_true ((all entry.1).2 ?_)
      rw [names]
      exact List.mem_map.2 ⟨entry, own, rfl⟩
    simp [Attributes.among, kept]
  rw [blank, complete] at taken
  rw [Arrangement.Reads, made, Value.outline, decodeAttributes, taken]
  rfl

/-! ## Entities -/

/-- What is known of an entity from some of its members. -/
def Entity.draft (e : Entity) (seen : List String) : EntityDraft where
  entityId := slot seen "entityID" e.entityId
  roles := slot seen "roles" e.roles
  validUntil := slot seen "validUntil" e.validUntil
  cacheSeconds := slot seen "cacheDuration" e.cacheSeconds
  registrar := slot seen "registrationAuthority" e.registrar
  attributes := slot seen "attributes" e.attributes
  extensions := slot seen "extensions" e.extensions
  signature := slot seen "signature" e.signature

theorem Attributes.eq_empty {a : Attributes} (empty : a.isEmpty = true) : a = .empty := by
  obtain ⟨entries, sorted⟩ := a
  obtain rfl := List.isEmpty_iff.1 empty
  rfl

theorem Extensions.eq_empty {x : Extensions} (empty : x.isEmpty = true) : x = .empty := by
  obtain ⟨digestMethods, signingMethods⟩ := x
  obtain ⟨digests, signings⟩ := Bool.and_eq_true_iff.1 empty
  obtain rfl := List.isEmpty_iff.1 digests
  obtain rfl := List.isEmpty_iff.1 signings
  rfl

/-- An entity is known once all of its members have been seen. -/
theorem Entity.finish_draft {e : Entity} {seen : List String}
    (all : ∀ name, name ∈ seen ↔ name ∈ e.members.map (·.1)) :
    (e.draft seen).finish = .ok e.withoutWireForm := by
  simp only [mem_names] at all
  have roles : (slot seen "roles" e.roles).getD [] = e.roles :=
    getD_slot fun unseen => by simpa [all] using unseen
  have validUntil : (slot seen "validUntil" e.validUntil).getD none = e.validUntil :=
    getD_slot fun unseen => by simpa [all] using unseen
  have cacheSeconds : (slot seen "cacheDuration" e.cacheSeconds).getD none = e.cacheSeconds :=
    getD_slot fun unseen => by simpa [all] using unseen
  have registrar : (slot seen "registrationAuthority" e.registrar).getD none = e.registrar :=
    getD_slot fun unseen => by simpa [all] using unseen
  have attributes : (slot seen "attributes" e.attributes).getD .empty = e.attributes :=
    getD_slot fun unseen => Attributes.eq_empty (by simpa [all] using unseen)
  have extensions : (slot seen "extensions" e.extensions).getD .empty = e.extensions :=
    getD_slot fun unseen => Extensions.eq_empty (by simpa [all] using unseen)
  have signature : (slot seen "signature" e.signature).getD none = e.signature :=
    getD_slot fun unseen => by simpa [all] using unseen
  rw [EntityDraft.finish, draft, require_slot ((all _).2 (by simp)), roles, validUntil,
    cacheSeconds, registrar, attributes, extensions, signature]
  rfl

/-- **An entity is read from its value**, without the text it may have been read from before. -/
theorem reads_entity {e : Entity} (bounds : e.InBounds) :
    A.Reads decodeEntity e.value e.withoutWireForm := by
  rw [Entity.value_eq]
  refine Arrangement.reads_record e.draft rfl e.nodup_names ?_
    fun seen all => Entity.finish_draft all
  intro seen m among fresh
  rcases Entity.mem_members.1 among with rfl | ⟨-, rfl⟩ | ⟨t, stated, rfl⟩ | ⟨n, stated, rfl⟩ |
    ⟨s, stated, rfl⟩ | ⟨-, rfl⟩ | ⟨-, rfl⟩ | ⟨s, stated, rfl⟩
  · have read := A.reads_string e.entityId
    simp [EntityDraft.step, Entity.draft, read.fill_slot fresh]
  · have read : A.Reads (list decodeRoleDescriptor) (.array (e.roles.map RoleDescriptor.value))
        e.roles :=
      Arrangement.reads_list fun r among => reads_roleDescriptor (bounds.roles r among)
    simp [EntityDraft.step, Entity.draft, read.fill_slot fresh]
  · have read := (reads_instant (A := A) (bounds.validUntil t stated)).optional nofun
    simp [EntityDraft.step, Entity.draft, read.fill_slot fresh, Option.mem_def.1 stated]
  · have read : A.Reads (optional (natural maxSeconds)) (naturalValue n) (some n) :=
      (Arrangement.reads_natural (bounds.cacheSeconds n stated)).optional nofun
    simp [EntityDraft.step, Entity.draft, read.fill_slot fresh, Option.mem_def.1 stated]
  · have read := (A.reads_string s).optional nofun
    simp [EntityDraft.step, Entity.draft, read.fill_slot fresh, Option.mem_def.1 stated]
  · have read := reads_attributes (A := A) e.attributes
    simp [EntityDraft.step, Entity.draft, read.fill_slot fresh]
  · have read := reads_extensions (A := A) e.extensions
    simp [EntityDraft.step, Entity.draft, read.fill_slot fresh]
  · have read := (reads_signature (A := A) s).optional nofun
    simp [EntityDraft.step, Entity.draft, read.fill_slot fresh, Option.mem_def.1 stated]

/-! ## Groups -/

namespace Group

/-- What is known of a group from some of its members. Wire forms are not among them. -/
def draft (g : Group) (seen : List String) : GroupDraft where
  name := slot seen "name" g.name
  validUntil := slot seen "validUntil" g.validUntil
  cacheSeconds := slot seen "cacheDuration" g.cacheSeconds
  entities := slot seen "entities" (g.entities.map Entity.withoutWireForm)
  groups := slot seen "groups" (g.groups.map withoutWireForms)
  signature := slot seen "signature" g.signature

variable {g : Group}

/-- A group is known once all of its members have been seen. -/
theorem finish_draft {seen : List String} (all : ∀ name, name ∈ seen ↔ name ∈ g.members.map (·.1)) :
    (g.draft seen).finish = .ok g.withoutWireForms := by
  simp only [mem_names] at all
  have name : (slot seen "name" g.name).getD none = g.name :=
    getD_slot fun unseen => by simpa [all] using unseen
  have validUntil : (slot seen "validUntil" g.validUntil).getD none = g.validUntil :=
    getD_slot fun unseen => by simpa [all] using unseen
  have cacheSeconds : (slot seen "cacheDuration" g.cacheSeconds).getD none = g.cacheSeconds :=
    getD_slot fun unseen => by simpa [all] using unseen
  have groups : (slot seen "groups" (g.groups.map withoutWireForms)).getD []
      = g.groups.map withoutWireForms :=
    getD_slot fun unseen => by simpa [all] using unseen
  have signature : (slot seen "signature" g.signature).getD none = g.signature :=
    getD_slot fun unseen => by simpa [all] using unseen
  rw [GroupDraft.finish, draft, require_slot ((all _).2 (by simp)), name, validUntil, cacheSeconds,
    groups, signature, withoutWireForms_eq]
  rfl

end Group

/-- **A group is read from its value** where groups may nest as deep as it does, without the texts
that its entities may have been read from. -/
theorem reads_group {g : Group} (bounds : g.InBounds) (depth : Nat) (shallow : g.nesting < depth) :
    A.Reads (groupWithin depth) g.value g.withoutWireForms := by
  -- Bounds hold for the groups within as well, so that they carry the induction.
  induction bounds generalizing depth with
  | @intro g civil fits entities _ ih =>
    obtain ⟨depth, rfl⟩ := Nat.exists_eq_add_one.2 (Nat.zero_lt_of_lt shallow)
    rw [Group.value_eq, groupWithin]
    refine Arrangement.reads_record g.draft rfl g.nodup_names ?_
      fun seen all => Group.finish_draft all
    intro seen m among fresh
    rcases Group.mem_members.1 among with ⟨s, stated, rfl⟩ | ⟨t, stated, rfl⟩ | ⟨n, stated, rfl⟩ |
      rfl | ⟨-, rfl⟩ | ⟨s, stated, rfl⟩
    · have read := (A.reads_string s).optional nofun
      simp [GroupDraft.step, Group.draft, read.fill_slot fresh, Option.mem_def.1 stated]
    · have read := (reads_instant (A := A) (civil t stated)).optional nofun
      simp [GroupDraft.step, Group.draft, read.fill_slot fresh, Option.mem_def.1 stated]
    · have read : A.Reads (optional (natural maxSeconds)) (naturalValue n) (some n) :=
        (Arrangement.reads_natural (fits n stated)).optional nofun
      simp [GroupDraft.step, Group.draft, read.fill_slot fresh, Option.mem_def.1 stated]
    · have read := Arrangement.reads_map (A := A) fun e among => reads_entity (entities e among)
      simp [GroupDraft.step, Group.draft, read.fill_slot fresh]
    · have read := Arrangement.reads_map (A := A) fun inner among =>
        ih inner among depth (by have deeper := Group.nesting_lt among; omega)
      simp [GroupDraft.step, Group.draft, read.fill_slot fresh]
    · have read := (reads_signature (A := A) s).optional nofun
      simp [GroupDraft.step, Group.draft, read.fill_slot fresh, Option.mem_def.1 stated]

end Federation.Metadata
