/-
# The bounds of what is read

Whatever the text, a description that was read from it is within its bounds. So nothing that was
read is lost when it is written: a copy of it is read back as it was.

## Main results

- `gives_entity`, `gives_group`: what is decoded is within its bounds.
- `Document.inBounds_of_parse`: so is what a text describes.
- `Entity.ofText_canonical_of_ofText`: an entity that was read is read back from its own text.
-/

import Federation.Proofs.Json.Decoded
import Federation.Proofs.Metadata.Canonical

namespace Federation.Metadata

open Federation.Json

variable {e : Entity} {text : String}

/-! ## Parts of an entity -/

theorem gives_instant : decodeInstant.Gives Time.Instant.IsCivil := by
  intro o t decoded
  rw [decodeInstant] at decoded
  split at decoded
  · cases decoded
  · split at decoded
    · rename_i stated
      obtain rfl := Except.ok.inj decoded
      exact Time.Instant.isCivil_iff.2 ⟨_, stated⟩
    · cases decoded

/-- What is known of an endpoint is within its bounds. -/
def EndpointDraft.InBounds (d : EndpointDraft) : Prop := ∀ x ∈ d.index, ∀ n ∈ x, n ≤ 65535

theorem keeps_endpoint : Step.Keeps EndpointDraft.step EndpointDraft.InBounds := by
  intro d name o d' bounds taken
  rw [EndpointDraft.step] at taken
  refine member_keeps taken (fun _ _ => bounds) fun taken => ?_
  refine member_keeps taken (fun _ _ => bounds) fun taken => ?_
  refine member_keeps taken (fun _ _ => bounds) fun taken => ?_
  refine member_keeps taken (fun x decoded => ?_) fun taken => ?_
  · rintro _ ⟨⟩
    exact (gives_natural 65535).optional o x decoded
  exact passOver_keeps taken bounds

theorem gives_endpoint : decodeEndpoint.Gives Endpoint.InBounds := by
  refine gives_record (P := EndpointDraft.InBounds) nofun keeps_endpoint fun d e bounds finished => ?_
  obtain ⟨kind, -, finished⟩ := require_bind_eq_ok finished
  obtain ⟨binding, -, finished⟩ := require_bind_eq_ok finished
  obtain ⟨location, -, finished⟩ := require_bind_eq_ok finished
  obtain rfl := Except.ok.inj finished
  exact forall_mem_getD_none bounds

/-- What is known of a role is within its bounds. -/
def RoleDraft.InBounds (d : RoleDraft) : Prop := ∀ es ∈ d.endpoints, ∀ e ∈ es, e.InBounds

theorem keeps_role : Step.Keeps RoleDraft.step RoleDraft.InBounds := by
  intro d name o d' bounds taken
  rw [RoleDraft.step] at taken
  refine member_keeps taken (fun _ _ => bounds) fun taken => ?_
  refine member_keeps taken (fun _ _ => bounds) fun taken => ?_
  refine member_keeps taken (fun _ _ => bounds) fun taken => ?_
  refine member_keeps taken (fun es decoded => ?_) fun taken => ?_
  · rintro _ ⟨⟩
    exact gives_endpoint.list o es decoded
  refine member_keeps taken (fun _ _ => bounds) fun taken => ?_
  exact passOver_keeps taken bounds

theorem gives_roleDescriptor : decodeRoleDescriptor.Gives RoleDescriptor.InBounds := by
  refine gives_record (P := RoleDraft.InBounds) nofun keeps_role fun d r bounds finished => ?_
  obtain ⟨role, -, finished⟩ := require_bind_eq_ok finished
  obtain rfl := Except.ok.inj finished
  exact forall_mem_getD_nil bounds

/-! ## Entities -/

/-- What is known of an entity is within its bounds. -/
structure EntityDraft.InBounds (d : EntityDraft) : Prop where
  roles : ∀ rs ∈ d.roles, ∀ r ∈ rs, r.InBounds
  validUntil : ∀ x ∈ d.validUntil, ∀ t ∈ x, t.IsCivil
  cacheSeconds : ∀ x ∈ d.cacheSeconds, ∀ n ∈ x, n ≤ maxSeconds

theorem keeps_entity : Step.Keeps EntityDraft.step EntityDraft.InBounds := by
  intro d name o d' ⟨roles, validUntil, cacheSeconds⟩ taken
  rw [EntityDraft.step] at taken
  refine member_keeps taken (fun _ _ => ⟨roles, validUntil, cacheSeconds⟩) fun taken => ?_
  refine member_keeps taken (fun rs decoded => ⟨?_, validUntil, cacheSeconds⟩) fun taken => ?_
  · rintro _ ⟨⟩
    exact gives_roleDescriptor.list o rs decoded
  refine member_keeps taken (fun x decoded => ⟨roles, ?_, cacheSeconds⟩) fun taken => ?_
  · rintro _ ⟨⟩
    exact gives_instant.optional o x decoded
  refine member_keeps taken (fun x decoded => ⟨roles, validUntil, ?_⟩) fun taken => ?_
  · rintro _ ⟨⟩
    exact (gives_natural maxSeconds).optional o x decoded
  refine member_keeps taken (fun _ _ => ⟨roles, validUntil, cacheSeconds⟩) fun taken => ?_
  refine member_keeps taken (fun _ _ => ⟨roles, validUntil, cacheSeconds⟩) fun taken => ?_
  refine member_keeps taken (fun _ _ => ⟨roles, validUntil, cacheSeconds⟩) fun taken => ?_
  refine member_keeps taken (fun _ _ => ⟨roles, validUntil, cacheSeconds⟩) fun taken => ?_
  exact passOver_keeps taken ⟨roles, validUntil, cacheSeconds⟩

theorem gives_entity : decodeEntity.Gives fun e => e.InBounds ∧ e.wireForm = none := by
  refine gives_record (P := EntityDraft.InBounds) ⟨nofun, nofun, nofun⟩ keeps_entity
    fun d e bounds finished => ?_
  obtain ⟨entityId, -, finished⟩ := require_bind_eq_ok finished
  obtain rfl := Except.ok.inj finished
  refine ⟨⟨?_, ?_, ?_⟩, rfl⟩
  · exact forall_mem_getD_nil bounds.roles
  · exact forall_mem_getD_none bounds.validUntil
  · exact forall_mem_getD_none bounds.cacheSeconds

/-! ## Groups -/

/-- What is known of a group is within its bounds. -/
structure GroupDraft.InBounds (d : GroupDraft) : Prop where
  validUntil : ∀ x ∈ d.validUntil, ∀ t ∈ x, t.IsCivil
  cacheSeconds : ∀ x ∈ d.cacheSeconds, ∀ n ∈ x, n ≤ maxSeconds
  entities : ∀ es ∈ d.entities, ∀ e ∈ es, e.InBounds
  groups : ∀ gs ∈ d.groups, ∀ g ∈ gs, g.InBounds

theorem keeps_group {inner : Decoder (List Group)}
    (gives : inner.Gives fun gs => ∀ g ∈ gs, g.InBounds) :
    Step.Keeps (GroupDraft.step inner) GroupDraft.InBounds := by
  intro d name o d' ⟨validUntil, cacheSeconds, entities, groups⟩ taken
  rw [GroupDraft.step] at taken
  refine member_keeps taken (fun _ _ => ⟨validUntil, cacheSeconds, entities, groups⟩) fun taken => ?_
  refine member_keeps taken (fun x decoded => ⟨?_, cacheSeconds, entities, groups⟩) fun taken => ?_
  · rintro _ ⟨⟩
    exact gives_instant.optional o x decoded
  refine member_keeps taken (fun x decoded => ⟨validUntil, ?_, entities, groups⟩) fun taken => ?_
  · rintro _ ⟨⟩
    exact (gives_natural maxSeconds).optional o x decoded
  refine member_keeps taken (fun es decoded => ⟨validUntil, cacheSeconds, ?_, groups⟩) fun taken => ?_
  · rintro _ ⟨⟩ e among
    exact (gives_entity.list o es decoded e among).1
  refine member_keeps taken (fun gs decoded => ⟨validUntil, cacheSeconds, entities, ?_⟩) fun taken => ?_
  · rintro _ ⟨⟩
    exact gives o gs decoded
  refine member_keeps taken (fun _ _ => ⟨validUntil, cacheSeconds, entities, groups⟩) fun taken => ?_
  exact passOver_keeps taken ⟨validUntil, cacheSeconds, entities, groups⟩

theorem gives_group (depth : Nat) : (groupWithin depth).Gives Group.InBounds := by
  induction depth with
  | zero =>
    intro o g decoded
    cases decoded
  | succ depth ih =>
    refine gives_record (P := GroupDraft.InBounds) ⟨nofun, nofun, nofun, nofun⟩ (keeps_group ih.list)
      fun d g bounds finished => ?_
    obtain ⟨entities, known, finished⟩ := require_bind_eq_ok finished
    obtain rfl := Except.ok.inj finished
    refine .intro ?_ ?_ (bounds.entities entities known) ?_
    · exact forall_mem_getD_none bounds.validUntil
    · exact forall_mem_getD_none bounds.cacheSeconds
    · exact forall_mem_getD_nil bounds.groups

/-! ## Documents -/

theorem gives_of_decodeValue {α : Type} {decoder : Decoder α} {Q : α → Prop} {a : α} {v : Value}
    (gives : decoder.Gives Q) (decoded : decodeValue decoder v = .ok a) : Q a := by
  rw [decodeValue] at decoded
  split at decoded
  · cases decoded
  · rename_i found
    exact Except.ok.inj decoded ▸ gives _ _ found

/-- What a document describes is within its bounds. -/
def Document.InBounds : Document → Prop
  | .entity e => e.InBounds
  | .group g => g.InBounds

theorem Document.inBounds_of_ofValue {document : Document} {v : Value}
    (found : Document.ofValue text v = .ok document) : document.InBounds := by
  cases v with
  | object members =>
    rw [Document.ofValue] at found
    by_cases identified : hasMember "entityID" members = true
    · rw [if_pos identified] at found
      split at found
      · rename_i decoded
        obtain rfl := Except.ok.inj found
        have bounds := (gives_of_decodeValue gives_entity decoded).1
        exact ⟨bounds.roles, bounds.validUntil, bounds.cacheSeconds⟩
      · cases found
    · rw [if_neg identified] at found
      by_cases grouped : hasMember "entities" members = true
      · rw [if_pos grouped] at found
        split at found
        · rename_i g decoded
          obtain rfl := Except.ok.inj found
          have bounds : g.InBounds := gives_of_decodeValue (gives_group _) decoded
          exact bounds
        · cases found
      · rw [if_neg grouped] at found
        cases found
  | _ => cases found

/-- **Whatever is read is within its bounds.** -/
theorem Document.inBounds_of_parse {document : Document}
    (parsed : Document.parse text = .ok document) : document.InBounds := by
  rw [Document.parse] at parsed
  split at parsed
  · cases parsed
  · exact inBounds_of_ofValue parsed

/-- **An entity that was read is read back from its own text**, whatever text it came from. -/
theorem Entity.ofText_canonical_of_ofText (read : Entity.ofText text = .ok e) :
    Entity.ofText e.canonical = .ok e := by
  have given : e.InBounds ∧ e.wireForm = none := by
    rw [Entity.ofText, decodeText] at read
    dsimp only at read
    split at read
    · cases read
    · rename_i decoded
      split at read
      · obtain rfl := Except.ok.inj read
        exact gives_entity _ _ decoded
      · cases read
  have same : e.withoutWireForm = e := by
    rw [Entity.withoutWireForm, ← given.2]
  rw [Entity.ofText_canonical given.1, same]

end Federation.Metadata
