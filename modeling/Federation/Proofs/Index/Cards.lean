/-
# What a table has of one ID

Of every ID a table has a card: the keys under which the ID is, and the keys that are noted of it.
Each access to a table that is made for an ID changes the card of that ID and of no other. A key may
be left without IDs in between. Only taking an ID away makes a key so, and that is told.

## Main definitions

- `Card`, `IndexTable.card`: what a table has of an ID.
- `IndexTable.IsHollow`: a key is there without an ID.
- `IndexTable.Edits`: an access for one ID.

## Main results

- `edits_leave`, `edits_dropHollow`, `edits_join`, `edits_takeKeys`, `edits_noteKeys`: every access
  is for one ID.
-/

import Federation.Proofs.Index.Filing
import Federation.Store.Shared

namespace Federation

/-- What a table has of an ID. -/
@[ext]
structure Card where
  /-- Is the ID under a key? -/
  under : String → Prop
  /-- The keys that are noted. -/
  noted : List String

namespace Card

/-- The card of an ID that is under some keys. -/
def listing (keys : List String) : Card := ⟨fun key => key ∈ keys, keys⟩

/-- An ID is under the keys that are noted of it. -/
def IsMirrored (c : Card) : Prop := ∀ key, key ∈ c.noted ↔ c.under key

theorem isMirrored_listing (keys : List String) : (listing keys).IsMirrored := fun _ => Iff.rfl

end Card

namespace IndexTable

variable {t t' : IndexTable} {id key other : String} {keys : List String}

/-- The card of an ID. -/
def card (t : IndexTable) (id : String) : Card :=
  ⟨fun key => id ∈ t.entries.members key, t.byEntity.members id⟩

/-- A key is there without an ID. -/
def IsHollow (t : IndexTable) (key : String) : Prop := t.entries.get? key = some []

/-- Every ID is once under a key, and every key is noted once. -/
structure IsSound (t : IndexTable) : Prop where
  nodup : ∀ key ids, t.entries.get? key = some ids → ids.Nodup
  byEntity_isProper : t.byEntity.IsProper

/-- A table is changed for one ID. -/
structure Edits (id : String) (t t' : IndexTable) : Prop where
  index : t'.index = t.index
  isSound : t.IsSound → t'.IsSound
  card : ∀ other, other ≠ id → t'.card other = t.card other

theorem edits_refl (id : String) (t : IndexTable) : Edits id t t :=
  ⟨rfl, fun h => h, fun _ _ => rfl⟩

/-- Keys are put in the place of others, where each has what it had but for one ID. -/
theorem edits_entries {entries : Keyed String (List String)}
    (nodup : (∀ key ids, t.entries.get? key = some ids → ids.Nodup) →
      ∀ key ids, entries.get? key = some ids → ids.Nodup)
    (others : ∀ other, other ≠ id → ∀ key,
      other ∈ entries.members key ↔ other ∈ t.entries.members key) :
    Edits id t { t with entries } where
  index := rfl
  isSound sound := ⟨nodup sound.nodup, sound.byEntity_isProper⟩
  card other foreign := Card.ext (funext fun key => propext (others other foreign key)) rfl

/-- So is what is noted. -/
theorem edits_byEntity {byEntity : Keyed String (List String)}
    (proper : t.byEntity.IsProper → byEntity.IsProper)
    (others : ∀ other, other ≠ id → byEntity.members other = t.byEntity.members other) :
    Edits id t { t with byEntity } where
  index := rfl
  isSound sound := ⟨sound.nodup, proper sound.byEntity_isProper⟩
  card other foreign := Card.ext rfl (others other foreign)

/-! ## Taking an ID away from a key -/

theorem mem_members_leave : other ∈ (t.leave id key).2.entries.members under
    ↔ other ∈ t.entries.members under ∧ ¬ (other = id ∧ under = key) := by
  rw [leave]
  cases found : t.entries.get? key with
  | none =>
    by_cases here : under = key
    · simp [Keyed.members, here, found]
    · simp [here]
  | some ids =>
    dsimp only
    rw [Keyed.members_insert]
    by_cases here : under = key
    · subst here
      have held : t.entries.members under = ids := by rw [Keyed.members, found]; rfl
      simp [held]
    · simp [here]

theorem edits_leave (t : IndexTable) (id key : String) : Edits id t (t.leave id key).2 := by
  have others (other : String) (foreign : other ≠ id) (under : String) :
      other ∈ (t.leave id key).2.entries.members under ↔ other ∈ t.entries.members under := by
    simp [mem_members_leave, foreign]
  rw [leave] at others ⊢
  cases found : t.entries.get? key with
  | none => exact edits_refl id t
  | some ids =>
    rw [found] at others
    refine edits_entries (fun nodup other ids' there => ?_) others
    rw [Keyed.get?_insert] at there
    split at there
    · obtain rfl := Option.some_inj.1 there
      exact (nodup key ids found).filter _
    · exact nodup other ids' there

theorem card_leave : (t.leave id key).2.card id
    = { t.card id with under := fun under => (t.card id).under under ∧ under ≠ key } := by
  refine Card.ext (funext fun under => propext ?_) ?_
  · exact mem_members_leave.trans (by simp [card])
  · rw [leave]
    cases t.entries.get? key <;> rfl

/-- A key may be left without IDs, which is told. -/
theorem isHollow_leave (hollow : (t.leave id key).2.IsHollow other) :
    t.IsHollow other ∨ (other = key ∧ (t.leave id key).1 = true) := by
  rw [leave] at hollow ⊢
  cases found : t.entries.get? key with
  | none =>
    rw [found] at hollow
    exact .inl hollow
  | some ids =>
    rw [found] at hollow
    have there : (t.entries.insert key (ids.filter (· != id))).get? other = some [] := hollow
    rw [Keyed.get?_insert] at there
    split at there
    · rename_i here
      exact .inr ⟨here, List.isEmpty_iff.2 (Option.some_inj.1 there)⟩
    · exact .inl there

/-! ## Dropping a key without IDs -/

theorem members_dropHollow : (t.dropHollow key).2.entries.members under
    = t.entries.members under := by
  rw [dropHollow]
  split
  · rename_i hollow
    dsimp only
    rw [Keyed.members_erase]
    split
    · rename_i here
      rw [here, Keyed.members, hollow]
      rfl
    · rfl
  · rfl

theorem edits_dropHollow (t : IndexTable) (id key : String) :
    Edits id t (t.dropHollow key).2 := by
  have others (other : String) (_ : other ≠ id) (under : String) :
      other ∈ (t.dropHollow key).2.entries.members under ↔ other ∈ t.entries.members under := by
    rw [members_dropHollow]
  rw [dropHollow] at others ⊢
  split
  · rename_i hollow
    rw [hollow] at others
    refine edits_entries (fun nodup other ids there => ?_) others
    rw [Keyed.get?_erase] at there
    split at there
    · cases there
    · exact nodup other ids there
  · exact edits_refl id t

theorem card_dropHollow : (t.dropHollow key).2.card id = t.card id := by
  refine Card.ext (funext fun under => ?_) ?_
  · show (id ∈ (t.dropHollow key).2.entries.members under) = _
    rw [members_dropHollow]
    rfl
  · rw [dropHollow]
    split <;> rfl

theorem isHollow_dropHollow (hollow : (t.dropHollow key).2.IsHollow other) :
    t.IsHollow other ∧ other ≠ key := by
  rw [dropHollow] at hollow
  split at hollow
  · have there : (t.entries.erase key).get? other = some [] := hollow
    rw [Keyed.get?_erase] at there
    split at there
    · cases there
    · rename_i elsewhere
      exact ⟨there, elsewhere⟩
  · rename_i filled
    refine ⟨hollow, ?_⟩
    rintro rfl
    exact filled hollow

/-! ## Adding an ID to a key -/

theorem edits_join (t : IndexTable) (id key : String) : Edits id t (t.join id key).2 := by
  refine edits_entries (fun nodup other ids there => ?_) fun other foreign under => ?_
  · rw [addUnder, Keyed.get?_insert] at there
    split at there
    · obtain rfl := Option.some_inj.1 there
      refine nodup_adjoin ?_
      cases found : t.entries.get? key with
      | none => exact List.nodup_nil
      | some ids => exact nodup key ids found
    · exact nodup other ids there
  · rw [mem_members_addUnder]
    simp [foreign]

theorem card_join : (t.join id key).2.card id
    = { t.card id with under := fun under => (t.card id).under under ∨ under = key } := by
  refine Card.ext (funext fun under => propext ?_) rfl
  exact mem_members_addUnder.trans (by simp [card])

theorem isHollow_join (hollow : (t.join id key).2.IsHollow other) : t.IsHollow other := by
  have there : (addUnder id t.entries key).get? other = some [] := hollow
  rw [addUnder, Keyed.get?_insert] at there
  split at there
  · -- An ID was added to this key, so it is not without IDs.
    have emptied := Option.some_inj.1 there
    split at emptied
    · rename_i listed
      rw [emptied] at listed
      cases listed
    · simp at emptied
  · exact there

/-! ## Noting keys -/

theorem edits_takeKeys (t : IndexTable) (id : String) : Edits id t (t.takeKeys id).2 := by
  refine edits_byEntity (fun proper => proper.erase id) fun other foreign => ?_
  rw [Keyed.members_erase, if_neg foreign]

theorem card_takeKeys : (t.takeKeys id).2.card id = { t.card id with noted := [] } := by
  refine Card.ext rfl ?_
  show (t.byEntity.erase id).members id = []
  rw [Keyed.members_erase, if_pos rfl]

theorem edits_noteKeys (some_key : keys ≠ []) (distinct : keys.Nodup) (t : IndexTable)
    (id : String) : Edits id t (t.noteKeys id keys).2 := by
  refine edits_byEntity (fun proper => proper.insert id some_key distinct) fun other foreign => ?_
  rw [Keyed.members_insert, if_neg foreign]

theorem card_noteKeys : (t.noteKeys id keys).2.card id = { t.card id with noted := keys } := by
  refine Card.ext rfl ?_
  show (t.byEntity.insert id keys).members id = keys
  rw [Keyed.members_insert, if_pos rfl]

end IndexTable

end Federation
