/-
# Calls of a store that interleave

Any number of calls insert, remove and sweep in one store at the same time, and their steps may
follow upon each other in any order, but that an entry is held by one call at a time. Each part of a
call keeps the conditions of callers, and every step of it is confined to the ID whose entry it
holds. So at any moment what the indexes find is there, and when all calls are over, each index
holds what can be computed from the records.

## Main results

- `abides_unfile`, `abides_file`: what becomes of a card in one table.
- `abides_remove`, `abides_insert`, `abides_evict`: calls keep the conditions.
- `interleaved_indexes_follow_records`: what is true at any moment, and when all calls are over.
-/

import Federation.Proofs.Store.Holding

namespace Federation

open Federation.Metadata Federation.Time Federation.Task

namespace SharedStore

variable {indexes : List EntityIndex} {number : Nat} {about : String → Prop} {h : Holding}
  {i : Nat} {id key : String} {keys : List String} {records : List CacheRecord} {caller : Caller}

/-! ## Steps -/

/-- A step that leaves the standing and everything else as it was. -/
theorem leads_same {standing : Option Holding} {s : SharedStore} {next : Option Holding → Prop}
    (found : ∀ standings, Orderly indexes standings s → next standing) :
    (orderly indexes).Leads standing s s next :=
  (orderly indexes).leads_look fun _ => found

/-- The indexes are those that they always were. -/
theorem abides_indexPlaces_bind {β : Type} {next : List (EntityIndex × Nat) → Task SharedStore β}
    {result : β → Option Holding → Prop} {standing : Option Holding}
    (rest : (next indexes.zipIdx).Abides (orderly indexes) (Confined number about) result
      standing) :
    (indexPlaces >>= next).Abides (orderly indexes) (Confined number about) result standing := by
  have found : indexPlaces.Abides (orderly indexes) (Confined number about)
      (fun places standing' => places = indexes.zipIdx ∧ standing' = standing) standing := by
    refine abides_read fun s => leads_same fun standings holds => ⟨confined_of_cards rfl, ?_, rfl⟩
    rw [← holds.places]
    rfl
  refine found.bind ?_
  rintro _ _ ⟨rfl, rfl⟩
  exact rest

/-- A call of a number may change what the tables have of the ID whose entry it holds. -/
structure MayFile (number : Nat) (about : String → Prop) (h : Holding) : Prop where
  own : h.number = number
  mine : about h.id
  there : h.slice.records ≠ none

theorem MayFile.setCard (may : MayFile number about h) (i : Nat) (c : Card) :
    MayFile number about (h.setCard i c) :=
  ⟨may.own, may.mine, may.there⟩

/-- One access to a table. It is known what the card of the held ID is before and after it, and
which key may be left without IDs. -/
theorem abides_onTable {α : Type} [Inhabited α] {access : IndexTable → α × IndexTable}
    {result : α → Option Holding → Prop} (owed : α → Option (Nat × String))
    (inside : i < indexes.length) (may : MayFile number about h)
    (here : ∀ j key, h.owed = some (j, key) → j = i)
    (edits : ∀ t : IndexTable, t.Edits h.id (access t).2)
    (hollow : ∀ t key, (access t).2.IsHollow key →
      (t.IsHollow key ∧ h.owed ≠ some (i, key)) ∨ owed (access t).1 = some (i, key))
    (came : ∀ t : IndexTable, t.card h.id = h.slice.cards i → result (access t).1
      (some { h with
        slice := h.slice.setCard i ((access t).2.card h.id), owed := owed (access t).1 })) :
    (onTable i access).Abides (orderly indexes) (Confined number about) result (some h) := by
  refine abides_perform fun s x standings place its holds => ?_
  have exists_table : ∃ t, s.store.tables[i]? = some t := by
    have place : i < s.store.indexes.length := holds.places ▸ inside
    rw [BackingStore.indexes, List.length_map] at place
    exact ⟨_, List.getElem?_eq_getElem place⟩
  obtain ⟨t, found⟩ := exists_table
  obtain ⟨-, seen⟩ := holds.held place h its
  -- The table has of the ID what the call knows of it, so the call knows what comes of the access.
  have card : t.card h.id = h.slice.cards i := by
    rw [← seen]
    exact (BackingStore.cardAt_of_table found h.id).symm
  have slice : (s.setTable i (access t).2).store.slice h.id
      = h.slice.setCard i ((access t).2.card h.id) := by
    rw [slice_setTable found, seen]
  rw [found]
  refine ⟨x, some { h with
    slice := h.slice.setCard i ((access t).2.card h.id), owed := owed (access t).1 }, trivial,
    holds.edit its rfl rfl (indexes_setTable found (edits t))
      (isSound_setTable found (edits t) holds.sound)
      (fun other foreign => slice_setTable_of_ne found (edits t) foreign) slice may.there
      fun j key empty => ?_,
    fun j id changed => ?_, came t card⟩
  · -- A key without IDs was left so by this access, or it is in another table and was so before.
    rcases isHollow_setTable empty with ⟨rfl, emptied⟩ | ⟨elsewhere, before⟩
    · rcases hollow t key emptied with ⟨before, unowed⟩ | owes
      · exact .inl ⟨⟨t, found, before⟩, unowed⟩
      · exact .inr owes
    · exact .inl ⟨before, fun owes => elsewhere (here j key owes)⟩
  · -- Only the table that is accessed changes, and there only what it has of the ID that is held.
    have changed : (s.setTable i (access t).2).store.cardAt j id ≠ s.store.cardAt j id := changed
    rw [cardAt_setTable found] at changed
    split at changed
    · rename_i same
      have only : h.id = id := by
        by_contra foreign
        rw [same, BackingStore.cardAt_of_table found] at changed
        exact changed ((edits t).card id (Ne.symm foreign))
      exact ⟨only ▸ may.mine, h, rfl, may.own, only⟩
    · exact absurd rfl changed

/-- An access that leaves no key without IDs, where nothing is to be dropped. -/
theorem abides_access {α : Type} [Inhabited α] {access : IndexTable → α × IndexTable}
    {result : α → Option Holding → Prop} (inside : i < indexes.length)
    (may : MayFile number about h) (nothing : h.owed = none)
    (edits : ∀ t : IndexTable, t.Edits h.id (access t).2)
    (filled : ∀ t key, (access t).2.IsHollow key → t.IsHollow key)
    (came : ∀ t : IndexTable, t.card h.id = h.slice.cards i →
      result (access t).1 (some (h.setCard i ((access t).2.card h.id)))) :
    (onTable i access).Abides (orderly indexes) (Confined number about) result (some h) := by
  have unowed := Holding.not_owed nothing
  exact abides_onTable (fun _ => none) inside may (fun j key owes => absurd owes (unowed j key))
    edits (fun t key empty => .inl ⟨filled t key empty, unowed i key⟩) came

/-! ## One table -/

/-- The ID whose entry is held is taken away from a key. -/
theorem abides_unfileUnder (inside : i < indexes.length) (may : MayFile number about h)
    (nothing : h.owed = none) : (unfileUnder h.id i key).Abides (orderly indexes)
      (Confined number about) (fun _ standing => standing = some (h.setCard i
        { h.slice.cards i with under := fun under => (h.slice.cards i).under under ∧ under ≠ key }))
      (some h) := by
  have unowed := Holding.not_owed nothing
  generalize after : { h.slice.cards i with
    under := fun under => (h.slice.cards i).under under ∧ under ≠ key } = card
  rw [unfileUnder]
  -- If the last ID leaves a key, the call owes it that the key is dropped as well.
  have left : (onTable i (·.leave h.id key)).Abides (orderly indexes) (Confined number about)
      (fun told standing => standing = some { h with
        slice := h.slice.setCard i card, owed := if told then some (i, key) else none })
      (some h) := by
    refine abides_onTable (fun told => if told then some (i, key) else none) inside may
      (fun j key owes => absurd owes (unowed j key)) (fun t => IndexTable.edits_leave t h.id key)
      (fun t other empty => ?_) fun t same => ?_
    · rcases IndexTable.isHollow_leave empty with before | ⟨rfl, told⟩
      · exact .inl ⟨before, unowed i other⟩
      · exact .inr (if_pos told)
    · rw [IndexTable.card_leave, same, after]
  refine left.bind ?_
  rintro told _ rfl
  cases told with
  | false => exact abides_pure rfl
  | true =>
    -- Another ID may have come under the key in between. What was owed is dropped only if none
    -- has.
    refine abides_onTable (fun _ => none) inside ⟨may.own, may.mine, may.there⟩
      (fun j key owes => ?_) (fun t => IndexTable.edits_dropHollow t h.id key)
      (fun t other empty => .inl ?_) fun t same => ?_
    · exact (Prod.mk.inj (Option.some_inj.1 owes)).1.symm
    · obtain ⟨before, apart⟩ := IndexTable.isHollow_dropHollow empty
      exact ⟨before, fun owes => apart (Prod.mk.inj (Option.some_inj.1 owes)).2.symm⟩
    · have same : t.card h.id = (h.slice.setCard i card).cards i := same
      rw [Slice.cards_setCard] at same
      show some { h with slice := _, owed := none } = _
      rw [IndexTable.card_dropHollow, same, Slice.setCard_setCard]
      rfl

/-- The ID whose entry is held is taken out of a table. -/
theorem abides_unfile (inside : i < indexes.length) (may : MayFile number about h)
    (nothing : h.owed = none) (mirrored : (h.slice.cards i).IsMirrored) :
    (unfile h.id i).Abides (orderly indexes) (Confined number about)
      (fun _ standing => standing = some (h.setCard i (.listing []))) (some h) := by
  have taken : (onTable i (·.takeKeys h.id)).Abides (orderly indexes) (Confined number about)
      (fun keys standing => keys = (h.slice.cards i).noted ∧
        standing = some (h.setCard i { h.slice.cards i with noted := [] })) (some h) := by
    refine abides_access inside may nothing (fun t => IndexTable.edits_takeKeys t h.id)
      (fun t key empty => empty) fun t same => ⟨?_, ?_⟩
    · exact congrArg Card.noted same
    · rw [IndexTable.card_takeKeys, same]
  rw [unfile]
  refine taken.bind ?_
  rintro _ _ ⟨rfl, rfl⟩
  -- The ID is under no key but those that are left to do.
  refine abides_forEach (fun left standing => ∃ under : String → Prop,
    standing = some (h.setCard i ⟨under, []⟩) ∧ ∀ key, under key → key ∈ left) ?_
    ⟨_, rfl, fun key listed => (mirrored key).2 listed⟩ ?_
  · rintro key rest _ ⟨under, rfl, among⟩
    refine (abides_unfileUnder inside (may.setCard i _) rfl).imp ?_
    rintro _ _ rfl
    rw [Holding.cards_setCard, Holding.setCard_setCard]
    refine ⟨_, rfl, ?_⟩
    rintro under ⟨listed, apart⟩
    exact (List.mem_cons.1 (among under listed)).resolve_left apart
  · rintro _ ⟨under, rfl, among⟩
    have blank : (⟨under, []⟩ : Card) = .listing [] :=
      Card.ext (funext fun key => propext ⟨among key, fun listed => (List.not_mem_nil listed).elim⟩)
        rfl
    rw [blank]

/-- The ID whose entry is held is filed in a table that has nothing of it. -/
theorem abides_file (inside : i < indexes.length) (may : MayFile number about h)
    (nothing : h.owed = none) (blank : h.slice.cards i = .listing []) (distinct : keys.Nodup) :
    (file h.id i keys).Abides (orderly indexes) (Confined number about)
      (fun _ standing => standing = some (h.setCard i (.listing keys))) (some h) := by
  rw [file]
  split
  · rename_i none_
    rw [List.isEmpty_iff.1 none_, Holding.setCard_of_cards nothing blank]
    exact abides_pure rfl
  · rename_i some_key
    have some_key : keys ≠ [] := fun none_ => some_key (List.isEmpty_iff.2 none_)
    have joined : (forEach keys fun key => onTable i (·.join h.id key)).Abides (orderly indexes)
        (Confined number about)
        (fun _ standing => standing = some (h.setCard i ⟨fun key => key ∈ keys, []⟩))
        (some h) := by
      -- The ID is under every key but those that are left to do.
      refine abides_forEach (fun left standing => ∃ under : String → Prop,
        standing = some (h.setCard i ⟨under, []⟩) ∧ ∀ key, under key ∨ key ∈ left ↔ key ∈ keys) ?_
        ⟨fun _ => False, ?_, fun key => by simp⟩ ?_
      · rintro key rest _ ⟨under, rfl, among⟩
        refine abides_access inside (may.setCard i _) rfl
          (fun t => IndexTable.edits_join t h.id key)
          (fun t other empty => IndexTable.isHollow_join empty) fun t same => ?_
        rw [Holding.cards_setCard] at same
        have same : t.card h.id = ⟨under, []⟩ := same
        show ∃ under, some ((h.setCard i _).setCard i ((t.join h.id key).2.card h.id)) = _ ∧ _
        rw [IndexTable.card_join, same, Holding.setCard_setCard]
        refine ⟨_, rfl, fun other => ?_⟩
        rw [← among, List.mem_cons, or_assoc]
      · rw [Holding.setCard_of_cards nothing]
        exact blank.trans (Card.ext (funext fun key => by simp [Card.listing]) rfl)
      · rintro _ ⟨under, rfl, among⟩
        have all : under = fun key => key ∈ keys :=
          funext fun key => propext (by simpa using among key)
        rw [all]
    refine joined.bind ?_
    rintro _ _ rfl
    refine abides_access inside (may.setCard i _) rfl
      (fun t => IndexTable.edits_noteKeys some_key distinct t h.id)
      (fun t other empty => empty) fun t same => ?_
    rw [Holding.cards_setCard] at same
    have same : t.card h.id = ⟨fun key => key ∈ keys, []⟩ := same
    show some ((h.setCard i _).setCard i ((t.noteKeys h.id keys).2.card h.id)) = _
    rw [IndexTable.card_noteKeys, same, Holding.setCard_setCard]
    rfl

/-! ## All tables -/

/-- A task for each table, which files the ID whose entry is held under some keys. -/
theorem abides_forEach_places {body : EntityIndex × Nat → Task SharedStore Unit}
    (keys : Nat → EntityIndex → List String) (may : MayFile number about h)
    (nothing : h.owed = none)
    (mirrored : ∀ i index, indexes[i]? = some index → (h.slice.cards i).IsMirrored)
    (each : ∀ (h' : Holding) i index, h'.id = h.id → i < indexes.length →
      MayFile number about h' → h'.owed = none → (h'.slice.cards i).IsMirrored →
      (body (index, i)).Abides (orderly indexes) (Confined number about)
        (fun _ standing => standing = some (h'.setCard i (.listing (keys i index)))) (some h')) :
    (forEach indexes.zipIdx body).Abides (orderly indexes) (Confined number about)
      (fun _ standing => ∃ cards,
        standing = some ⟨h.number, h.id, ⟨h.slice.records, cards⟩, none⟩ ∧
        ∀ i index, indexes[i]? = some index → cards i = .listing (keys i index)) (some h) := by
  -- The ID is filed as it should be in every table but those that are left to do.
  refine abides_forEach (fun left standing => ∃ cards,
    standing = some ⟨h.number, h.id, ⟨h.slice.records, cards⟩, none⟩ ∧
    (∀ place ∈ left, indexes[place.2]? = some place.1) ∧
    ∀ i index, indexes[i]? = some index → (cards i).IsMirrored ∧
      ((index, i) ∈ left ∨ cards i = .listing (keys i index))) ?_ ?_ ?_
  · rintro ⟨index, i⟩ rest _ ⟨cards, rfl, places, all⟩
    obtain ⟨found, others⟩ := List.forall_mem_cons.1 places
    have inside : i < indexes.length := (List.getElem?_eq_some_iff.1 found).1
    refine (each ⟨h.number, h.id, ⟨h.slice.records, cards⟩, none⟩ i index rfl inside
      ⟨may.own, may.mine, may.there⟩ rfl (all i index found).1).imp ?_
    rintro _ _ rfl
    refine ⟨Function.update cards i (.listing (keys i index)), rfl, others, fun j other there => ?_⟩
    by_cases here : j = i
    · subst here
      obtain rfl := Option.some_inj.1 (found.symm.trans there)
      rw [Function.update_self]
      exact ⟨Card.isMirrored_listing _, .inr rfl⟩
    · rw [Function.update_of_ne here]
      obtain ⟨same, filed⟩ := all j other there
      refine ⟨same, filed.imp_left fun listed => (List.mem_cons.1 listed).resolve_left ?_⟩
      exact fun both => here (Prod.mk.inj both).2
  · refine ⟨h.slice.cards, ?_, fun place => List.mem_zipIdx_iff_getElem?.1, fun i index found =>
      ⟨mirrored i index found, .inl (List.mem_zipIdx_iff_getElem?.2 found)⟩⟩
    rw [← nothing]
  · rintro _ ⟨cards, rfl, -, all⟩
    exact ⟨cards, rfl, fun i index found => (all i index found).2.resolve_left List.not_mem_nil⟩

/-- The ID whose entry is held is taken out of every table. -/
theorem abides_unfileAll (may : MayFile number about h) (nothing : h.owed = none)
    (mirrored : ∀ i index, indexes[i]? = some index → (h.slice.cards i).IsMirrored) :
    (unfileAll h.id).Abides (orderly indexes) (Confined number about)
      (fun _ standing => ∃ cards,
        standing = some ⟨h.number, h.id, ⟨h.slice.records, cards⟩, none⟩ ∧
        ∀ i < indexes.length, cards i = .listing []) (some h) := by
  rw [unfileAll]
  refine abides_indexPlaces_bind
    ((abides_forEach_places (fun _ _ => []) may nothing mirrored ?_).imp ?_)
  · intro h' i index same inside may nothing mirrored
    rw [← same]
    exact abides_unfile inside may nothing mirrored
  · rintro _ _ ⟨cards, rfl, all⟩
    exact ⟨cards, rfl, fun i inside => all i _ (List.getElem?_eq_getElem inside)⟩

/-- The ID whose entry is held is filed in every table under the keys of its descriptions. -/
theorem abides_refileAll (may : MayFile number about h) (nothing : h.owed = none)
    (held : h.slice.records = some records)
    (mirrored : ∀ i index, indexes[i]? = some index → (h.slice.cards i).IsMirrored) :
    (refileAll caller h.id (records.map (·.entity))).Abides (orderly indexes)
      (Confined number about)
      (fun _ standing => ∃ v : Slice, standing = some ⟨h.number, h.id, v, none⟩ ∧
        v.IsSettled indexes) (some h) := by
  rw [refileAll]
  refine abides_indexPlaces_bind ((abides_forEach_places (fun i index => caller.order h.id i
    ((records.map (·.entity)).flatMap index.entityKeys).eraseDups) may nothing mirrored ?_).imp ?_)
  · -- In one table: the ID is taken out from under all of its keys, and put under those it has
    -- now.
    intro h' i index same inside may nothing mirrored
    rw [← same]
    refine (abides_unfile inside may nothing mirrored).bind ?_
    rintro _ _ rfl
    refine (abides_file inside (may.setCard i _) rfl Holding.cards_setCard
      ((caller.perm h'.id i _).nodup_iff.2 (nodup_eraseDups _))).imp ?_
    rintro _ _ rfl
    rw [Holding.setCard_setCard]
  · -- Every table has been gone through, so that each agrees with the records.
    rintro _ _ ⟨cards, rfl, all⟩
    refine ⟨_, rfl, fun i index found => ?_⟩
    show (cards i).IsMirrored ∧ ∀ key, (cards i).under key ↔ _
    rw [all i index found, held]
    refine ⟨Card.isMirrored_listing _, fun key => ?_⟩
    show key ∈ caller.order h.id i _ ↔ _
    rw [(caller.perm h.id i _).mem_iff]
    simp

/-! ## Calls -/

/-- Whoever comes to hold an entry knows what the store has of its ID. -/
theorem abides_hold (number : Nat) (id : String) :
    (hold number id).Abides (orderly indexes) (Confined number about)
      (fun found standing => ∃ v : Slice, standing = some ⟨number, id, v, none⟩ ∧
        v.records = found ∧ v.IsSettled indexes) none := by
  refine abides_waitFor_perform fun s ready x standings place own holds => ?_
  have free : s.held.get? id = none := by
    simpa [Keyed.contains] using ready
  exact ⟨x, _, trivial, holds.take own free number, confined_of_cards rfl, s.store.slice id, rfl,
    rfl, holds.settled id free⟩

/-- An entry is released where the tables have of its ID what the records say. -/
theorem abides_release (nothing : h.owed = none) (settled : h.slice.IsSettled indexes) :
    (release h.id).Abides (orderly indexes) (Confined number about)
      (fun _ standing => standing = none) (some h) := by
  refine abides_change fun s x standings place own holds => ?_
  obtain ⟨-, seen⟩ := holds.held place h own
  exact ⟨x, none, trivial, holds.letGo own nothing rfl (fun other foreign => rfl)
    (holds.present h.id) (seen ▸ settled), confined_of_cards rfl, rfl⟩

/-- An entry is taken out where the tables have nothing of its ID. -/
theorem abides_discard (nothing : h.owed = none)
    (blank : ∀ i < indexes.length, h.slice.cards i = .listing []) :
    (discard h.id).Abides (orderly indexes) (Confined number about)
      (fun _ standing => standing = none) (some h) := by
  refine abides_change fun s x standings place own holds => ?_
  obtain ⟨-, seen⟩ := holds.held place h own
  have gone : (s.store.records.erase h.id).get? h.id = none := by
    rw [Keyed.get?_erase, if_pos rfl]
  have cards (i : Nat) (inside : i < indexes.length) : s.store.cardAt i h.id = .listing [] := by
    rw [← blank i inside, ← seen]
    rfl
  refine ⟨x, none, trivial, holds.letGo own nothing rfl (fun other foreign => ?_)
    (fun _ => cards) (fun i index found => ?_), confined_of_cards rfl, rfl⟩
  · refine Slice.ext ?_ rfl
    show (s.store.records.erase h.id).get? other = s.store.records.get? other
    rw [Keyed.get?_erase, if_neg foreign]
  · -- Neither the records nor the tables have anything of the ID any more.
    show (s.store.cardAt i h.id).IsMirrored ∧ ∀ key, (s.store.cardAt i h.id).under key ↔
      ∃ r ∈ ((s.store.records.erase h.id).get? h.id).getD [], _
    rw [cards i (List.getElem?_eq_some_iff.1 found).1, gone]
    refine ⟨Card.isMirrored_listing [], fun key => ?_⟩
    exact ⟨fun listed => (List.not_mem_nil listed).elim, fun ⟨r, listed, _⟩ => by cases listed⟩

/-- Records are put into an entry that is held. -/
theorem abides_put (own : h.number = number) (nothing : h.owed = none)
    (records : List CacheRecord) :
    (put h.id records).Abides (orderly indexes) (Confined number about)
      (fun _ standing => standing = some ⟨number, h.id, ⟨some records, h.slice.cards⟩, none⟩)
      (some h) := by
  refine abides_change fun s x standings place its holds => ?_
  obtain ⟨-, seen⟩ := holds.held place h its
  refine ⟨x, some ⟨number, h.id, ⟨some records, h.slice.cards⟩, none⟩, trivial,
    holds.edit its own.symm rfl rfl holds.sound (fun other foreign => ?_) ?_ nofun
      fun i key empty => ?_, confined_of_cards rfl, rfl⟩
  · refine Slice.ext ?_ rfl
    show (s.store.records.insert h.id records).get? other = s.store.records.get? other
    rw [Keyed.get?_insert, if_neg foreign]
  · have cards : (s.store.slice h.id).cards = h.slice.cards := congrArg Slice.cards seen
    refine Slice.ext ?_ cards
    show (s.store.records.insert h.id records).get? h.id = some records
    rw [Keyed.get?_insert, if_pos rfl]
  · exact .inl ⟨empty, Holding.not_owed nothing i key⟩

/-- An entity is taken out of the indexes, and then its entry. -/
theorem abides_unfileAll_discard {β : Type} (h : Holding) {next : Unit → Task SharedStore β}
    {result : β → Option Holding → Prop} (may : MayFile number about h) (nothing : h.owed = none)
    (mirrored : ∀ i index, indexes[i]? = some index → (h.slice.cards i).IsMirrored)
    (rest : (next ()).Abides (orderly indexes) (Confined number about) result none) :
    (unfileAll h.id >>= fun _ => discard h.id >>= next).Abides (orderly indexes)
      (Confined number about) result (some h) := by
  refine (abides_unfileAll may nothing mirrored).bind ?_
  rintro _ _ ⟨cards, rfl, blank⟩
  refine Abides.bind (abides_discard rfl blank) ?_
  rintro _ _ rfl
  exact rest

/-- An entity is filed anew, and then its entry is released. -/
theorem abides_refileAll_release {β : Type} (h : Holding) (next : Unit → Task SharedStore β)
    {result : β → Option Holding → Prop} (may : MayFile number about h) (nothing : h.owed = none)
    (held : h.slice.records = some records)
    (mirrored : ∀ i index, indexes[i]? = some index → (h.slice.cards i).IsMirrored)
    (rest : (next ()).Abides (orderly indexes) (Confined number about) result none) :
    (refileAll caller h.id (records.map (·.entity)) >>= fun _ => release h.id >>= next).Abides
      (orderly indexes) (Confined number about) result (some h) := by
  refine (abides_refileAll may nothing held mirrored).bind ?_
  rintro _ _ ⟨v, rfl, settled⟩
  refine Abides.bind (abides_release rfl settled) ?_
  rintro _ _ rfl
  exact rest

theorem abides_remove (about : String → Prop) (number : Nat) (mine : about id) :
    (remove number id).Abides (orderly indexes) (Confined number about)
      (fun _ standing => standing = none) none := by
  refine (abides_hold number id).bind ?_
  rintro _ _ ⟨v, rfl, rfl, settled⟩
  cases found : v.records with
  | none => exact (abides_release rfl settled).bind fun _ _ free => free
  | some records =>
    have there : v.records ≠ none := by
      rw [found]
      exact nofun
    exact abides_unfileAll_discard ⟨number, id, v, none⟩ ⟨rfl, mine, there⟩ rfl
      (fun i index listed => (settled i index listed).1) rfl

theorem abides_insert (about : String → Prop) (caller : Caller) (mine : about id)
    (records : List CacheRecord) :
    (insert caller id records).Abides (orderly indexes) (Confined caller.number about)
      (fun _ standing => standing = none) none := by
  rw [insert]
  split
  · exact (abides_remove about caller.number mine).bind fun _ _ free => free
  · refine (abides_hold caller.number id).bind ?_
    rintro _ _ ⟨v, rfl, -, settled⟩
    refine (abides_put rfl rfl records).bind ?_
    rintro _ _ rfl
    exact abides_refileAll_release ⟨caller.number, id, ⟨some records, v.cards⟩, none⟩ pure
      ⟨rfl, mine, nofun⟩ rfl rfl (fun i index listed => (settled i index listed).1) rfl

theorem abides_evict (about : String → Prop) (caller : Caller) (mine : about id) (now : Instant)
    (idleLimit : Option Span) :
    (evict caller now idleLimit id).Abides (orderly indexes) (Confined caller.number about)
      (fun _ standing => standing = none) none := by
  refine (abides_hold caller.number id).bind ?_
  rintro _ _ ⟨v, rfl, rfl, settled⟩
  have mirrored (i : Nat) (index : EntityIndex) (listed : indexes[i]? = some index) :
      (v.cards i).IsMirrored := (settled i index listed).1
  cases found : v.records with
  | none => exact (abides_release rfl settled).bind fun _ _ free => free
  | some records =>
    refine (abides_put rfl rfl _).bind ?_
    rintro _ _ rfl
    split
    · exact abides_unfileAll_discard ⟨caller.number, id, ⟨some _, v.cards⟩, none⟩
        ⟨rfl, mine, nofun⟩ rfl mirrored rfl
    · split
      · -- All are left, so what the tables have is still what the records say.
        rename_i all_left
        have same : (records.filter fun r => !r.isDue now idleLimit) = records :=
          List.filter_sublist.eq_of_length all_left
        rw [same, ← found]
        exact (abides_release rfl settled).bind fun _ _ free => free
      · exact abides_refileAll_release ⟨caller.number, id, ⟨some _, v.cards⟩, none⟩ _
          ⟨rfl, mine, nofun⟩ rfl rfl mirrored rfl

theorem abides_cleanup (about : String → Prop) (caller : Caller) (seen : List String)
    (mine : ∀ id ∈ seen, about id) (now : Instant) (idleLimit : Option Span) :
    (cleanup caller now idleLimit seen).Abides (orderly indexes) (Confined caller.number about)
      (fun _ standing => standing = none) none := by
  have each (id : String) (listed : id ∈ seen) (standing : Option Holding)
      (outside : standing = none) : (evict caller now idleLimit id).Abides (orderly indexes)
        (Confined caller.number about) (fun _ standing => standing = none) standing := by
    rw [outside]
    exact abides_evict about caller (mine id listed) now idleLimit
  exact (abides_collect each rfl).bind fun _ _ free => free

/-- Every call keeps the conditions of callers, step by step, and holds nothing when it is over. -/
theorem abides_task (caller : Caller) (edit : Edit) :
    (Edit.task (caller, edit)).Abides (orderly indexes) (Confined caller.number (edit.IsAbout ·))
      (fun _ standing => standing = none) none := by
  cases edit with
  | insert id records =>
    exact abides_insert (Edit.IsAbout · (.insert id records)) caller rfl records
  | remove id =>
    exact (abides_remove (Edit.IsAbout · (.remove id)) caller.number rfl).bind fun _ _ free => free
  | cleanup now idleLimit seen =>
    exact (abides_cleanup (Edit.IsAbout · (.cleanup now idleLimit seen)) caller seen
      (fun id listed => listed) now idleLimit).bind fun _ _ free => free

/-! ## At any moment -/

/-- Calls of a store, each with who makes it and what is left of it. -/
abbrev Calls := List ((Caller × Edit) × Task SharedStore Unit)

/-- What may happen next: another call is started, or one takes a step. -/
def Go : Calls × SharedStore → Calls × SharedStore → Prop :=
  Interleaves guardedStep .still Edit.task fun _ => True

/-- What is known of a call in a standing. -/
def Behaves (indexes : List EntityIndex) (c : Caller × Edit) (t : Task SharedStore Unit)
    (standing : Option Holding) : Prop :=
  t.Abides (orderly indexes) (Confined c.1.number (c.2.IsAbout ·))
    (fun _ standing => standing = none) standing

/-- Callers that start from a store that is filed have standings at any time. -/
theorem exists_standings {store : BackingStore} (filed : store.IsFiled)
    {now : Calls × SharedStore} (reached : Relation.ReflTransGen Go ([], ⟨store, .empty⟩) now) :
    ∃ standings, Parties (orderly store.indexes) (Behaves store.indexes) none now.1 now.2 ()
      standings := by
  have start : Parties (orderly store.indexes) (Behaves store.indexes) none []
      ⟨store, .empty⟩ () fun _ => none :=
    ⟨orderly_of_isFiled filed, fun _ _ => rfl, fun place c t found => by cases found⟩
  obtain ⟨x, standings, -, parties⟩ := start.later
    (fun _ _ s s' same holds => same ▸ holds)
    (fun c _ => abides_task c.1 c.2)
    (fun c t x standings place s behaves holds => by
      obtain ⟨x', standing', later, holds', -, rest⟩ := Abides.guardedStep behaves holds
      exact ⟨x', standing', later, holds', rest⟩) reached
  exact ⟨standings, parties⟩

/-- Of an entity that a table has anything of, there are records. -/
theorem Orderly.contains {indexes : List EntityIndex} {standings : Nat → Option Holding}
    {s : SharedStore} (holds : Orderly indexes standings s) {t : IndexTable}
    (member : t ∈ s.store.tables) (id : String)
    (listed : t.card id ≠ .listing []) : s.store.contains id = true := by
  obtain ⟨i, found⟩ := List.mem_iff_getElem?.1 member
  rw [BackingStore.contains, Keyed.contains, Option.isSome_iff_ne_none]
  intro absent
  have inside : i < indexes.length := by
    rw [← holds.places, BackingStore.indexes, List.length_map]
    exact (List.getElem?_eq_some_iff.1 found).1
  have blank : s.store.cardAt i id = .listing [] := holds.present id absent i inside
  rw [BackingStore.cardAt_of_table found] at blank
  exact listed blank

/-- When all calls are over, nobody holds anything. -/
theorem standings_of_ended {calls : Calls} {s : SharedStore} {standings : Nat → Option Holding}
    (parties : Parties (orderly indexes) (Behaves indexes) none calls s () standings)
    (ended : ∀ call ∈ calls, call.2.isEnded = true) (place : Nat) : standings place = none := by
  cases found : calls[place]? with
  | none => exact parties.beyond place (List.getElem?_eq_none_iff.1 found)
  | some call =>
    obtain ⟨c, t⟩ := call
    have behaves : Behaves indexes c t (standings place) := parties.own place c t found
    have isEnded : t.isEnded = true := ended _ (List.mem_of_getElem? found)
    cases t with
    | ended outcome =>
      cases outcome with
      | ok a => exact behaves
      | failed failure => exact behaves.elim
      | overflow => exact behaves.elim
    | act update next => cases isEnded
    | pause next => cases isEnded
    | await ready next => cases isEnded

end SharedStore

namespace BackingStore

/-- Is an ID under a key of the table at a place? -/
def IsUnder (s : BackingStore) (i : Nat) (id key : String) : Prop :=
  ∃ t, s.tables[i]? = some t ∧ id ∈ t.idsUnder key

theorem isUnder_iff {s : BackingStore} {i : Nat} {id key : String} :
    s.IsUnder i id key ↔ (s.cardAt i id).under key := by
  rw [IsUnder, cardAt]
  cases s.tables[i]? with
  | none => simp [Card.listing]
  | some t =>
    constructor
    · rintro ⟨_, same, listed⟩
      exact Option.some_inj.1 same ▸ listed
    · exact fun listed => ⟨t, rfl, listed⟩

end BackingStore

namespace SharedStore

/-- **What the indexes find is there, at any moment.** Any number of calls insert, remove and sweep
in a store that is filed, each going through keys in an order of its own, and their steps follow
upon each other in any order. Then at any moment every entity that is under a key, or of which keys
are noted, is in the store. A step of a call changes under which keys an entity is for no entity but
one whose entry the call holds, one of those for which the call is made. And when all calls are
over, the store is filed: both views of every table tell what the records say, and no key is without
IDs. -/
theorem interleaved_indexes_follow_records {store : BackingStore} (filed : store.IsFiled)
    {now : Calls × SharedStore} (reached : Relation.ReflTransGen Go ([], ⟨store, .empty⟩) now) :
    now.2.store.indexes = store.indexes ∧
    (∀ t ∈ now.2.store.tables, ∀ id key, id ∈ t.idsUnder key ∨ key ∈ t.byEntity.members id →
      now.2.store.contains id = true) ∧
    (∀ (caller : Caller) (edit : Edit) (t : Task SharedStore Unit), ((caller, edit), t) ∈ now.1 →
      let after := (t.guardedStep now.2).2
      (∀ id i key, after.store.IsUnder i id key ↔ now.2.store.IsUnder i id key) ∨
      ∃ id, edit.IsAbout id ∧ now.2.held.get? id = some caller.number ∧ ∀ other, other ≠ id →
        ∀ i key, after.store.IsUnder i other key ↔ now.2.store.IsUnder i other key) ∧
    ((∀ call ∈ now.1, call.2.isEnded = true) → now.2.store.IsFiled) := by
  obtain ⟨standings, parties⟩ := exists_standings filed reached
  have holds : Orderly store.indexes standings now.2 := parties.holds
  refine ⟨holds.places, fun t member id key listed => ?_, fun caller edit t member => ?_,
    fun ended => holds.isFiled (standings_of_ended parties ended)⟩
  · -- Nothing is listed for an ID of which the store has no records.
    refine holds.contains member id fun blank => ?_
    rcases listed with under | noted
    · exact List.not_mem_nil (show (Card.listing []).under key from blank ▸ under)
    · exact List.not_mem_nil (show key ∈ (Card.listing []).noted from blank ▸ noted)
  · intro after
    obtain ⟨place, found⟩ := List.mem_iff_getElem?.1 member
    have behaves : Behaves store.indexes (caller, edit) t (standings place) :=
      parties.own place _ t found
    have unchanged_of (id : String)
        (same : ∀ i, after.store.cardAt i id = now.2.store.cardAt i id) (i : Nat) (key : String) :
        after.store.IsUnder i id key ↔ now.2.store.IsUnder i id key := by
      rw [BackingStore.isUnder_iff, BackingStore.isUnder_iff, same]
    -- Either the step changes nothing that is listed, or it changes what is listed for the one ID
    -- that the call holds.
    by_cases changed : ∃ i id, after.store.cardAt i id ≠ now.2.store.cardAt i id
    · obtain ⟨i, id, changed⟩ := changed
      obtain ⟨-, -, -, -, same | confined, -⟩ := Abides.guardedStep behaves parties.holds
      · rw [show after = now.2 from same] at changed
        exact absurd rfl changed
      · obtain ⟨mine, h, own, numbered, rfl⟩ := confined i id changed
        have numbered : h.number = caller.number := numbered
        refine .inr ⟨h.id, mine, numbered ▸ (holds.held place h own).1, fun other foreign =>
          unchanged_of other fun j => ?_⟩
        by_contra changed
        obtain ⟨-, h', own', -, same⟩ := confined j other changed
        obtain rfl := Option.some_inj.1 (own.symm.trans own')
        exact foreign same.symm
    · refine .inl fun id => unchanged_of id fun i => ?_
      by_contra moved
      exact changed ⟨i, id, moved⟩

/-! ### At work -/

/-- A record of an identity provider. -/
def provider (id : String) : CacheRecord :=
  ⟨(Entity.ofId id).withRole (.speaking .identityProvider "saml"), ⟨3600, 0⟩, ⟨0, 0⟩⟩

/-- A store that has one identity provider. -/
def founded : BackingStore :=
  (BackingStore.empty [.role]).insert "https://old.example.org" [provider "https://old.example.org"]

theorem isFiled_founded : founded.IsFiled := by
  rw [founded]
  exact (BackingStore.isFiled_empty [.role]).insert _ _

/-- It is to be removed, and another to be inserted. -/
def succession : Calls × SharedStore :=
  let calls : List (Caller × Edit) :=
    [(.plain 0, .remove "https://old.example.org"),
      (.plain 1, .insert "https://new.example.org" [provider "https://new.example.org"])]
  (calls.map fun c => (c, Edit.task c), ⟨founded, .empty⟩)

/-- The old one is no identity provider any more, and the key is left without IDs. -/
def interregnum : Calls × SharedStore := takeSteps [0, 0, 0, 0] succession

/-- The new one came under the key before it was dropped. -/
def succeeded : Calls × SharedStore := takeSteps [1, 1, 1, 1, 1, 0, 0, 1, 1] interregnum

theorem reached_succession (places : List Nat) :
    Relation.ReflTransGen Go ([], ⟨founded, .empty⟩) (takeSteps places succession) :=
  .head (.start _ _ trivial) (.head (.start _ _ trivial) (reflTransGen_takeSteps places _))

/-- Two providers share a key. The call that takes the old one away leaves the key to the call that
has put the new one there. -/
theorem key_is_left_to_successor :
    interregnum.2.store.IsHollow 0 "idpSso" ∧
    (∀ call ∈ succeeded.1, call.2.isEnded = true) ∧
    succeeded.2.store.IsFiled ∧
    succeeded.2.store.tables.entitiesFor "role" "idpSso" = ["https://new.example.org"] := by
  have reached : Relation.ReflTransGen Go ([], ⟨founded, .empty⟩) succeeded := by
    rw [succeeded, interregnum]
    exact (reached_succession _).trans (reflTransGen_takeSteps _ _)
  have ended : ∀ call ∈ succeeded.1, call.2.isEnded = true := by decide +kernel
  obtain ⟨-, -, -, whenEnded⟩ := interleaved_indexes_follow_records isFiled_founded reached
  have hollow : interregnum.2.store.tables[0]?.map (·.entries.get? "idpSso") = some (some []) := by
    decide +kernel
  obtain ⟨t, found, empty⟩ := Option.map_eq_some_iff.1 hollow
  exact ⟨⟨t, found, empty⟩, ended, whenEnded ended, by decide +kernel⟩

end SharedStore

end Federation
