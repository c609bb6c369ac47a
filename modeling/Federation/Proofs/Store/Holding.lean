/-
# Holding entries of a store

Whoever holds the entry of an ID knows what the store has of that ID, since nobody else changes
that: the records, and the card of the ID in every table. Of the IDs whose entries nobody holds, the
cards are what the records say. An ID of which there are no records has blank cards, whether its
entry is held or not. A key without IDs is owed by someone who has taken the last of them away and
is about to drop the key.

These are the conditions that callers of a store in several hands keep. What each of them does to
the tables is confined to the ID whose entry it holds.

## Main definitions

- `BackingStore.slice`: what a store has of an ID.
- `Holding`: what a call knows while it holds an entry.
- `SharedStore.Orderly`: the conditions that callers keep.
- `SharedStore.Confined`: a step of a call is confined to the ID whose entry the call holds.

## Main results

- `Orderly.edit`: a change to what is held.
- `Orderly.take`, `Orderly.letGo`: how entries come to be held and are released.
- `orderly_of_isFiled`, `Orderly.isFiled`: where nobody holds anything, the conditions say that the
  store is filed.
-/

import Federation.Proofs.Index.Cards
import Federation.Proofs.Store.Filing
import Federation.Proofs.Task.Guarded

namespace Federation

open Federation.Task

/-- What a store has of an ID: its records, and its card in every table. -/
@[ext]
structure Slice where
  records : Option (List CacheRecord)
  cards : Nat → Card

namespace Slice

variable {indexes : List EntityIndex} {v : Slice} {i : Nat} {c c' : Card}

/-- With another card in one of the tables. -/
def setCard (v : Slice) (i : Nat) (c : Card) : Slice :=
  { v with cards := Function.update v.cards i c }

/-- What the tables have of an ID is what the records say. -/
def IsSettled (indexes : List EntityIndex) (v : Slice) : Prop :=
  ∀ i index, indexes[i]? = some index → (v.cards i).IsMirrored ∧
    ∀ key, (v.cards i).under key ↔ ∃ r ∈ v.records.getD [], key ∈ index.entityKeys r.entity

/-- Without records, no table has anything of an ID. -/
def IsPresent (indexes : List EntityIndex) (v : Slice) : Prop :=
  v.records = none → ∀ i < indexes.length, v.cards i = .listing []

theorem setCard_self : v.setCard i (v.cards i) = v :=
  Slice.ext rfl (Function.update_eq_self i v.cards)

theorem setCard_setCard : (v.setCard i c).setCard i c' = v.setCard i c' := by
  simp [setCard]

theorem cards_setCard : (v.setCard i c).cards i = c := by
  simp [setCard]

theorem cards_setCard_of_ne {j : Nat} (elsewhere : j ≠ i) :
    (v.setCard i c).cards j = v.cards j := by
  simp [setCard, elsewhere]

end Slice

/-! ## What a store has of an ID -/

namespace BackingStore

variable {s : BackingStore} {i : Nat} {id key : String}

/-- The card of an ID in the table at a place. It is blank where there is no table. -/
def cardAt (s : BackingStore) (i : Nat) (id : String) : Card :=
  (s.tables[i]?.map (·.card id)).getD (.listing [])

/-- What the store has of an ID. -/
def slice (s : BackingStore) (id : String) : Slice := ⟨s.records.get? id, fun i => s.cardAt i id⟩

/-- In the table at a place, a key is there without an ID. -/
def IsHollow (s : BackingStore) (i : Nat) (key : String) : Prop :=
  ∃ t, s.tables[i]? = some t ∧ t.IsHollow key

theorem cardAt_of_table {t : IndexTable} (found : s.tables[i]? = some t) (id : String) :
    s.cardAt i id = t.card id := by
  rw [cardAt, found]
  rfl

theorem getElem?_indexes {t : IndexTable} (found : s.tables[i]? = some t) :
    s.indexes[i]? = some t.index := by
  rw [indexes, List.getElem?_map, found]
  rfl

theorem exists_table {index : EntityIndex} (found : s.indexes[i]? = some index) :
    ∃ t, s.tables[i]? = some t ∧ t.index = index := by
  rw [indexes, List.getElem?_map] at found
  exact Option.map_eq_some_iff.1 found

end BackingStore

namespace SharedStore

variable {s : SharedStore} {i j : Nat} {id key other : String} {t t' : IndexTable}

/-! ## One table is changed for one ID -/

theorem indexes_setTable (found : s.store.tables[i]? = some t) (edits : t.Edits id t') :
    (s.setTable i t').store.indexes = s.store.indexes := by
  refine List.ext_getElem? fun j => ?_
  rw [BackingStore.indexes, BackingStore.indexes, List.getElem?_map, List.getElem?_map]
  show (s.store.tables.set i t')[j]?.map _ = _
  rw [List.getElem?_set]
  split
  · rename_i here
    rw [if_pos (List.getElem?_eq_some_iff.1 found).1, ← here, found]
    exact congrArg some edits.index
  · rfl

theorem isSound_setTable (found : s.store.tables[i]? = some t) (edits : t.Edits id t')
    (sound : ∀ t ∈ s.store.tables, t.IsSound) :
    ∀ t ∈ (s.setTable i t').store.tables, t.IsSound := by
  intro other member
  rcases List.mem_or_eq_of_mem_set member with before | rfl
  · exact sound other before
  · exact edits.isSound (sound t (List.mem_of_getElem? found))

theorem cardAt_setTable (found : s.store.tables[i]? = some t) (id : String) :
    (s.setTable i t').store.cardAt j id = if j = i then t'.card id else s.store.cardAt j id := by
  rw [BackingStore.cardAt]
  show ((s.store.tables.set i t')[j]?.map _).getD _ = _
  rw [List.getElem?_set]
  split
  · rename_i here
    rw [if_pos (List.getElem?_eq_some_iff.1 found).1, if_pos here.symm]
    rfl
  · rename_i elsewhere
    rw [if_neg (Ne.symm elsewhere)]
    rfl

theorem slice_setTable (found : s.store.tables[i]? = some t) (id : String) :
    (s.setTable i t').store.slice id = (s.store.slice id).setCard i (t'.card id) := by
  refine Slice.ext rfl (funext fun j => ?_)
  show (s.setTable i t').store.cardAt j id = ((s.store.slice id).setCard i (t'.card id)).cards j
  rw [cardAt_setTable found]
  split
  · rename_i here
    rw [here, Slice.cards_setCard]
  · rename_i elsewhere
    rw [Slice.cards_setCard_of_ne elsewhere]
    rfl

theorem slice_setTable_of_ne (found : s.store.tables[i]? = some t) (edits : t.Edits id t')
    (foreign : other ≠ id) : (s.setTable i t').store.slice other = s.store.slice other := by
  have same : t'.card other = (s.store.slice other).cards i :=
    (edits.card other foreign).trans (BackingStore.cardAt_of_table found other).symm
  rw [slice_setTable found, same, Slice.setCard_self]

theorem isHollow_setTable (hollow : (s.setTable i t').store.IsHollow j key) :
    (j = i ∧ t'.IsHollow key) ∨ (j ≠ i ∧ s.store.IsHollow j key) := by
  obtain ⟨t, found, empty⟩ := hollow
  have found : (s.store.tables.set i t')[j]? = some t := found
  rw [List.getElem?_set] at found
  split at found
  · rename_i here
    split at found
    · obtain rfl := Option.some_inj.1 found
      exact .inl ⟨here.symm, empty⟩
    · cases found
  · rename_i elsewhere
    exact .inr ⟨Ne.symm elsewhere, t, found, empty⟩

end SharedStore

/-! ## Standings -/

/-- What a call knows while it holds the entry of an ID. -/
structure Holding where
  /-- The number of the call. -/
  number : Nat
  id : String
  /-- What the store has of the ID. -/
  slice : Slice
  /-- The key that is to be dropped, and the place of its table. -/
  owed : Option (Nat × String)

namespace Holding

variable {h : Holding} {i : Nat} {c c' : Card}

/-- With another card in one of the tables, and nothing to be dropped. -/
def setCard (h : Holding) (i : Nat) (c : Card) : Holding :=
  { h with slice := h.slice.setCard i c, owed := none }

theorem setCard_setCard : (h.setCard i c).setCard i c' = h.setCard i c' := by
  rw [setCard, setCard, setCard, Slice.setCard_setCard]

theorem setCard_of_cards (nothing : h.owed = none) (same : h.slice.cards i = c) :
    h.setCard i c = h := by
  rw [setCard, ← same, Slice.setCard_self, ← nothing]

theorem cards_setCard : (h.setCard i c).slice.cards i = c := Slice.cards_setCard

theorem not_owed (nothing : h.owed = none) (i : Nat) (key : String) : h.owed ≠ some (i, key) := by
  rw [nothing]
  exact nofun

end Holding

namespace SharedStore

variable {indexes : List EntityIndex} {standings : Nat → Option Holding} {place number : Nat}
  {h h' : Holding} {s s' : SharedStore} {i : Nat} {id other : String} {t t' : IndexTable}

/-- What callers of a store keep. -/
structure Orderly (indexes : List EntityIndex) (standings : Nat → Option Holding)
    (s : SharedStore) : Prop where
  places : s.store.indexes = indexes
  sound : ∀ t ∈ s.store.tables, t.IsSound
  /-- A call holds what it stands for, and knows what the store has of it. -/
  held : ∀ p h, standings p = some h →
    s.held.get? h.id = some h.number ∧ s.store.slice h.id = h.slice
  /-- What is held is held by a call. -/
  manned : ∀ id, s.held.get? id ≠ none → ∃ p h, standings p = some h ∧ h.id = id
  alone : ∀ p q h h', standings p = some h → standings q = some h' → h.id = h'.id → p = q
  present : ∀ id, (s.store.slice id).IsPresent indexes
  settled : ∀ id, s.held.get? id = none → (s.store.slice id).IsSettled indexes
  owed : ∀ i key, s.store.IsHollow i key → ∃ p h, standings p = some h ∧ h.owed = some (i, key)

/-- The conduct of callers. -/
def orderly (indexes : List EntityIndex) : Conduct Unit (Option Holding) SharedStore where
  holds _ := Orderly indexes
  course := .free

/-- What a step does to the tables is confined to the ID whose entry a call holds, one of those for
which the call is made. -/
def Confined (number : Nat) (about : String → Prop) (standing : Option Holding)
    (s s' : SharedStore) : Prop :=
  ∀ i id, s'.store.cardAt i id ≠ s.store.cardAt i id →
    about id ∧ ∃ h, standing = some h ∧ h.number = number ∧ h.id = id

theorem confined_of_cards {about : String → Prop} {standing : Option Holding}
    (same : s'.store.tables = s.store.tables) : Confined number about standing s s' := by
  intro i id changed
  exact absurd (by rw [BackingStore.cardAt, BackingStore.cardAt, same]) changed

/-- After one standing has changed, what was stood for still is, if what is new goes on with it. -/
theorem exists_standing_update {fits : Holding → Prop} {standing : Option Holding}
    (before : ∃ p h, standings p = some h ∧ fits h)
    (goesOn : ∀ h, standings place = some h → fits h → ∃ h', standing = some h' ∧ fits h') :
    ∃ p h, Function.update standings place standing p = some h ∧ fits h := by
  obtain ⟨p, h, its, fit⟩ := before
  by_cases here : p = place
  · subst here
    obtain ⟨h', changed, fit'⟩ := goesOn h its fit
    exact ⟨p, h', (Function.update_self ..).trans changed, fit'⟩
  · exact ⟨p, h, (Function.update_of_ne here ..).trans its, fit⟩

/-- An ID is still held once, if nobody else holds the one that is held now. -/
theorem alone_update {standing : Option Holding}
    (alone : ∀ p q h h', standings p = some h → standings q = some h' → h.id = h'.id → p = q)
    (foreign : ∀ p h h', p ≠ place → standings p = some h → standing = some h' → h.id ≠ h'.id)
    (p q : Nat) (h h' : Holding) (first : Function.update standings place standing p = some h)
    (second : Function.update standings place standing q = some h') (both : h.id = h'.id) :
    p = q := by
  rw [Function.update_apply] at first second
  split at first <;> split at second
  · rename_i here there
    exact here.trans there.symm
  · rename_i apart
    exact absurd both.symm (foreign q h' h apart second first)
  · rename_i apart _
    exact absurd both (foreign p h h' apart first second)
  · exact alone p q h h' first second both

/-- A change to what the store has of an ID whose entry is held. The records are there, and no key
is left without IDs but one that is owed. -/
theorem Orderly.edit {store : BackingStore} (orderly : Orderly indexes standings s)
    (own : standings place = some h) (number : h'.number = h.number) (id : h'.id = h.id)
    (same : store.indexes = s.store.indexes) (sound : ∀ t ∈ store.tables, t.IsSound)
    (spares : ∀ other, other ≠ h.id → store.slice other = s.store.slice other)
    (slice : store.slice h.id = h'.slice) (there : h'.slice.records ≠ none)
    (hollow : ∀ i key, store.IsHollow i key →
      (s.store.IsHollow i key ∧ h.owed ≠ some (i, key)) ∨ h'.owed = some (i, key)) :
    Orderly indexes (Function.update standings place (some h')) { s with store } := by
  have foreign (p : Nat) (other : Holding) (apart : p ≠ place) (its : standings p = some other) :
      other.id ≠ h.id := fun same => apart (orderly.alone p place other h its own same)
  constructor
  case places => exact same.trans orderly.places
  case sound => exact sound
  case held =>
    -- The call that holds the entry sees what it has made of it; the others hold different
    -- entries.
    intro p other its
    rw [Function.update_apply] at its
    split at its
    · obtain rfl := Option.some_inj.1 its
      rw [id, number]
      exact ⟨(orderly.held place h own).1, slice⟩
    · rename_i apart
      obtain ⟨held, seen⟩ := orderly.held p other its
      exact ⟨held, (spares other.id (foreign p other apart its)).trans seen⟩
  case manned =>
    intro other held
    refine exists_standing_update (orderly.manned other held) fun holding its same => ?_
    obtain rfl := Option.some_inj.1 (own.symm.trans its)
    exact ⟨h', rfl, id.trans same⟩
  case alone =>
    refine alone_update orderly.alone fun p holding _ apart its same => ?_
    obtain rfl := Option.some_inj.1 same
    exact id ▸ foreign p holding apart its
  case present =>
    intro other
    by_cases same : other = h.id
    · intro none_
      exact absurd ((congrArg Slice.records (same ▸ slice)).symm.trans none_) there
    · show (store.slice other).IsPresent indexes
      rw [spares other same]
      exact orderly.present other
  case settled =>
    -- An entry that nobody holds is not the one that has changed.
    intro other free
    have apart : other ≠ h.id := by
      rintro rfl
      have held := (orderly.held place h own).1
      rw [show s.held.get? h.id = none from free] at held
      cases held
    show (store.slice other).IsSettled indexes
    rw [spares other apart]
    exact orderly.settled other free
  case owed =>
    -- Either the key was owed before and still is, by another call, or this call owes it now.
    intro i key empty
    rcases hollow i key empty with ⟨before, unowed⟩ | owed
    · refine exists_standing_update (orderly.owed i key before) fun holding its owes => ?_
      obtain rfl := Option.some_inj.1 (own.symm.trans its)
      exact absurd owes unowed
    · exact ⟨place, h', Function.update_self .., owed⟩

/-- An entry that nobody holds is taken. -/
theorem Orderly.take (orderly : Orderly indexes standings s) (own : standings place = none)
    (free : s.held.get? id = none) (number : Nat) :
    Orderly indexes (Function.update standings place (some ⟨number, id, s.store.slice id, none⟩))
      { s with held := s.held.insert id number } := by
  have foreign (p : Nat) (holding : Holding) (its : standings p = some holding) :
      holding.id ≠ id := by
    rintro rfl
    have held := (orderly.held p holding its).1
    rw [free] at held
    cases held
  have unheld (holding : Holding) : standings place ≠ some holding := by
    rw [own]
    exact nofun
  constructor
  case places => exact orderly.places
  case sound => exact orderly.sound
  case held =>
    intro p holding its
    rw [Function.update_apply] at its
    show (s.held.insert id number).get? _ = _ ∧ _
    rw [Keyed.get?_insert]
    split at its
    · obtain rfl := Option.some_inj.1 its
      exact ⟨if_pos rfl, rfl⟩
    · rw [if_neg (foreign p holding its)]
      exact orderly.held p holding its
  case manned =>
    -- What is held is held by the call that takes it, or was held before.
    intro other held
    have held : (s.held.insert id number).get? other ≠ none := held
    rw [Keyed.get?_insert] at held
    split at held
    · rename_i here
      exact ⟨place, _, Function.update_self .., here.symm⟩
    · exact exists_standing_update (orderly.manned other held)
        fun holding its _ => absurd its (unheld holding)
  case alone =>
    refine alone_update orderly.alone fun p holding _ _ its same => ?_
    obtain rfl := Option.some_inj.1 same
    exact foreign p holding its
  case present => exact orderly.present
  case settled =>
    intro other free'
    have free' : (s.held.insert id number).get? other = none := free'
    rw [Keyed.get?_insert] at free'
    split at free'
    · cases free'
    · exact orderly.settled other free'
  case owed =>
    -- The call stood for nothing before, so that it was not the one that owes the key.
    intro i key hollow
    exact exists_standing_update (orderly.owed i key hollow)
      fun holding its _ => absurd its (unheld holding)

/-- An entry is released, when what the tables have of its ID is what the records say. -/
theorem Orderly.letGo {store : BackingStore} (orderly : Orderly indexes standings s)
    (own : standings place = some h) (nothing : h.owed = none)
    (tables : store.tables = s.store.tables)
    (spares : ∀ other, other ≠ h.id → store.slice other = s.store.slice other)
    (present : (store.slice h.id).IsPresent indexes)
    (settled : (store.slice h.id).IsSettled indexes) :
    Orderly indexes (Function.update standings place none)
      { store, held := s.held.erase h.id } := by
  constructor
  case places => rw [← orderly.places, BackingStore.indexes, BackingStore.indexes, tables]
  case sound => exact fun t member => orderly.sound t (tables ▸ member)
  case held =>
    intro p holding its
    rw [Function.update_apply] at its
    split at its
    · cases its
    · rename_i apart
      obtain ⟨held, seen⟩ := orderly.held p holding its
      have foreign : holding.id ≠ h.id := fun same =>
        apart (orderly.alone p place _ _ its own same)
      refine ⟨?_, (spares holding.id foreign).trans seen⟩
      show (s.held.erase h.id).get? holding.id = _
      rw [Keyed.get?_erase, if_neg foreign]
      exact held
  case manned =>
    intro other held
    have held : (s.held.erase h.id).get? other ≠ none := held
    rw [Keyed.get?_erase] at held
    split at held
    · exact absurd rfl held
    · rename_i foreign
      refine exists_standing_update (orderly.manned other held) fun holding its same => ?_
      obtain rfl := Option.some_inj.1 (own.symm.trans its)
      exact absurd same.symm foreign
  case alone => exact alone_update orderly.alone fun _ _ _ _ _ none_ => by cases none_
  case present =>
    intro other
    show (store.slice other).IsPresent indexes
    by_cases same : other = h.id
    · exact same ▸ present
    · rw [spares other same]
      exact orderly.present other
  case settled =>
    -- One more entry is held by nobody: the one that is let go of, which is settled.
    intro other free
    have free : (s.held.erase h.id).get? other = none := free
    show (store.slice other).IsSettled indexes
    rw [Keyed.get?_erase] at free
    by_cases same : other = h.id
    · exact same ▸ settled
    · rw [if_neg same] at free
      rw [spares other same]
      exact orderly.settled other free
  case owed =>
    -- The call owes nothing, so that every key that is left without IDs is owed by another.
    intro i key hollow
    have before : s.store.IsHollow i key := by
      obtain ⟨t, found, empty⟩ := hollow
      exact ⟨t, tables ▸ found, empty⟩
    refine exists_standing_update (orderly.owed i key before) fun holding its owes => ?_
    obtain rfl := Option.some_inj.1 (own.symm.trans its)
    rw [nothing] at owes
    cases owes

/-! ## Where nobody holds anything -/

theorem orderly_of_isFiled {store : BackingStore} (filed : store.IsFiled) :
    Orderly store.indexes (fun _ => none) ⟨store, .empty⟩ := by
  have settled (id : String) : (store.slice id).IsSettled store.indexes := by
    intro i index found
    obtain ⟨t, there, rfl⟩ := BackingStore.exists_table found
    have member := List.mem_of_getElem? there
    have card : (store.slice id).cards i = t.card id := BackingStore.cardAt_of_table there id
    rw [card]
    exact ⟨fun key => ((filed.isMirrored t member).inverse id key).symm,
      filed.mem_iff t member id⟩
  constructor
  case places => rfl
  case sound =>
    intro t member
    exact ⟨fun key ids found => ((filed.isMirrored t member).entries_isProper key ids found).2,
      (filed.isMirrored t member).byEntity_isProper⟩
  case held => exact nofun
  case manned => exact fun id held => absurd rfl held
  case alone => exact nofun
  case present =>
    -- Without records there are no keys for an index to list the ID under.
    intro id none_ i inside
    obtain ⟨mirrored, under⟩ := settled id i _ (List.getElem?_eq_getElem inside)
    have blank (key : String) : ¬ ((store.slice id).cards i).under key := by
      rw [under, none_]
      rintro ⟨r, listed, -⟩
      cases listed
    refine Card.ext (funext fun key => propext ?_) (List.eq_nil_iff_forall_not_mem.2 fun key => ?_)
    · exact ⟨fun listed => absurd listed (blank key), fun listed => absurd listed List.not_mem_nil⟩
    · rw [mirrored]
      exact blank key
  case settled => exact fun id _ => settled id
  case owed =>
    -- In a table that is proper no key is left without IDs.
    rintro i key ⟨t, found, hollow⟩
    have member := List.mem_of_getElem? found
    exact absurd rfl ((filed.isMirrored t member).entries_isProper key [] hollow).1

theorem Orderly.isFiled (orderly : Orderly indexes standings s)
    (nobody : ∀ p, standings p = none) : s.store.IsFiled := by
  have free (id : String) : s.held.get? id = none := by
    by_contra held
    obtain ⟨p, h, its, -⟩ := orderly.manned id held
    rw [nobody p] at its
    cases its
  have settled {t : IndexTable} (member : t ∈ s.store.tables) (id : String) :
      (t.card id).IsMirrored ∧ ∀ key, (t.card id).under key ↔ s.store.Files t.index id key := by
    obtain ⟨i, found⟩ := List.mem_iff_getElem?.1 member
    rw [← BackingStore.cardAt_of_table found]
    exact orderly.settled id (free id) i t.index
      (orderly.places ▸ BackingStore.getElem?_indexes found)
  constructor
  · intro t member
    have sound := orderly.sound t member
    refine ⟨fun id key => ((settled member id).1 key).symm, fun key ids found => ⟨?_, ?_⟩,
      sound.byEntity_isProper⟩
    · rintro rfl
      obtain ⟨i, there⟩ := List.mem_iff_getElem?.1 member
      obtain ⟨p, h, its, -⟩ := orderly.owed i key ⟨t, there, found⟩
      rw [nobody p] at its
      cases its
    · exact sound.nodup key ids found
  · exact fun t member id => (settled member id).2

end SharedStore

end Federation
