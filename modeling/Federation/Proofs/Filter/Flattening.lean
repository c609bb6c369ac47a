/-
# How flattening lists the entities of a tree

A group and the groups in it are a tree, and an entity has a position in it: it is one of the
entities of the group, or has a position in one of the groups in it. Positions come in the order of
the document, the entities of a group before those of the groups in it. Flattening lists what is at
every position, once and in this order.

What a group states of validity and of caching holds for all that is in it. So an entity is listed
with the tightest of the bounds that it states and that the groups around its position state, and
with no bound if none of them states one. What stands elsewhere in the tree makes no difference to
it, and in all else it is listed as it is.

## Main definitions

- `Position`, `Position.Before`: where an entity stands, and the order of the document.
- `Group.at?`: the entity at a position, and the groups around it.
- `IsTightest`: the tightest of bounds that may be left out.

## Main results

- `Group.members_within`: the entities of a group are listed as they stand in it, within bounds.
- `Group.flattenWithin_eq_nil_iff`: nothing is listed exactly if the group is empty.
- `Group.flatten_inherits`: what is listed, in which order, and with which bounds.
-/

import Federation.Proofs.Filter.Signatures
import Mathlib.Data.List.Forall2

namespace Federation.Metadata

open Federation.Time

variable {g : Group} {groups outer : List Group} {e d : Entity} {validUntil : Option Instant}
  {cacheSeconds : Option Nat}

/-! ## Entities as they stand in a group -/

/-- The entities of a group are its own and those of the groups in it. -/
theorem Group.members_mk (name : Option String) (validUntil : Option Instant)
    (cacheSeconds : Option Nat) (entities : List Entity) (groups : List Group)
    (signature : Option Signature) :
    (Group.mk name validUntil cacheSeconds entities groups signature).inside.filterMap
        Document.entity?
      = entities ++ (Group.insideAll groups).filterMap Document.entity? := by
  have own : entities.filterMap (Document.entity? ∘ .entity) = entities := List.filterMap_some
  rw [Group.inside, List.filterMap_append, List.filterMap_map, own]

theorem Group.membersAll_cons (g : Group) (rest : List Group) :
    (Group.insideAll (g :: rest)).filterMap Document.entity?
      = g.inside.filterMap Document.entity?
        ++ (Group.insideAll rest).filterMap Document.entity? := by
  rw [Group.insideAll, ← List.filterMap_append]
  rfl

/-- An entity is listed as it stands in the document, within some bounds. -/
def Entity.IsListedAs (e d : Entity) : Prop :=
  ∃ validUntil cacheSeconds, d = e.within validUntil cacheSeconds

mutual

/-- The entities of a group are listed one by one as they stand in it. -/
theorem Group.members_within (g : Group) (validUntil : Option Instant)
    (cacheSeconds : Option Nat) :
    List.Forall₂ Entity.IsListedAs (g.inside.filterMap Document.entity?)
      (g.flattenWithin validUntil cacheSeconds) := by
  obtain ⟨name, until_, seconds, entities, groups, signature⟩ := g
  rw [Group.members_mk, Group.flattenWithin]
  refine List.rel_append ?_ (Group.membersAll_within groups _ _)
  rw [List.forall₂_map_right_iff, List.forall₂_same]
  exact fun e _ => ⟨_, _, rfl⟩

theorem Group.membersAll_within (groups : List Group) (validUntil : Option Instant)
    (cacheSeconds : Option Nat) :
    List.Forall₂ Entity.IsListedAs ((Group.insideAll groups).filterMap Document.entity?)
      (Group.flattenAll validUntil cacheSeconds groups) := by
  cases groups with
  | nil => exact .nil
  | cons g rest =>
    rw [Group.membersAll_cons, Group.flattenAll]
    exact List.rel_append (Group.members_within g _ _) (Group.membersAll_within rest _ _)

end

/-- The entities of a document are listed one by one as they stand in it. -/
theorem Document.members_within (document : Document) :
    List.Forall₂ Entity.IsListedAs document.members document.flatten := by
  cases document with
  | entity e => exact .cons ⟨none, none, e.within_none.symm⟩ .nil
  | group g => exact g.members_within none none

/-- Nothing is listed of a group exactly if it is empty. -/
theorem Group.flattenWithin_eq_nil_iff :
    g.flattenWithin validUntil cacheSeconds = [] ↔ g.isEmpty = true := by
  have same := (g.members_within validUntil cacheSeconds).length_eq
  rw [Group.isEmpty_iff, ← List.length_eq_zero_iff, ← List.length_eq_zero_iff, same]

/-! ## Positions -/

/-- Where an entity stands in a group: it is one of its entities, or stands somewhere in one of the
groups in it. -/
inductive Position where
  | own (index : Nat)
  | inner (group : Nat) (position : Position)
deriving DecidableEq, Repr

/-- An entity where it stands, with the groups around it, the outermost first. -/
structure Occurrence where
  around : List Group
  entity : Entity

/-- What stands at a position, if anything does. -/
def Group.at? (g : Group) : Position → Option Occurrence
  | .own index => g.entities[index]?.map fun e => ⟨[g], e⟩
  | .inner group position =>
    g.groups[group]?.bind fun below =>
      (below.at? position).map fun o => ⟨g :: o.around, o.entity⟩

namespace Position

/-- The order of the document: the entities of a group come before what is in the groups in it. -/
inductive Before : Position → Position → Prop where
  | own {i j : Nat} (less : i < j) : Before (.own i) (.own j)
  | ownFirst (i j : Nat) (p : Position) : Before (.own i) (.inner j p)
  | inGroup (j : Nat) {p q : Position} (less : Before p q) : Before (.inner j p) (.inner j q)
  | inOrder {i j : Nat} (less : i < j) (p q : Position) : Before (.inner i p) (.inner j q)

theorem Before.irrefl (p : Position) : ¬ p.Before p := by
  induction p with
  | own index =>
    rintro ⟨less⟩
    exact Nat.lt_irrefl index less
  | inner group position ih =>
    intro before
    cases before with
    | inGroup _ less => exact ih less
    | inOrder less _ _ => exact Nat.lt_irrefl group less

end Position

mutual

/-- The positions at which something stands, in the order of the document. -/
def Group.positions : Group → List Position
  | ⟨_, _, _, entities, groups, _⟩ =>
    (List.range entities.length).map .own ++ Group.positionsFrom 0 groups

/-- The positions in groups of which the first has a number. -/
def Group.positionsFrom (first : Nat) : List Group → List Position
  | [] => []
  | g :: rest => g.positions.map (.inner first) ++ Group.positionsFrom (first + 1) rest

end

theorem Group.mem_positionsFrom_iff {first : Nat} {p : Position} :
    p ∈ Group.positionsFrom first groups ↔
      ∃ index below q, groups[index]? = some below ∧ q ∈ below.positions ∧
        p = .inner (first + index) q := by
  induction groups generalizing first with
  | nil => simp [Group.positionsFrom]
  | cons g rest ih =>
    rw [Group.positionsFrom, List.mem_append, List.mem_map, ih]
    constructor
    · rintro (⟨q, inside, rfl⟩ | ⟨index, below, q, listed, inside, rfl⟩)
      · exact ⟨0, g, q, rfl, inside, rfl⟩
      · exact ⟨index + 1, below, q, listed, inside, by rw [Nat.add_right_comm, Nat.add_assoc]⟩
    · rintro ⟨index, below, q, listed, inside, rfl⟩
      cases index with
      | zero =>
        obtain rfl := Option.some_inj.1 listed
        exact .inl ⟨q, inside, rfl⟩
      | succ index =>
        exact .inr ⟨index, below, q, listed, inside, by rw [Nat.add_right_comm, Nat.add_assoc]⟩

theorem Group.own_mem_positions_iff {index : Nat} :
    .own index ∈ g.positions ↔ index < g.entities.length := by
  obtain ⟨name, validUntil, cacheSeconds, entities, groups, signature⟩ := g
  simp [Group.positions, Group.mem_positionsFrom_iff]

theorem Group.inner_mem_positions_iff {index : Nat} {p : Position} :
    .inner index p ∈ g.positions ↔ ∃ below, g.groups[index]? = some below ∧ p ∈ below.positions := by
  obtain ⟨name, validUntil, cacheSeconds, entities, groups, signature⟩ := g
  rw [Group.positions, List.mem_append, Group.mem_positionsFrom_iff]
  constructor
  · rintro (own | ⟨index', below, q, listed, inside, same⟩)
    · simp at own
    · obtain ⟨rfl, rfl⟩ := Position.inner.inj same
      rw [Nat.zero_add]
      exact ⟨below, listed, inside⟩
  · rintro ⟨below, listed, inside⟩
    exact .inr ⟨index, below, p, listed, inside, by rw [Nat.zero_add]⟩

/-- The positions are just those at which something stands. -/
theorem Group.mem_positions_iff {p : Position} : p ∈ g.positions ↔ ∃ o, g.at? p = some o := by
  induction p generalizing g with
  | own index =>
    rw [Group.own_mem_positions_iff, Group.at?, ← Option.isSome_iff_exists, Option.isSome_map]
    simp
  | inner index p ih =>
    rw [Group.inner_mem_positions_iff, Group.at?]
    simp only [ih, Option.bind_eq_some_iff, Option.map_eq_some_iff]
    constructor
    · rintro ⟨below, listed, o, found⟩
      exact ⟨_, below, listed, o, found, rfl⟩
    · rintro ⟨_, below, listed, o, found, -⟩
      exact ⟨below, listed, o, found⟩

mutual

/-- The positions are in the order of the document. -/
theorem Group.pairwise_positions (g : Group) : g.positions.Pairwise Position.Before := by
  obtain ⟨name, validUntil, cacheSeconds, entities, groups, signature⟩ := g
  rw [Group.positions, List.pairwise_append, List.pairwise_map]
  refine ⟨List.pairwise_lt_range.imp .own, Group.pairwise_positionsFrom 0 groups, ?_⟩
  intro p own q inner
  obtain ⟨i, -, rfl⟩ := List.mem_map.1 own
  obtain ⟨j, -, q, -, -, rfl⟩ := Group.mem_positionsFrom_iff.1 inner
  exact .ownFirst i _ q

theorem Group.pairwise_positionsFrom (first : Nat) (groups : List Group) :
    (Group.positionsFrom first groups).Pairwise Position.Before := by
  cases groups with
  | nil => exact .nil
  | cons g rest =>
    rw [Group.positionsFrom, List.pairwise_append, List.pairwise_map]
    refine ⟨(Group.pairwise_positions g).imp (.inGroup first ·),
      Group.pairwise_positionsFrom (first + 1) rest, ?_⟩
    intro p inFirst q later
    obtain ⟨p, -, rfl⟩ := List.mem_map.1 inFirst
    obtain ⟨j, -, q, -, -, rfl⟩ := Group.mem_positionsFrom_iff.1 later
    exact .inOrder (by omega) p q

end

/-! ## Tightest bounds -/

/-- The tightest of some bounds, each of which may be left out: there is none exactly if all are
left out, and otherwise it is one of them, and the least. -/
structure IsTightest {α : Type} [LE α] (stated : List (Option α)) (bound : Option α) : Prop where
  eq_none_iff : bound = none ↔ ∀ x ∈ stated, x = none
  mem : ∀ t, bound = some t → some t ∈ stated
  le : ∀ t u, bound = some t → some u ∈ stated → t ≤ u

namespace IsTightest

variable {α : Type} [LE α] {stated more : List (Option α)} {a b bound : Option α}

theorem nil : IsTightest ([] : List (Option α)) none := ⟨by simp, nofun, nofun⟩

/-- The tightest of the tightest bounds of two lists is that of both. -/
theorem append (trans : ∀ {x y z : α}, x ≤ y → y ≤ z → x ≤ z) (first : IsTightest stated a)
    (second : IsTightest more b) (both : IsTightest [a, b] bound) :
    IsTightest (stated ++ more) bound where
  eq_none_iff := by
    simp only [both.eq_none_iff, List.forall_mem_cons, List.forall_mem_append, first.eq_none_iff,
      second.eq_none_iff, List.not_mem_nil, false_imp_iff, implies_true, and_true]
  mem t least := by
    have one : some t = a ∨ some t = b := by simpa using both.mem t least
    rcases one with one | one
    · exact List.mem_append_left _ (first.mem t one.symm)
    · exact List.mem_append_right _ (second.mem t one.symm)
  le t u least listed := by
    rcases List.mem_append.1 listed with listed | listed
    · cases a with
      | none => cases first.eq_none_iff.1 rfl _ listed
      | some v => exact trans (both.le t v least List.mem_cons_self) (first.le v u rfl listed)
    · cases b with
      | none => cases second.eq_none_iff.1 rfl _ listed
      | some v =>
        exact trans (both.le t v least (List.mem_cons_of_mem _ List.mem_cons_self))
          (second.le v u rfl listed)

/-- A bound is the tightest of itself. -/
theorem singleton (refl : ∀ x : α, x ≤ x) (a : Option α) : IsTightest [a] a where
  eq_none_iff := by simp
  mem t same := by rw [same]; exact List.mem_cons_self
  le t u same listed := by
    obtain rfl : some u = a := List.mem_singleton.1 listed
    exact Option.some_inj.1 same ▸ refl u

/-- What takes the lesser of two bounds, and the one that is stated if the other is not, takes the
tightest. -/
theorem pair {tighter : Option α → Option α → Option α} {least : α → α → α}
    (refl : ∀ x : α, x ≤ x) (left : ∀ x y, least x y ≤ x) (right : ∀ x y, least x y ≤ y)
    (either : ∀ x y, least x y = x ∨ least x y = y)
    (both : ∀ x y, tighter (some x) (some y) = some (least x y))
    (onlyLeft : ∀ x, tighter x none = x) (onlyRight : ∀ y, tighter none y = y)
    (a b : Option α) : IsTightest [a, b] (tighter a b) := by
  cases a with
  | none =>
    rw [onlyRight]
    have alone := singleton refl b
    refine ⟨by simp, fun t same => List.mem_cons_of_mem _ (alone.mem t same), ?_⟩
    intro t u same listed
    exact alone.le t u same ((List.mem_cons.1 listed).resolve_left nofun)
  | some x =>
    cases b with
    | none =>
      rw [onlyLeft]
      refine ⟨by simp, fun t same => same ▸ List.mem_cons_self, fun t u same listed => ?_⟩
      have single : some u ∈ [some x] := by simpa using listed
      exact (singleton refl (some x)).le t u same single
    | some y =>
      rw [both]
      refine ⟨by simp, fun t same => ?_, fun t u same listed => ?_⟩
      · obtain rfl := Option.some_inj.1 same
        rcases either x y with is | is <;> simp [is]
      · obtain rfl := Option.some_inj.1 same
        have listed : u = x ∨ u = y := by simpa using listed
        rcases listed with rfl | rfl
        · exact left _ _
        · exact right _ _

end IsTightest

theorem isTightest_tighterInstant (a b : Option Instant) :
    IsTightest [a, b] (tighterInstant a b) :=
  .pair Instant.le_refl Instant.earliest_le_left Instant.earliest_le_right
    (fun x y => by rw [Instant.earliest]; split <;> simp) (fun _ _ => rfl)
    (fun x => by cases x <;> rfl) (fun y => by cases y <;> rfl) a b

theorem isTightest_tighterSeconds (a b : Option Nat) :
    IsTightest [a, b] (tighterSeconds a b) :=
  .pair Nat.le_refl Nat.min_le_left Nat.min_le_right (fun x y => by omega) (fun _ _ => rfl)
    (fun x => by cases x <;> rfl) (fun y => by cases y <;> rfl) a b

/-! ## What flattening lists -/

/-- An entity as it is listed: with the tightest of the bounds that it and the groups around it
state, and in all else as it is. -/
structure Occurrence.Inherits (o : Occurrence) (d : Entity) : Prop where
  validUntil : IsTightest (o.entity.validUntil :: o.around.map (·.validUntil)) d.validUntil
  cacheSeconds :
    IsTightest (o.entity.cacheSeconds :: o.around.map (·.cacheSeconds)) d.cacheSeconds
  unchanged : d = { o.entity with validUntil := d.validUntil, cacheSeconds := d.cacheSeconds }

/-- The bounds of groups are the tightest that they state. -/
structure Bounds (outer : List Group) (validUntil : Option Instant) (cacheSeconds : Option Nat) :
    Prop where
  validUntil : IsTightest (outer.map (·.validUntil)) validUntil
  cacheSeconds : IsTightest (outer.map (·.cacheSeconds)) cacheSeconds

theorem bounds_nil : Bounds [] none none := ⟨.nil, .nil⟩

/-- What one more group states makes the bounds tighter. -/
theorem Bounds.concat (bounds : Bounds outer validUntil cacheSeconds) (g : Group) :
    Bounds (outer ++ [g]) (tighterInstant validUntil g.validUntil)
      (tighterSeconds cacheSeconds g.cacheSeconds) where
  validUntil := by
    rw [List.map_append]
    exact bounds.validUntil.append Instant.le_trans (.singleton Instant.le_refl _)
      (isTightest_tighterInstant _ _)
  cacheSeconds := by
    rw [List.map_append]
    exact bounds.cacheSeconds.append Nat.le_trans (.singleton Nat.le_refl _)
      (isTightest_tighterSeconds _ _)

/-- An entity within the bounds of the groups around it is listed as it should be. -/
theorem Bounds.inherits (bounds : Bounds outer validUntil cacheSeconds) (e : Entity) :
    Occurrence.Inherits ⟨outer, e⟩ (e.within validUntil cacheSeconds) where
  validUntil := (IsTightest.singleton Instant.le_refl e.validUntil).append Instant.le_trans
    bounds.validUntil (isTightest_tighterInstant _ _)
  cacheSeconds := (IsTightest.singleton Nat.le_refl e.cacheSeconds).append Nat.le_trans
    bounds.cacheSeconds (isTightest_tighterSeconds _ _)
  unchanged := rfl

/-- What is listed is what stands at a position, within more groups. -/
def Group.Lists (g : Group) (outer : List Group) (p : Position) (d : Entity) : Prop :=
  ∃ o, g.at? p = some o ∧ Occurrence.Inherits ⟨outer ++ o.around, o.entity⟩ d

/-- The entities of a group itself are listed at its own positions. -/
theorem Group.lists_own (bounds : Bounds (outer ++ [g]) validUntil cacheSeconds) :
    List.Forall₂ (g.Lists outer) ((List.range g.entities.length).map .own)
      (g.entities.map (·.within validUntil cacheSeconds)) := by
  rw [List.forall₂_map_left_iff, List.forall₂_map_right_iff, List.forall₂_iff_get]
  refine ⟨List.length_range, fun index short short' => ?_⟩
  have found : g.at? (.own index) = some ⟨[g], g.entities[index]⟩ := by
    rw [Group.at?, List.getElem?_eq_getElem short']
    rfl
  simp only [List.get_eq_getElem, List.getElem_range]
  exact ⟨_, found, bounds.inherits _⟩

/-- What stands in a group in a group stands in that. -/
theorem Group.lists_inner {inner : Group} {index : Nat} {p : Position}
    (listed : g.groups[index]? = some inner) (lists : inner.Lists (outer ++ [g]) p d) :
    g.Lists outer (.inner index p) d := by
  obtain ⟨o, found, inherits⟩ := lists
  rw [List.append_assoc] at inherits
  refine ⟨⟨g :: o.around, o.entity⟩, ?_, inherits⟩
  rw [Group.at?, listed, Option.bind_some, found, Option.map_some]

mutual

/-- Within the bounds of the groups around it, a group is listed position by position. -/
theorem Group.lists_flattenWithin (g : Group) {outer : List Group} {validUntil : Option Instant}
    {cacheSeconds : Option Nat} (bounds : Bounds outer validUntil cacheSeconds) :
    List.Forall₂ (g.Lists outer) g.positions (g.flattenWithin validUntil cacheSeconds) := by
  obtain ⟨name, until_, seconds, entities, groups, signature⟩ := g
  have tighter := bounds.concat ⟨name, until_, seconds, entities, groups, signature⟩
  have below := Group.lists_flattenAll groups 0 tighter
  rw [Group.positions, Group.flattenWithin]
  refine List.rel_append (Group.lists_own tighter) (below.imp ?_)
  rintro p d ⟨index, inner, q, listed, rfl, lists⟩
  rw [Nat.zero_add]
  exact Group.lists_inner listed lists

theorem Group.lists_flattenAll (groups : List Group) (first : Nat) {outer : List Group}
    {validUntil : Option Instant} {cacheSeconds : Option Nat}
    (bounds : Bounds outer validUntil cacheSeconds) :
    List.Forall₂
      (fun p d => ∃ index inner q, groups[index]? = some inner ∧ p = .inner (first + index) q ∧
        inner.Lists outer q d)
      (Group.positionsFrom first groups) (Group.flattenAll validUntil cacheSeconds groups) := by
  cases groups with
  | nil => exact .nil
  | cons g rest =>
    have own := Group.lists_flattenWithin g bounds
    have others := Group.lists_flattenAll rest (first + 1) bounds
    rw [Group.positionsFrom, Group.flattenAll]
    refine List.rel_append ?_ (others.imp ?_)
    · rw [List.forall₂_map_left_iff]
      exact own.imp fun q d lists => ⟨0, g, q, rfl, rfl, lists⟩
    · rintro p d ⟨index, inner, q, listed, rfl, lists⟩
      exact ⟨index + 1, inner, q, listed, by rw [Nat.add_right_comm, Nat.add_assoc], lists⟩

end

/-- **Flattening gives every entity the tightest bounds around it.** Of any tree, what stands at
each position is listed once, in the order of the document. It is listed with the tightest of the
bounds that it and the groups around it state, none if they state none, and is otherwise unchanged.
Nothing is listed exactly if the tree is empty. -/
theorem Group.flatten_inherits (g : Group) :
    ∃ positions : List Position,
      positions.Pairwise Position.Before ∧ positions.Nodup ∧
      (∀ p, p ∈ positions ↔ ∃ o, g.at? p = some o) ∧
      List.Forall₂ (fun p d => ∃ o, g.at? p = some o ∧ o.Inherits d) positions
        (Document.group g).flatten ∧
      ((Document.group g).flatten = [] ↔ g.isEmpty = true) := by
  have ordered := g.pairwise_positions
  refine ⟨g.positions, ordered, ordered.imp ?_, fun p => Group.mem_positions_iff,
    g.lists_flattenWithin bounds_nil, Group.flattenWithin_eq_nil_iff⟩
  rintro p _ before rfl
  exact Position.Before.irrefl p before

end Federation.Metadata
