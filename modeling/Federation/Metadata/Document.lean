/-
# Documents

A document describes one entity or a group of them. Groups nest, and what a group states
about validity and caching holds for everything in it: flattening a document gives every
entity the tightest of the bounds that it and the groups around it state.
-/

import Federation.Metadata.Entity

namespace Federation.Metadata

open Federation.Time

/-- A group of entities and of further groups. -/
structure Group where
  name : Option String
  validUntil : Option Instant
  cacheSeconds : Option Nat
  entities : List Entity
  groups : List Group
  signature : Option Signature
deriving Repr

namespace Group

/-- A group that states nothing but its entities. -/
def ofEntities (entities : List Entity) : Group :=
  ⟨none, none, none, entities, [], none⟩

mutual

/-- A group is empty when neither it nor any group in it has an entity. -/
def isEmpty : Group → Bool
  | ⟨_, _, _, entities, groups, _⟩ => entities.isEmpty && allEmpty groups

/-- Are all groups of a list empty? -/
def allEmpty : List Group → Bool
  | [] => true
  | g :: rest => g.isEmpty && allEmpty rest

end

end Group

/-- The earlier of two optional instants, if one is given. -/
def tighterInstant : Option Instant → Option Instant → Option Instant
  | some a, some b => some (a.earliest b)
  | a, none => a
  | none, b => b

/-- The smaller of two optional numbers, if one is given. -/
def tighterSeconds : Option Nat → Option Nat → Option Nat
  | some a, some b => some (min a b)
  | a, none => a
  | none, b => b

/-- An entity with the bounds of a group around it. -/
def Entity.within (e : Entity) (validUntil : Option Instant) (cacheSeconds : Option Nat) : Entity :=
  { e with
    validUntil := tighterInstant e.validUntil validUntil
    cacheSeconds := tighterSeconds e.cacheSeconds cacheSeconds }

/-- A group that states no bounds changes nothing. -/
theorem Entity.within_none (e : Entity) : e.within none none = e := by
  obtain ⟨entityId, roles, validUntil, cacheSeconds⟩ := e
  cases validUntil <;> cases cacheSeconds <;> rfl

mutual

/-- The entities of a group under given bounds: its own first, then those of the groups in
it, in order. -/
def Group.flattenWithin (validUntil : Option Instant) (cacheSeconds : Option Nat) :
    Group → List Entity
  | ⟨_, until_, seconds, entities, groups, _⟩ =>
    entities.map (·.within (tighterInstant validUntil until_) (tighterSeconds cacheSeconds seconds))
      ++ Group.flattenAll (tighterInstant validUntil until_) (tighterSeconds cacheSeconds seconds)
        groups

/-- The entities of a list of groups under given bounds. -/
def Group.flattenAll (validUntil : Option Instant) (cacheSeconds : Option Nat) :
    List Group → List Entity
  | [] => []
  | g :: rest =>
    g.flattenWithin validUntil cacheSeconds ++ Group.flattenAll validUntil cacheSeconds rest

end

/-- The entities of a group with the tightest bounds stated around them. -/
def Group.flatten (g : Group) : List Entity := g.flattenWithin none none

/-- A document has one entity or a group as its root. -/
inductive Document where
  | entity (e : Entity)
  | group (g : Group)
deriving Repr

namespace Document

/-- The instant until which the root is valid. -/
def validUntil : Document → Option Instant
  | entity e => e.validUntil
  | group g => g.validUntil

/-- The seconds for which the root may be cached. -/
def cacheSeconds : Document → Option Nat
  | entity e => e.cacheSeconds
  | group g => g.cacheSeconds

/-- The signature of the root. -/
def signature : Document → Option Signature
  | entity e => e.signature
  | group g => g.signature

/-- All entities of a document. A single entity is listed as it is. -/
def flatten : Document → List Entity
  | entity e => [e]
  | group g => g.flatten

/-- The IDs of all entities. -/
def entityIds (d : Document) : List String :=
  d.flatten.map (·.entityId)

end Document

end Federation.Metadata
