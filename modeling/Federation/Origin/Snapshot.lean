/-
# Snapshots

An origin that loads everything it has keeps it grouped by the IDs of the entities, so that a
query for an ID is answered by looking it up. What is under an ID are the descriptions of that
entity, in the order in which they were listed.
-/

import Federation.Criteria
import Federation.Keyed
import Federation.Metadata.Document

namespace Federation

open Federation.Metadata

/-- The entities that an origin keeps: under each ID the descriptions of that entity. -/
structure Snapshot where
  groups : Keyed String (List Entity)

namespace Snapshot

/-- Nothing is kept. -/
def empty : Snapshot := ⟨.empty⟩

/-- Adds a description behind the others of its entity. -/
def add (snapshot : Snapshot) (e : Entity) : Snapshot :=
  ⟨snapshot.groups.insert e.entityId ((snapshot.groups.get? e.entityId).getD [] ++ [e])⟩

/-- Groups entities by their IDs. -/
def ofEntities (entities : List Entity) : Snapshot := entities.foldl add empty

/-- The document that answers a query for an ID: a description that is the only one of its
entity, or a group of all of them. -/
def answer (snapshot : Snapshot) (query : Criteria) : Option Document :=
  match query.entityId.bind snapshot.groups.get? with
  | none => none
  | some [e] => some (.entity e)
  | some many => some (.group (.ofEntities many))

theorem get?_add (snapshot : Snapshot) (e : Entity) (id : String) :
    (snapshot.add e).groups.get? id
      = if e.entityId = id then some ((snapshot.groups.get? id).getD [] ++ [e])
        else snapshot.groups.get? id := by
  rw [add, Keyed.get?_insert]
  by_cases own : e.entityId = id
  · simp [own]
  · simp [own, Ne.symm own]

/-- Entities are added behind those of the same ID, in their order. -/
theorem get?_foldl_add (entities : List Entity) (snapshot : Snapshot) (id : String) :
    (entities.foldl add snapshot).groups.get? id
      = if entities.filter (·.entityId = id) = [] then snapshot.groups.get? id
        else some ((snapshot.groups.get? id).getD [] ++ entities.filter (·.entityId = id)) := by
  induction entities generalizing snapshot with
  | nil => rfl
  | cons e rest ih =>
    rw [List.foldl_cons, ih, get?_add]
    by_cases own : e.entityId = id
    · by_cases last : rest.filter (·.entityId = id) = []
      · simp [own, last]
      · simp [own, last]
    · simp [own]

/-- **Looking an ID up** gives the entities that have it, in their order. Nothing is kept for an
ID that none has. -/
theorem get?_ofEntities (entities : List Entity) (id : String) :
    (ofEntities entities).groups.get? id
      = if entities.filter (·.entityId = id) = [] then none
        else some (entities.filter (·.entityId = id)) := by
  rw [ofEntities, get?_foldl_add]
  rfl

end Snapshot

end Federation
