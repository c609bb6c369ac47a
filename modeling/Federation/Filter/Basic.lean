/-
# Filters

A filter looks at a document before it is cached. It may change the document, suppress it,
or reject it with a failure. Most filters work on entities one by one: an entity is kept,
changed or dropped, and groups that lose their last entity go with it, save the root.
-/

import Federation.Metadata.Document
import Federation.Failure

namespace Federation.Filter

open Federation.Metadata Federation.Time

/-- What a filter knows besides the document. -/
structure Context where
  now : Instant
  /-- The resolver that fetched the document. -/
  source : String

/-- Works on one entity: a failure, nothing to drop it, or what takes its place. -/
abbrev EntityMap := Entity → Except Failure (Option Entity)

/-- Works on the entities of a list, up to the first failure. -/
def mapList (f : EntityMap) : List Entity → Except Failure (List Entity)
  | [] => .ok []
  | e :: rest =>
    match f e with
    | .error failure => .error failure
    | .ok kept =>
      match mapList f rest with
      | .error failure => .error failure
      | .ok others => .ok (kept.toList ++ others)

mutual

/-- Works on every entity of a group. Groups in it that are left empty are removed. -/
def mapGroup (f : EntityMap) : Group → Except Failure Group
  | ⟨name, validUntil, cacheSeconds, entities, groups, signature⟩ =>
    match mapList f entities with
    | .error failure => .error failure
    | .ok entities =>
      match mapGroups f groups with
      | .error failure => .error failure
      | .ok groups => .ok ⟨name, validUntil, cacheSeconds, entities, groups, signature⟩

/-- Works on every entity of a list of groups and keeps the groups that are not empty. -/
def mapGroups (f : EntityMap) : List Group → Except Failure (List Group)
  | [] => .ok []
  | g :: rest =>
    match mapGroup f g with
    | .error failure => .error failure
    | .ok g =>
      match mapGroups f rest with
      | .error failure => .error failure
      | .ok others => .ok (if g.isEmpty then others else g :: others)

end

/-- Works on every entity of a document. -/
def mapDocument (f : EntityMap) : Document → Except Failure (Option Document)
  | .entity e => (f e).map (·.map .entity)
  | .group g => (mapGroup f g).map fun g => some (.group g)

/-- Which entities a rule is about. -/
inductive Target where
  | ids (ids : List String)
  | carrying (name value : String)
  | registrar (authority : String)
deriving DecidableEq, Repr

/-- Is an entity one of those? -/
def Target.includes : Target → Entity → Bool
  | .ids listed, e => listed.contains e.entityId
  | .carrying name value, e => ((e.attributes.get? name).getD []).contains value
  | .registrar authority, e => e.registrar == some authority

end Federation.Filter
