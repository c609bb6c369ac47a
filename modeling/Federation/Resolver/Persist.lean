/-
# Copies in the persistent cache

What is fetched is written through to the persistent cache, and what turns out not to exist
is taken out of it. Failures of the cache are counted or passed over: the copy in the store
serves all the same.
-/

import Federation.Resolver.Basic

namespace Federation.Resolver

open Federation.Metadata

variable {ε : Type}

/-- Writes one description to the cache; a failure is counted. -/
def persistOne (p : Persistence) (e : Entity) : Task (ResolverState ε) Unit := do
  match ← (onCache (·.save (p.keyOf e) e true)).attempt with
  | .ok () => pure ()
  | .error _ => ResolverState.count (.error "persist_failed" "resolver")

/-- Writes descriptions to the cache, if there is one. -/
def persist (r : Resolver ε) (entities : List Entity) : Task (ResolverState ε) Unit :=
  match r.persistence with
  | none => pure ()
  | some p => .forEach entities (persistOne p)

/-- The keys under which records of an entity are kept; without records, the key of an
entity of which only the ID is known. -/
def keysOf (p : Persistence) (id : String) (records : List CacheRecord) : List String :=
  match records with
  | [] => [p.keyOf (.ofId id)]
  | records => (records.map fun r => p.keyOf r.entity).eraseDups

/-- Takes an entity out of the cache, if there is one; failures are passed over. -/
def unpersist (r : Resolver ε) (id : String) (records : List CacheRecord) :
    Task (ResolverState ε) Unit :=
  match r.persistence with
  | none => pure ()
  | some p => .forEach (keysOf p id records) fun key => do
      let _ ← (onCache (·.remove key)).attempt

end Federation.Resolver
