/-
# Warm starts

At the start the store may be filled from the persistent cache. Copies go through filters
again; those that are not valid any longer are deleted, those under a key that is not their
own are moved, and those that cannot be read are left alone. An entity that is in the store
already is not replaced.
-/

import Federation.Resolver.Basic

namespace Federation.Resolver

open Federation.Metadata Federation.Time

variable {ε : Type}

/-- Takes a key out of the cache; a failure is passed over. -/
def dropKey (key : String) : Task (ResolverState ε) Unit := do
  let _ ← (onCache (·.remove key)).attempt

/-- Moves a copy to the key it should have. If that key is taken the copy is dropped. -/
def moveKey (key expected : String) : Task (ResolverState ε) Unit := do
  match ← (onCache (·.rename key expected)).attempt with
  | .error (.alreadyExists _) => dropKey key
  | _ => pure ()

/-- Takes in one description from under a key; tells whether it was cached. -/
def loadEntity (r : Resolver ε) (p : Persistence) (now : Instant) (key : String) (e : Entity) :
    Task (ResolverState ε) Bool := do
  if !e.isValidAt now then
    dropKey key
    return false
  else
    -- A copy is put in its place whether it is of use or not.
    if p.keyOf e ≠ key then moveKey key (p.keyOf e)
    if ← Task.read fun s => s.store.contains e.entityId then return false
    else return !(← r.insertRecords e.entityId [e] now).isEmpty

/-- The descriptions that are left of the copy under a key after filtering. -/
def readKey (r : Resolver ε) (now : Instant) (key : String) :
    Task (ResolverState ε) (List Entity) := do
  match ← (onCache (·.load key)).attempt with
  | .error _ => return []
  | .ok none => return []
  | .ok (some e) =>
    match FilterChain.apply ⟨now, r.id⟩ r.warmFilters (.entity e) with
    | .ok (some document) => return document.flatten
    | _ => return []

/-- Takes in the copies under keys, until the resolver is destroyed; gives the number of
descriptions that were cached. -/
def loadKeys (r : Resolver ε) (p : Persistence) (now : Instant) :
    List String → Task (ResolverState ε) Nat
  | [] => pure 0
  | key :: rest => do
    -- Every key may take a while to read, so the end of the resolver may come in between.
    if (← Task.read (·.lifecycle)) = .destroyed then return 0
    else
      let entities ← r.readKey now key
      let loaded ← Task.collect entities (r.loadEntity p now key)
      let others ← r.loadKeys p now rest
      return loaded.count true + others

/-- Fills the store from the persistent cache; gives the number of descriptions. -/
def loadCache (r : Resolver ε) : Task (ResolverState ε) Nat := do
  match r.persistence with
  | none => return 0
  | some p =>
    match ← (onCache (·.list)).attempt with
    | .error _ => return 0
    | .ok keys =>
      let now ← Task.read (·.now)
      -- The keys go in order, since the first copy of an entity is the one that is taken.
      let loaded ← r.loadKeys p now (keys.mergeSort fun a b => a ≤ b)
      r.gaugeSize
      return loaded

/-- The warm start in the background: it waits until it is asked for, and is given up when
the resolver is destroyed. -/
def warmUpTask (r : Resolver ε) : Task (ResolverState ε) Unit :=
  Task.givenUpIf (fun s => s.warmUp = .abandoned) do
    .waitFor fun s => s.warmUp = .requested
    let _ ← r.loadCache

end Federation.Resolver
