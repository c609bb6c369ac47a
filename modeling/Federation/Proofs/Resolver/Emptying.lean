/-
# Emptying a directory

Clearing a resolver drops what is in the store, and then removes from the persistent cache every key
that is listed. In a directory listed keys may be refused, since any file is listed that is there.
Clearing stops at the first of them. Those before it were removed by then; it and those after it
stay, and whatever copies they hold. A directory is emptied just if all that it lists are proper
names.

## Main definitions

- `Resolver.removing`: removing one key.
- `Resolver.emptied`: a state in which everything was dropped but the persistent cache.

## Main results

- `run_clear`: what clearing comes to.
- `exists_run_removing`: what removing keys comes to, one after another.
- `clear_stops`, `clear_empties`: clearing stops at the first key that cannot be used, if there is one.
- `clear_empties_iff`: which directories are emptied.
-/

import Federation.Proofs.Cache.Listing
import Federation.Proofs.Resolver.Absence

namespace Federation

open Federation.Metadata Federation.Time Federation.Task

namespace Resolver

variable {ε : Type} {s : ResolverState ε} {d left : DirectoryCache} {p : Persistence} {key : String}
  {before rest : List String}

/-- Removing one key from the persistent cache. -/
def removing (key : String) : Task (ResolverState ε) Unit := do
  let _ ← onCache (·.remove key)

/-- The state in which everything was dropped but the persistent cache. -/
def emptied (r : Resolver ε) (s : ResolverState ε) : ResolverState ε :=
  { s with
    store := s.store.clear
    negative := .empty
    metrics := s.metrics.set (.storedEntities r.id) s.store.clear.size }

/-- Clearing empties the store and the markers, and then removes whatever the directory lists. -/
theorem run_clear (r : Resolver ε) (persistent : r.persistence = some p)
    (ready : s.lifecycle = .initialized) (kept : s.cache = .directory d) :
    r.clear.run s = (forEach d.list removing).run (r.emptied s) := by
  rw [clear, requireInitialized, run_then, run_then, run_read, ready, proceed_ok]
  dsimp only
  rw [run_pure, proceed_ok, run_then, run_change, proceed_ok, run_then, gaugeSize, run_change,
    proceed_ok, persistent]
  dsimp only
  rw [run_then, run_onCache, kept]
  show (forEach d.list removing).run { r.emptied s with cache := .directory d } = _
  rw [← kept]
  rfl

theorem run_removing (kept : s.cache = .directory d) :
    (removing key).run s
      = ((Outcome.ofExcept (d.remove key).1).map fun _ => (),
        { s with cache := .directory (d.remove key).2 }) := by
  rw [removing, run_then, run_onCache, kept]
  show proceed _ (Outcome.ofExcept (d.remove key).1, _) = _
  cases (d.remove key).1 <;> rfl

/-- Proper names at the front of the listing are removed, one after another. -/
theorem exists_run_removing (proper : ∀ key ∈ before, DirectoryCache.IsProper key)
    (listed : d.list = before ++ rest) (kept : s.cache = .directory d) :
    ∃ left : DirectoryCache, left.list = rest ∧
      (forEach d.list removing).run s
        = (forEach rest removing).run { s with cache := .directory left } := by
  -- The directory is another one after each key, with the rest of the listing.
  induction before generalizing d s with
  | nil =>
    refine ⟨d, listed, ?_⟩
    rw [← kept, listed]
    rfl
  | cons key others ih =>
    obtain ⟨first, later⟩ := List.forall_mem_cons.1 proper
    obtain ⟨next, removed, front⟩ := DirectoryCache.exists_remove_of_list listed first
    obtain ⟨left, back, ran⟩ := ih later front (s := { s with cache := .directory next }) rfl
    refine ⟨left, back, ?_⟩
    rw [← ran, listed, List.cons_append, forEach, run_bind, run_removing kept, removed, front]
    rfl

/-- A name that is not proper ends the removal of keys. -/
theorem run_removing_of_not_isProper (improper : ¬ DirectoryCache.IsProper key)
    (kept : s.cache = .directory d) :
    (forEach (key :: rest) removing).run s = (.failed (DirectoryCache.refusal key), s) := by
  rw [forEach, run_bind, run_removing kept, DirectoryCache.remove_of_not_isProper d improper]
  show (_, { s with cache := .directory d }) = _
  rw [← kept]

/-- Clearing stops at the first listed key that cannot be used. -/
theorem clear_stops {after : List String} (r : Resolver ε) (persistent : r.persistence = some p)
    (ready : s.lifecycle = .initialized) (kept : s.cache = .directory d)
    (split : d.list = before ++ key :: after) (earlier : ∀ other ∈ before, d.Usable other)
    (fails : ¬ d.Usable key) :
    (r.clear.run s).1 = .failed (DirectoryCache.refusal key) ∧
      (r.clear.run s).2.cache.list.1 = .ok (key :: after) := by
  have proper (other : String) (listed : other ∈ before) : DirectoryCache.IsProper other := by
    have among : other ∈ d.list := split ▸ List.mem_append_left _ listed
    exact (DirectoryCache.usable_iff_isProper among).1 (earlier other listed)
  have improper : ¬ DirectoryCache.IsProper key := by
    have among : key ∈ d.list := split ▸ List.mem_append_right _ List.mem_cons_self
    exact mt (DirectoryCache.usable_iff_isProper among).2 fails
  obtain ⟨left, back, ran⟩ := exists_run_removing (s := r.emptied s) proper split kept
  rw [run_clear r persistent ready kept, ran, run_removing_of_not_isProper improper rfl]
  exact ⟨rfl, congrArg Except.ok back⟩

/-- Clearing removes all keys that are listed, if all of them can be used. -/
theorem clear_empties (r : Resolver ε) (persistent : r.persistence = some p)
    (ready : s.lifecycle = .initialized) (kept : s.cache = .directory d)
    (usable : ∀ key ∈ d.list, d.Usable key) :
    (r.clear.run s).1 = .ok () ∧ (r.clear.run s).2.cache.list.1 = .ok [] := by
  have proper (key : String) (listed : key ∈ d.list) : DirectoryCache.IsProper key :=
    (DirectoryCache.usable_iff_isProper listed).1 (usable key listed)
  obtain ⟨left, back, ran⟩ :=
    exists_run_removing (s := r.emptied s) proper (List.append_nil _).symm kept
  rw [run_clear r persistent ready kept, ran]
  exact ⟨rfl, congrArg Except.ok back⟩

/-- **Which directories are emptied.** A listed key can be used just if it is a proper name. Clearing
succeeds and leaves nothing listed just if all listed keys can be used. Otherwise it fails for the
first of them that cannot, and this and all that are listed after it stay. -/
theorem clear_empties_iff (r : Resolver ε) (persistent : r.persistence.isSome = true)
    (ready : s.lifecycle = .initialized) (kept : s.cache = .directory d) :
    (∀ key ∈ d.list, d.Usable key ↔ DirectoryCache.IsProper key) ∧
    ((r.clear.run s).1 = .ok () ∧ (r.clear.run s).2.cache.list.1 = .ok [] ↔
      ∀ key ∈ d.list, d.Usable key) ∧
    ∀ before key after, d.list = before ++ key :: after → (∀ other ∈ before, d.Usable other) →
      ¬ d.Usable key →
        (r.clear.run s).1 = .failed (DirectoryCache.refusal key) ∧
          (r.clear.run s).2.cache.list.1 = .ok (key :: after) := by
  obtain ⟨p, persistent⟩ := Option.isSome_iff_exists.1 persistent
  refine ⟨fun key listed => DirectoryCache.usable_iff_isProper listed,
    ⟨?_, clear_empties r persistent ready kept⟩,
    fun _ _ _ split => clear_stops r persistent ready kept split⟩
  -- Were there a key that cannot be used, clearing would have stopped at the first of them.
  rintro ⟨succeeds, -⟩
  by_contra unusable
  classical
  obtain ⟨key, first⟩ : ∃ key, d.list.find? (fun key => ¬ d.Usable key) = some key := by
    rw [← Option.isSome_iff_exists, List.find?_isSome]
    simpa using unusable
  obtain ⟨fails, before, after, split, earlier⟩ := List.find?_eq_some_iff_append.1 first
  have refused := clear_stops r persistent ready kept split (by simpa using earlier)
    (by simpa using fails)
  cases succeeds.symm.trans refused.1

/-- A directory with one file, which holds a copy. -/
def stocked (name : String) : DirectoryCache :=
  ⟨Keyed.empty.insert name (.ofText published.canonical)⟩

/-- An initialized resolver with that directory. -/
def stockedWith (name : String) : ResolverState Origin.Script :=
  { rehearsal "https://idp.example.org" (.ok none) ⟨0, 0⟩ with cache := .directory (stocked name) }

theorem clear_empties_stocked :
    persisting.persistence.isSome = true ∧ (stockedWith "idp").lifecycle = .initialized ∧
      (stockedWith "idp").cache = .directory (stocked "idp") ∧ (stocked "idp").list = ["idp"] ∧
      (persisting.clear.run (stockedWith "idp")).1 = .ok () ∧
      (persisting.clear.run (stockedWith "idp")).2.cache.list.1 = .ok [] := by
  obtain ⟨proper, empties, -⟩ := clear_empties_iff (s := stockedWith "idp") persisting rfl rfl rfl
  have listed : (stocked "idp").list = ["idp"] := rfl
  refine ⟨rfl, rfl, rfl, listed, empties.2 fun key among => (proper key among).2 ?_⟩
  rw [listed, List.mem_singleton] at among
  subst among
  exact ⟨rfl, by decide⟩

/-- A file whose name begins with a dot is listed, is refused as a key, and is left when all is
cleared. -/
theorem hidden_file_is_listed_and_refused :
    let refused : Failure :=
      .invalidArgument ("Invalid persistent cache key: " ++ Text.quoted ".hidden")
    (stocked ".hidden").list = [".hidden"] ∧ (stocked ".hidden").has ".hidden" = .error refused ∧
      (persisting.clear.run (stockedWith ".hidden")).1 = .failed refused ∧
      (persisting.clear.run (stockedWith ".hidden")).2.cache.list.1 = .ok [".hidden"] := by
  intro refused
  have listed : (stocked ".hidden").list = [".hidden"] := rfl
  have unnamed : DirectoryCache.isKey ".hidden" = false := by decide
  have refusal : DirectoryCache.refusal ".hidden" = refused := by
    rw [DirectoryCache.refusal, unnamed]
    rfl
  have improper : ¬ DirectoryCache.IsProper ".hidden" := fun proper => by
    cases unnamed.symm.trans proper.1
  rw [run_clear persisting rfl rfl rfl, listed, run_removing_of_not_isProper improper rfl, refusal,
    DirectoryCache.has, DirectoryCache.find_of_not_isProper _ improper, refusal]
  exact ⟨rfl, rfl, rfl, rfl⟩

end Resolver

end Federation
