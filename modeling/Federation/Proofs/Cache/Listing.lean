/-
# What a directory lists

A directory lists the names of all its files but those of unfinished writes, whoever put them there.
Its other operations take names from a safe alphabet only. So a name may be listed and then refused,
wherever it is used as a key. A listed name is taken by all operations just if it is a proper one;
then removing it takes it out of the listing, and leaves the others where they were.

## Main definitions

- `DirectoryCache.Usable`: a key that every operation takes.

## Main results

- `usable_iff_isProper`: which of the listed keys can be used.
- `exists_remove_of_list`: removing the key that is listed first.
-/

import Federation.Proofs.Cache.Removing

namespace Federation

open Federation.Metadata

theorem Keyed.keys_erase {κ α : Type} [DecidableEq κ] (m : Keyed κ α) (key : κ) :
    (m.erase key).keys = m.keys.filter (· != key) := by
  rw [keys, keys, erase, filter, List.filter_map]
  rfl

/-- A cached file that cannot be read is the fault of what it says. -/
theorem Metadata.Entity.loadBytes_ne_invalidArgument (bytes : List UInt8) (reason : String) :
    Entity.loadBytes bytes ≠ .error (.invalidArgument reason) := by
  intro refused
  rw [Entity.loadBytes, Entity.load] at refused
  cases read : Entity.ofText (Json.textOf bytes) with
  | ok e =>
    rw [read] at refused
    cases refused
  | error fault =>
    rw [read] at refused
    cases refused

namespace DirectoryCache

variable {d : DirectoryCache} {key newKey : String} {rest : List String}

/-! ## Removing what is listed -/

theorem nodup_list (d : DirectoryCache) : d.list.Nodup := Keyed.nodup _

theorem list_erase (d : DirectoryCache) (key : String) :
    (⟨d.entries.erase key⟩ : DirectoryCache).list = d.list.filter (· != key) := by
  rw [list, list, ← Keyed.keys_erase]
  simp only [Keyed.erase, Keyed.filter, Keyed.keys, List.filter_filter, Bool.and_comm]

theorem remove_of_mem_list (listed : key ∈ d.list) (proper : IsProper key) :
    d.remove key = (.ok true, ⟨d.entries.erase key⟩) := by
  obtain ⟨-, bytes, found⟩ := mem_list_iff.1 listed
  rw [remove, find_of_isProper d proper, found]

/-- Removing the key that is listed first leaves the others listed, if it can be used. -/
theorem exists_remove_of_list (first : d.list = key :: rest) (proper : IsProper key) :
    ∃ left, d.remove key = (.ok true, left) ∧ left.list = rest := by
  have listed : key ∈ d.list := first ▸ List.mem_cons_self
  have absent : key ∉ rest := (List.nodup_cons.1 (first ▸ d.nodup_list)).1
  refine ⟨_, remove_of_mem_list listed proper, ?_⟩
  rw [list_erase, first, List.filter_cons_of_neg (by simp), List.filter_eq_self]
  intro other later
  exact bne_iff_ne.2 fun same => absent (same ▸ later)

/-- A key that is not proper is not removed. -/
theorem remove_of_not_isProper (d : DirectoryCache) (improper : ¬ IsProper key) :
    d.remove key = (.error (refusal key), d) := by
  rw [remove, find_of_not_isProper d improper]

/-! ## Keys that can be used -/

/-- A key that is there, and that no operation refuses as a name. It may be moved to any name that is
not refused itself. -/
structure Usable (d : DirectoryCache) (key : String) : Prop where
  has : d.has key = .ok true
  load : ∀ reason, d.load key ≠ .error (.invalidArgument reason)
  remove : ∀ reason, (d.remove key).1 ≠ .error (.invalidArgument reason)
  rename : ∀ newKey reason, (d.rename key newKey).1 = .error (.invalidArgument reason) →
    isKey newKey = false

theorem load_ne_invalidArgument {reason : String} (listed : key ∈ d.list) (proper : IsProper key) :
    d.load key ≠ .error (.invalidArgument reason) := by
  obtain ⟨-, bytes, found⟩ := mem_list_iff.1 listed
  have loaded : d.load key = (Entity.loadBytes bytes).map some := by
    rw [load, find_of_isProper d proper, found]
  rw [loaded]
  intro refused
  cases read : Entity.loadBytes bytes with
  | ok e =>
    rw [read] at refused
    cases refused
  | error failure =>
    rw [read] at refused
    obtain rfl : failure = .invalidArgument reason := Except.error.inj refused
    exact Entity.loadBytes_ne_invalidArgument bytes reason read

theorem isKey_of_rename {reason : String} (proper : IsProper key)
    (refused : (d.rename key newKey).1 = .error (.invalidArgument reason)) :
    isKey newKey = false := by
  rw [← Bool.not_eq_true]
  intro named
  -- Both names pass the alphabet; the new one may still be too long, which is told otherwise.
  rw [rename, proper.1, named, find_of_isProper d proper] at refused
  cases found : d.entries.get? key with
  | none => simp [found] at refused
  | some entry =>
    by_cases proper' : IsProper newKey
    · rw [find_of_isProper d proper'] at refused
      cases taken : d.entries.get? newKey <;> simp [found, taken] at refused
    · rw [find_of_not_isProper d proper', refusal, named] at refused
      simp [found, nameTooLong] at refused

/-- A listed key can be used just if it is a proper name. -/
theorem usable_iff_isProper (listed : key ∈ d.list) : d.Usable key ↔ IsProper key := by
  constructor
  · intro usable
    by_contra improper
    have refused := usable.has
    rw [has, find_of_not_isProper d improper] at refused
    cases refused
  · intro proper
    obtain ⟨-, bytes, found⟩ := mem_list_iff.1 listed
    refine ⟨?_, fun reason => ?_, fun reason => ?_, fun newKey reason => isKey_of_rename proper⟩
    · rw [has, find_of_isProper d proper, found]
      rfl
    · exact load_ne_invalidArgument listed proper
    · rw [remove_of_mem_list listed proper]
      intro refused
      cases refused

end DirectoryCache

end Federation
