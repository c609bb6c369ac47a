/-
# Taking keys out of a persistent cache

A key is taken out of a cache or the cache refuses: a directory refuses names that are no names of
copies and the names of folders, a table refuses everything when it is gone, and a cache in memory
refuses when it is told to. Whether a key can be taken out does not depend on what was taken out
before. So of several keys those go that can be taken out, and under all others everything stays.

## Main definitions

- `PersistentCache.Removes`: a cache does not refuse to take a key out.

## Main results

- `slot_remove`: what stands under the keys of a cache after one was taken out, or refused.
- `slot_without`: the same for several keys.
- `Works.removes`: a cache that works takes out the keys with which it can work.
-/

import Federation.Proofs.Cache.Working

namespace Federation

/-! ## Directories and tables -/

namespace DirectoryCache

variable {d : DirectoryCache} {key other : String}

theorem removes_iff : (∃ there, (d.remove key).1 = .ok there) ↔
    IsProper key ∧ d.entries.get? key ≠ some .folder := by
  rw [remove]
  by_cases proper : IsProper key
  · rw [find_of_isProper d proper]
    cases found : d.entries.get? key with
    | none => simp [proper]
    | some entry => cases entry <;> simp [proper]
  · obtain ⟨failure, refused⟩ := exists_find_of_not_isProper d proper
    rw [refused]
    simp [proper]

theorem remove_snd_of_refused (refused : ¬ ∃ there, (d.remove key).1 = .ok there) :
    (d.remove key).2 = d := by
  rw [remove] at refused ⊢
  split
  · rfl
  · rfl
  · rename_i found
    rw [found] at refused
    exact absurd ⟨true, rfl⟩ refused
  · rfl

end DirectoryCache

namespace TableCache

variable {t : TableCache} {key : String}

theorem removes_iff : (∃ there, (t.remove key).1 = .ok there) ↔ t.rows ≠ none := by
  rw [remove]
  cases t.rows with
  | none => simp
  | some rows =>
    dsimp only
    split <;> simp

theorem rows_remove : (t.remove key).2.rows = none ↔ t.rows = none := by
  rw [remove]
  cases kept : t.rows with
  | none => simp [kept]
  | some rows =>
    dsimp only
    split <;> simp [kept]

theorem remove_snd_of_refused (refused : ¬ ∃ there, (t.remove key).1 = .ok there) :
    (t.remove key).2 = t := by
  rw [removes_iff, ne_eq, Classical.not_not] at refused
  rw [remove, refused]

theorem slot_remove (removed : ∃ there, (t.remove key).1 = .ok there) :
    (t.remove key).2.slot = Function.update t.slot key none := by
  obtain ⟨rows, kept⟩ := Option.ne_none_iff_exists'.1 (removes_iff.1 removed)
  obtain ⟨rows', left, slots⟩ := exists_remove rows key
  have same : t = ⟨some rows⟩ := congrArg TableCache.mk kept
  rw [same, left, slots]

end TableCache

/-! ## All caches -/

namespace PersistentCache

variable {c : PersistentCache} {key other : String} {keys : List String}

/-- A cache does not refuse to take a key out. -/
def Removes (c : PersistentCache) (key : String) : Prop := ∃ there, (c.remove key).1 = .ok there

theorem removes_memory_iff {m : MemoryCache} : (memory m).Removes key ↔
    m.failing.contains .remove = false ∧ ∃ there, (m.table.remove key).1 = .ok there := by
  rw [Removes, remove, MemoryCache.guard]
  cases m.failing.contains .remove <;> simp [carry]

theorem remove_snd_of_refused (refused : ¬ c.Removes key) : (c.remove key).2 = c := by
  cases c with
  | directory d => exact congrArg directory (DirectoryCache.remove_snd_of_refused refused)
  | table t => exact congrArg table (TableCache.remove_snd_of_refused refused)
  | memory m =>
    rw [removes_memory_iff] at refused
    show memory (m.guard .remove fun t => t.remove key).2 = memory m
    rw [guard_snd]
    cases told : m.failing.contains .remove with
    | true => rfl
    | false =>
      have kept : (m.table.remove key).2 = m.table :=
        TableCache.remove_snd_of_refused fun removed => refused ⟨told, removed⟩
      rw [if_neg Bool.false_ne_true, kept]

/-- A key that is taken out has nothing under it, and under all others everything stays. -/
theorem slot_remove_of_removes (removed : c.Removes key) :
    (c.remove key).2.slot = Function.update c.slot key none := by
  cases c with
  | directory d =>
    obtain ⟨proper, file⟩ := DirectoryCache.removes_iff.1 removed
    funext other
    show (d.remove key).2.entries.get? other = Function.update d.entries.get? key none other
    rw [DirectoryCache.get?_remove d proper, Function.update_apply]
    simp [file]
  | table t => exact TableCache.slot_remove removed
  | memory m =>
    obtain ⟨told, removed⟩ := removes_memory_iff.1 removed
    show (memory (m.guard .remove fun t => t.remove key).2).slot = _
    rw [guard_snd, told, if_neg Bool.false_ne_true]
    exact TableCache.slot_remove removed

/-- What was taken out before makes no difference to what can be taken out. -/
theorem removes_remove : (c.remove key).2.Removes other ↔ c.Removes other := by
  by_cases removed : c.Removes key
  · cases c with
    | directory d =>
      obtain ⟨proper, file⟩ := DirectoryCache.removes_iff.1 removed
      have before : (directory d).Removes other ↔ _ := DirectoryCache.removes_iff
      have after : (directory (d.remove key).2).Removes other ↔ _ := DirectoryCache.removes_iff
      show (directory (d.remove key).2).Removes other ↔ _
      rw [before, after, DirectoryCache.get?_remove d proper]
      by_cases same : other = key <;> simp [same, file]
    | table t =>
      have before : (table t).Removes other ↔ _ := TableCache.removes_iff
      have after : (table (t.remove key).2).Removes other ↔ _ := TableCache.removes_iff
      show (table (t.remove key).2).Removes other ↔ _
      rw [before, after, ne_eq, ne_eq, TableCache.rows_remove]
    | memory m =>
      obtain ⟨told, -⟩ := removes_memory_iff.1 removed
      show (memory (m.guard .remove fun t => t.remove key).2).Removes other ↔ _
      rw [guard_snd, told, if_neg Bool.false_ne_true, removes_memory_iff, removes_memory_iff,
        TableCache.removes_iff, TableCache.removes_iff, ne_eq, ne_eq, TableCache.rows_remove]
  · rw [remove_snd_of_refused removed]

/-- What stands under the keys of a cache after one was to be taken out. -/
theorem slot_remove (c : PersistentCache) (key other : String) :
    ((key = other ∧ c.Removes other) → (c.remove key).2.slot other = none) ∧
    (¬ (key = other ∧ c.Removes other) → (c.remove key).2.slot other = c.slot other) := by
  constructor
  · rintro ⟨rfl, removed⟩
    rw [slot_remove_of_removes removed, Function.update_self]
  · intro left
    by_cases removed : c.Removes key
    · have foreign : other ≠ key := by
        rintro rfl
        exact left ⟨rfl, removed⟩
      rw [slot_remove_of_removes removed, Function.update_of_ne foreign]
    · rw [remove_snd_of_refused removed]

/-- **Of several keys those go that can be taken out**, and under all others everything stays. -/
theorem slot_without : ((other ∈ keys ∧ c.Removes other) → (c.without keys).slot other = none) ∧
    (¬ (other ∈ keys ∧ c.Removes other) → (c.without keys).slot other = c.slot other) := by
  induction keys generalizing c with
  | nil => exact ⟨fun among => absurd among.1 List.not_mem_nil, fun _ => rfl⟩
  | cons key rest ih =>
    obtain ⟨gone, stays⟩ := ih (c := (c.remove key).2)
    rw [removes_remove] at gone stays
    obtain ⟨emptied, kept⟩ := slot_remove c key other
    constructor
    · rintro ⟨among, removed⟩
      by_cases later : other ∈ rest
      · exact gone ⟨later, removed⟩
      · have same : key = other := by simpa [later, eq_comm] using among
        exact (stays fun listed => later listed.1).trans (emptied ⟨same, removed⟩)
    · intro left
      have unlisted : ¬ (other ∈ rest ∧ c.Removes other) := fun listed =>
        left ⟨List.mem_cons_of_mem key listed.1, listed.2⟩
      refine (stays unlisted).trans (kept ?_)
      rintro ⟨rfl, removed⟩
      exact left ⟨List.mem_cons_self, removed⟩

/-- A cache that works takes out the keys with which it can work, unless a folder is there. -/
theorem Works.removes (works : c.Works) (accepted : c.Accepts key)
    (file : c.slot key ≠ some .folder) : c.Removes key := by
  cases works with
  | directory d => exact DirectoryCache.removes_iff.2 ⟨accepted, file⟩
  | table rows => exact TableCache.removes_iff.2 (by simp)
  | memory rows pausing =>
    exact removes_memory_iff.2 ⟨rfl, TableCache.removes_iff.2 (by simp)⟩

theorem Works.isFailing (works : c.Works) : c.isFailing = false := by
  cases works <;> rfl

end PersistentCache

end Federation
