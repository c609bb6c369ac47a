/-
# Copies in a persistent cache

What a persistent cache is good for is which entity can be loaded from under which key. That
is the same question for all kinds of caches: taking a key out takes out the copy under it,
moving a key moves the copy under it, and neither makes a copy that was not there before. Writing
an entity makes a copy of that entity only.

## Main definitions

- `PersistentCache.Keeps`: a copy of an entity is kept under a key.
- `PersistentCache.Lacks`: no copy of an entity is kept.
- `PersistentCache.IsFiled`: copies are kept under the keys of their entities.

## Main results

- `keeps_of_keeps_remove`, `not_keeps_remove`: what is kept after a key was taken out.
- `exists_keeps_of_rename`: what is kept after a key was moved.
- `keeps_of_keeps_save`: what is kept after an entity was written.
- `IsFiled.lacks_without`: taking out the key of an entity leaves no copy of it.
-/

import Federation.Cache.Persistent

namespace Federation

open Federation.Metadata

/-! ## Directories -/

namespace DirectoryCache

variable {d : DirectoryCache} {key newKey other : String} {e : Entity}

/-- A name that can be the name of a copy. -/
def IsProper (key : String) : Prop := isKey key = true ∧ key.utf8ByteSize ≤ longestName

theorem find_of_isProper (d : DirectoryCache) (proper : IsProper key) :
    d.find key = .ok (d.entries.get? key) := by
  have short : ¬ longestName < key.utf8ByteSize := Nat.not_lt.2 proper.2
  simp [find, proper.1, short]

/-- The failure of a name that is not proper. -/
def refusal (key : String) : Failure := if isKey key then nameTooLong else refuseKey key

theorem find_of_not_isProper (d : DirectoryCache) (improper : ¬ IsProper key) :
    d.find key = .error (refusal key) := by
  rw [find, refusal]
  by_cases named : isKey key = true
  · have long : longestName < key.utf8ByteSize :=
      Nat.not_le.1 fun short => improper ⟨named, short⟩
    simp [named, long]
  · simp [named]

theorem exists_find_of_not_isProper (d : DirectoryCache) (improper : ¬ IsProper key) :
    ∃ failure, d.find key = .error failure :=
  ⟨refusal key, find_of_not_isProper d improper⟩

/-- What is loaded from under a proper name is what its file says. -/
theorem load_eq_some_iff :
    d.load key = .ok (some e) ↔
      IsProper key ∧
        ∃ bytes, d.entries.get? key = some (.file bytes) ∧ Entity.loadBytes bytes = .ok e := by
  rw [load]
  by_cases proper : IsProper key
  · rw [find_of_isProper d proper]
    cases found : d.entries.get? key with
    | none => simp
    | some entry =>
      cases entry with
      | folder => simp
      | file bytes => cases read : Entity.loadBytes bytes <;> simp [Except.map, proper, read]
  · obtain ⟨failure, refused⟩ := exists_find_of_not_isProper d proper
    rw [refused]
    simp [proper]

/-- Only the file under a key is taken out. -/
theorem get?_remove (d : DirectoryCache) (proper : IsProper key) :
    (d.remove key).2.entries.get? other
      = if other = key ∧ d.entries.get? key ≠ some .folder then none else d.entries.get? other := by
  rw [remove, find_of_isProper d proper]
  cases found : d.entries.get? key with
  | none => by_cases same : other = key <;> simp [same, found]
  | some entry =>
    cases entry with
    | folder => simp
    | file text => simp [Keyed.get?_erase]

theorem load_of_load_remove (loaded : (d.remove key).2.load other = .ok (some e)) :
    d.load other = .ok (some e) ∧ other ≠ key := by
  rw [load_eq_some_iff] at loaded ⊢
  obtain ⟨proper', text, found, read⟩ := loaded
  by_cases proper : IsProper key
  · rw [get?_remove d proper] at found
    split at found
    · cases found
    · rename_i left
      refine ⟨⟨proper', text, found, read⟩, ?_⟩
      rintro rfl
      exact left ⟨rfl, by simp [found]⟩
  -- A name that is not proper is refused.
  · obtain ⟨failure, refused⟩ := exists_find_of_not_isProper d proper
    rw [remove, refused] at found
    refine ⟨⟨proper', text, found, read⟩, ?_⟩
    rintro rfl
    exact proper proper'

/-- What is loaded after a key was moved could be loaded before. -/
theorem exists_load_of_rename (loaded : (d.rename key newKey).2.load other = .ok (some e)) :
    ∃ before, d.load before = .ok (some e) := by
  rw [rename] at loaded
  split at loaded
  · exact ⟨other, loaded⟩
  split at loaded
  · exact ⟨other, loaded⟩
  split at loaded
  · exact ⟨other, loaded⟩
  · exact ⟨other, loaded⟩
  rename_i entry found
  split at loaded
  · exact ⟨other, loaded⟩
  · exact ⟨other, loaded⟩
  -- The entry of the key stands under the new one, and all others where they stood.
  have proper : IsProper key := by
    refine Classical.not_not.1 fun improper => ?_
    obtain ⟨failure, refused⟩ := exists_find_of_not_isProper d improper
    cases found.symm.trans refused
  rw [find_of_isProper d proper] at found
  obtain ⟨proper', text, stands, read⟩ := load_eq_some_iff.1 loaded
  rw [Keyed.get?_insert] at stands
  split at stands
  · obtain rfl := Option.some_inj.1 stands
    exact ⟨key, load_eq_some_iff.2 ⟨proper, text, Except.ok.inj found, read⟩⟩
  · rw [Keyed.get?_erase] at stands
    split at stands
    · cases stands
    · exact ⟨other, load_eq_some_iff.2 ⟨proper', text, stands, read⟩⟩

/-- What is loaded after an entity was written could be loaded before or is what was written. -/
theorem load_of_load_save {overwrite : Bool} {written : Entity}
    (loaded : (d.save key written overwrite).2.load other = .ok (some e)) :
    d.load other = .ok (some e) ∨ Entity.load written.canonical = .ok e := by
  rw [save] at loaded
  split at loaded
  · exact .inl loaded
  split at loaded
  · exact .inl loaded
  split at loaded
  · exact .inl loaded
  rw [load_eq_some_iff] at loaded ⊢
  obtain ⟨proper, bytes, stands, read⟩ := loaded
  rw [Keyed.get?_insert] at stands
  split at stands
  · rw [← DirectoryEntry.file.inj (Option.some_inj.1 stands), Entity.loadBytes_utf8] at read
    exact .inr read
  · exact .inl ⟨proper, bytes, stands, read⟩

end DirectoryCache

/-! ## Tables -/

namespace TableCache

variable {t : TableCache} {key newKey other : String} {e : Entity}

theorem load_eq_some_iff :
    t.load key = .ok (some e) ↔
      ∃ rows text, t.rows = some rows ∧ rows.get? key = some text ∧ Entity.load text = .ok e := by
  rw [load]
  cases t.rows with
  | none => simp
  | some rows =>
    cases found : rows.get? key with
    | none => simp [found]
    | some text => cases read : Entity.load text <;> simp [found, Except.map, read]

theorem load_of_load_remove (loaded : (t.remove key).2.load other = .ok (some e)) :
    t.load other = .ok (some e) ∧ other ≠ key := by
  rw [load_eq_some_iff] at loaded ⊢
  obtain ⟨rows', text, left, found, read⟩ := loaded
  cases kept : t.rows with
  | none =>
    rw [remove, kept] at left
    cases kept.symm.trans left
  | some rows =>
    rw [remove, kept] at left
    dsimp only at left
    split at left
    · obtain rfl := Option.some_inj.1 left
      rw [Keyed.get?_erase] at found
      split at found
      · cases found
      · rename_i different
        exact ⟨⟨rows, text, rfl, found, read⟩, different⟩
    · rename_i absent
      obtain rfl := Option.some_inj.1 (kept.symm.trans left)
      refine ⟨⟨rows, text, rfl, found, read⟩, ?_⟩
      rintro rfl
      exact absent (by simp [Keyed.contains, found])

theorem exists_load_of_rename (loaded : (t.rename key newKey).2.load other = .ok (some e)) :
    ∃ before, t.load before = .ok (some e) := by
  rw [rename] at loaded
  split at loaded
  · exact ⟨other, loaded⟩
  rename_i rows kept
  split at loaded
  · exact ⟨other, loaded⟩
  split at loaded
  · exact ⟨other, loaded⟩
  rename_i text found
  obtain ⟨rows', text', moved, stands, read⟩ := load_eq_some_iff.1 loaded
  obtain rfl := Option.some_inj.1 moved
  rw [Keyed.get?_insert] at stands
  split at stands
  · obtain rfl := Option.some_inj.1 stands
    exact ⟨key, load_eq_some_iff.2 ⟨rows, text, kept, found, read⟩⟩
  · rw [Keyed.get?_erase] at stands
    split at stands
    · cases stands
    · exact ⟨other, load_eq_some_iff.2 ⟨rows, text', kept, stands, read⟩⟩

theorem load_of_load_save {overwrite : Bool} {written : Entity}
    (loaded : (t.save key written overwrite).2.load other = .ok (some e)) :
    t.load other = .ok (some e) ∨ Entity.load written.canonical = .ok e := by
  rw [save] at loaded
  split at loaded
  · exact .inl loaded
  rename_i rows kept
  split at loaded
  · exact .inl loaded
  obtain ⟨rows', text, left, stands, read⟩ := load_eq_some_iff.1 loaded
  obtain rfl := Option.some_inj.1 left
  rw [Keyed.get?_insert] at stands
  split at stands
  · obtain rfl := Option.some_inj.1 stands
    exact .inr read
  · exact .inl (load_eq_some_iff.2 ⟨rows, text, kept, stands, read⟩)

end TableCache

/-! ## All caches -/

namespace PersistentCache

variable {c : PersistentCache} {key newKey other id : String} {e : Entity}

/-- A copy of an entity is kept under a key. -/
def Keeps (c : PersistentCache) (key : String) (e : Entity) : Prop :=
  (c.load key).1 = .ok (some e)

/-- No copy of an entity is kept. -/
def Lacks (c : PersistentCache) (id : String) : Prop :=
  ∀ key e, c.Keeps key e → e.entityId ≠ id

/-- Every copy is kept under the key of its entity. -/
def IsFiled (c : PersistentCache) : Prop :=
  ∀ key e, c.Keeps key e → key = standardKey e

/-- Loading leaves a cache as it is. -/
theorem load_snd (c : PersistentCache) (key : String) : (c.load key).2 = c := by
  cases c with
  | directory d => rfl
  | table t => rfl
  | memory m =>
    rw [load, MemoryCache.guard]
    split <;> rfl

/-- Listing leaves a cache as it is. -/
theorem list_snd (c : PersistentCache) : c.list.2 = c := by
  cases c with
  | directory d => rfl
  | table t => rfl
  | memory m =>
    rw [list, MemoryCache.guard]
    split <;> rfl

/-- A copy in memory can be loaded as from the table in it, unless loading is to fail. -/
theorem keeps_memory_iff {m : MemoryCache} :
    (memory m).Keeps key e ↔
      m.failing.contains .load = false ∧ m.table.load key = .ok (some e) := by
  rw [Keeps, load, MemoryCache.guard]
  cases m.failing.contains .load <;> simp [carry]

/-- What an operation leaves of a cache in memory: all of it, if the operation is to fail. -/
theorem guard_snd {α : Type} (m : MemoryCache) (operation : CacheOperation)
    (run : TableCache → Except Failure α × TableCache) :
    (m.guard operation run).2
      = if m.failing.contains operation then m else { m with table := (run m.table).2 } := by
  rw [MemoryCache.guard]
  split <;> rfl

/-- Taking out a key does not make copies. -/
theorem keeps_of_keeps_remove (kept : (c.remove key).2.Keeps other e) : c.Keeps other e := by
  cases c with
  | directory d => exact (DirectoryCache.load_of_load_remove kept).1
  | table t => exact (TableCache.load_of_load_remove kept).1
  | memory m =>
    have kept : (memory (m.guard .remove fun t => t.remove key).2).Keeps other e := kept
    rw [guard_snd] at kept
    split at kept
    · exact kept
    · obtain ⟨working, loaded⟩ := keeps_memory_iff.1 kept
      exact keeps_memory_iff.2 ⟨working, (TableCache.load_of_load_remove loaded).1⟩

/-- Once it was taken out, a key has no copy, unless taking it out was to fail. -/
theorem not_keeps_remove (working : c.isFailing = false) : ¬ (c.remove key).2.Keeps key e := by
  intro kept
  cases c with
  | directory d => exact (DirectoryCache.load_of_load_remove kept).2 rfl
  | table t => exact (TableCache.load_of_load_remove kept).2 rfl
  | memory m =>
    have kept : (memory (m.guard .remove fun t => t.remove key).2).Keeps key e := kept
    have unfailing : m.failing = [] := by simpa [isFailing] using working
    rw [guard_snd, unfailing] at kept
    exact (TableCache.load_of_load_remove (keeps_memory_iff.1 kept).2).2 rfl

/-- Moving a key does not make copies of other entities. -/
theorem exists_keeps_of_rename (kept : (c.rename key newKey).2.Keeps other e) :
    ∃ before, c.Keeps before e := by
  cases c with
  | directory d => exact DirectoryCache.exists_load_of_rename kept
  | table t => exact TableCache.exists_load_of_rename kept
  | memory m =>
    have kept : (memory (m.guard .rename fun t => t.rename key newKey).2).Keeps other e := kept
    rw [guard_snd] at kept
    split at kept
    · exact ⟨other, kept⟩
    · obtain ⟨working, loaded⟩ := keeps_memory_iff.1 kept
      obtain ⟨before, loaded⟩ := TableCache.exists_load_of_rename loaded
      exact ⟨before, keeps_memory_iff.2 ⟨working, loaded⟩⟩

/-- Writing an entity makes a copy of that entity only. -/
theorem keeps_of_keeps_save {overwrite : Bool} {written : Entity}
    (kept : (c.save key written overwrite).2.Keeps other e) :
    c.Keeps other e ∨ Entity.load written.canonical = .ok e := by
  cases c with
  | directory d => exact DirectoryCache.load_of_load_save kept
  | table t => exact TableCache.load_of_load_save kept
  | memory m =>
    have kept : (memory (m.guard .save fun t => t.save key written overwrite).2).Keeps other e :=
      kept
    rw [guard_snd] at kept
    split at kept
    · exact .inl kept
    · obtain ⟨working, loaded⟩ := keeps_memory_iff.1 kept
      refine (TableCache.load_of_load_save loaded).imp_left fun loaded => ?_
      exact keeps_memory_iff.2 ⟨working, loaded⟩

theorem Lacks.remove (lacks : c.Lacks id) (key : String) : (c.remove key).2.Lacks id :=
  fun other e kept => lacks other e (keeps_of_keeps_remove kept)

theorem Lacks.rename (lacks : c.Lacks id) (key newKey : String) :
    (c.rename key newKey).2.Lacks id := by
  intro other e kept
  obtain ⟨before, kept⟩ := exists_keeps_of_rename kept
  exact lacks before e kept

theorem IsFiled.remove (filed : c.IsFiled) (key : String) : (c.remove key).2.IsFiled :=
  fun other e kept => filed other e (keeps_of_keeps_remove kept)

theorem isFailing_remove (c : PersistentCache) (key : String) :
    (c.remove key).2.isFailing = c.isFailing := by
  cases c with
  | directory d => rfl
  | table t => rfl
  | memory m =>
    show (memory (m.guard .remove fun t => t.remove key).2).isFailing = _
    rw [guard_snd]
    split <;> rfl

/-- Where copies are filed, taking out the key of an entity leaves no copy of it. -/
theorem IsFiled.lacks_remove (filed : c.IsFiled) (working : c.isFailing = false)
    (same : e.entityId = id) : (c.remove (standardKey e)).2.Lacks id := by
  intro other e' kept copied
  have key : other = standardKey e := by
    rw [filed other e' (keeps_of_keeps_remove kept), standardKey, standardKey, copied, same]
  exact not_keeps_remove working (key ▸ kept)

/-! ### Several keys -/

/-- A cache from which keys were taken out, one after another. -/
def without (c : PersistentCache) (keys : List String) : PersistentCache :=
  keys.foldl (fun c key => (c.remove key).2) c

theorem Lacks.without (lacks : c.Lacks id) (keys : List String) : (c.without keys).Lacks id := by
  induction keys generalizing c with
  | nil => exact lacks
  | cons key rest ih => exact ih (lacks.remove key)

/-- Where copies are filed, no copy of an entity is left once its key was among those that
were taken out. -/
theorem IsFiled.lacks_without (filed : c.IsFiled) (working : c.isFailing = false)
    (same : e.entityId = id) {keys : List String} (among : standardKey e ∈ keys) :
    (c.without keys).Lacks id := by
  induction keys generalizing c with
  | nil => simp at among
  | cons key rest ih =>
    rcases List.mem_cons.1 among with rfl | later
    · exact (filed.lacks_remove working same).without rest
    · exact ih (filed.remove key) ((isFailing_remove c key).trans working) later

end PersistentCache

end Federation
