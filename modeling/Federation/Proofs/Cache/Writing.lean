/-
# Writing to a cache that is clear

A cache is clear if nothing is wrong with it and nothing stands in it but texts. Then whatever is
written under the standard keys of entities is written, and taking keys out and writing other
entities leaves alone what stands under a key. Of entities with the same key the last one that was
written stays.

## Main definitions

- `PersistentCache.IsClear`: a cache in which nothing is in the way.
- `PersistentCache.written`: a cache to which entities were written, one after another.
- `PersistentCache.EditedAt`: a key was taken out, or entities with that key were written.

## Main results

- `IsClear.edited`: what an edit at one key leaves alone.
- `slot_written_concat`: the last entity that was written stays.
-/

import Federation.Proofs.Cache.Working

namespace Federation.PersistentCache

open Federation.Metadata

variable {c c' : PersistentCache} {key other : String} {keys : List String} {e d : Entity}
  {es : List Entity} {slots : String → Option DirectoryEntry}

/-- Nothing is wrong with a cache, and there are no folders in it. -/
structure IsClear (c : PersistentCache) : Prop where
  works : c.Works
  files : ∀ key, c.slot key ≠ some .folder

/-- A cache to which entities were written under their standard keys, one after another. -/
def written (c : PersistentCache) (es : List Entity) : PersistentCache :=
  es.foldl (fun c e => (c.save (standardKey e) e true).2) c

/-- A key was taken out of a cache, maybe more than once, or entities with that key were written
to it. -/
inductive EditedAt (key : String) (c : PersistentCache) : PersistentCache → Prop where
  | without (keys : List String) (same : ∀ other ∈ keys, other = key) :
    EditedAt key c (c.without keys)
  | written (es : List Entity) (same : ∀ e ∈ es, standardKey e = key) :
    EditedAt key c (c.written es)

theorem editedAt_self (key : String) (c : PersistentCache) : EditedAt key c c :=
  .without [] (by simp)

/-- A cache stays clear if what changes is one slot, which gets a text or nothing. -/
theorem IsClear.of_update (clear : c.IsClear) {entry : Option DirectoryEntry}
    (becomes : c.Becomes c' (Function.update c.slot key entry)) (file : entry ≠ some .folder) :
    c'.IsClear ∧ c'.slot key = entry ∧ ∀ other, other ≠ key → c'.slot other = c.slot other := by
  have others (other : String) (foreign : other ≠ key) : c'.slot other = c.slot other := by
    rw [becomes.slot, Function.update_of_ne foreign]
  have itself : c'.slot key = entry := by rw [becomes.slot, Function.update_self]
  refine ⟨⟨becomes.works, fun other => ?_⟩, itself, others⟩
  by_cases same : other = key
  · rw [same, itself]
    exact file
  · rw [others other same]
    exact clear.files other

theorem IsClear.remove (clear : c.IsClear) (accepted : c.Accepts key) :
    (c.remove key).2.IsClear ∧ (∀ other, (c.remove key).2.Accepts other ↔ c.Accepts other) ∧
      ∀ other, other ≠ key → (c.remove key).2.slot other = c.slot other := by
  have becomes := becomes_remove clear.works accepted (clear.files key)
  obtain ⟨clear', -, others⟩ := clear.of_update becomes (by simp)
  exact ⟨clear', becomes.accepts, others⟩

theorem IsClear.save (clear : c.IsClear) (e : Entity) :
    (c.save (standardKey e) e true).1 = .ok () ∧ (c.save (standardKey e) e true).2.IsClear ∧
      (c.save (standardKey e) e true).2.slot (standardKey e) = some (.ofText e.canonical) ∧
      ∀ other, other ≠ standardKey e →
        (c.save (standardKey e) e true).2.slot other = c.slot other := by
  obtain ⟨saved, becomes⟩ :=
    becomes_save clear.works (c.accepts_standardKey e) (clear.files _) e
  exact ⟨saved, clear.of_update becomes (by simp)⟩

theorem written_append (c : PersistentCache) (es others : List Entity) :
    c.written (es ++ others) = (c.written es).written others := by
  rw [written, List.foldl_append]
  rfl

theorem IsClear.written (clear : c.IsClear) (es : List Entity) : (c.written es).IsClear := by
  induction es generalizing c with
  | nil => exact clear
  | cons e rest ih => exact ih (clear.save e).2.1

/-- What is written under other keys leaves a key alone. -/
theorem slot_written_of_ne (clear : c.IsClear) (foreign : ∀ e ∈ es, standardKey e ≠ key) :
    (c.written es).slot key = c.slot key := by
  induction es generalizing c with
  | nil => rfl
  | cons e rest ih =>
    obtain ⟨-, clear', -, others⟩ := clear.save e
    have later := ih clear' fun e listed => foreign e (List.mem_cons_of_mem _ listed)
    exact later.trans (others key (foreign e List.mem_cons_self).symm)

/-- **The last entity that was written stays.** -/
theorem slot_written_concat (clear : c.IsClear) (es : List Entity) (e : Entity) :
    (c.written (es ++ [e])).slot (standardKey e) = some (.ofText e.canonical) := by
  rw [written_append]
  exact ((clear.written es).save e).2.2.1

theorem IsClear.without (clear : c.IsClear) (e : Entity) (same : ∀ other ∈ keys, other = standardKey e) :
    (c.without keys).IsClear ∧
      ∀ other, other ≠ standardKey e → (c.without keys).slot other = c.slot other := by
  induction keys generalizing c with
  | nil => exact ⟨clear, fun _ _ => rfl⟩
  | cons key rest ih =>
    obtain rfl := same key List.mem_cons_self
    obtain ⟨clear', -, others⟩ := clear.remove (c.accepts_standardKey e)
    obtain ⟨later, same'⟩ := ih clear' fun other listed => same other (List.mem_cons_of_mem _ listed)
    exact ⟨later, fun other foreign => (same' other foreign).trans (others other foreign)⟩

/-- **An edit at the key of one entity** leaves a cache clear, and all other keys alone. -/
theorem IsClear.edited (clear : c.IsClear) (edited : EditedAt (standardKey e) c c') :
    c'.IsClear ∧ ∀ other, other ≠ standardKey e → c'.slot other = c.slot other := by
  cases edited with
  | without keys same => exact clear.without e same
  | written es same =>
    refine ⟨clear.written es, fun other foreign => slot_written_of_ne clear ?_⟩
    intro d listed own
    exact foreign (own.symm.trans (same d listed))

end Federation.PersistentCache
