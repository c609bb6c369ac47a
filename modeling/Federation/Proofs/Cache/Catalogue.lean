/-
# Directories and tables as finite maps

A persistent cache is there to be asked for copies of entities by their keys, and a finite map from
keys to entities says what the answers should be. A directory gives them for all keys that can be
names of files. A table gives them too, save that it looks at the new key first when a key is to be
renamed: where nothing is there to be renamed and the new key is taken, it says that the new key is
taken, and not that there was nothing.

## Main definitions

- `CacheRequest`, `CacheAnswer`: what a cache is asked, and what it answers.
- `Catalogue`: a finite map from keys to entities, as the specification of a cache.
- `CacheRequest.Clashes`: what is not there is to be renamed to a key that is taken.
- `PersistentCache.IsCatalogued`: a cache keeps what a catalogue has, and nothing else.

## Main results

- `Catalogue.step_newFirst_iff`: when it makes a difference which key is looked at first.
- `PersistentCache.IsCatalogued.step`, `IsCatalogued.after`: a cache answers one request as its
  catalogue does, and keeps what its catalogue does throughout a run.
- `PersistentCache.interchangeable_iff`: after any run, a directory and a table answer a request
  alike if and only if it does not clash.
-/

import Mathlib.Data.Multiset.Defs
import Federation.Proofs.Cache.Working
import Federation.Proofs.Metadata.Canonical

namespace Federation

open Federation.Metadata

/-- What a cache is asked. -/
inductive CacheRequest where
  | list
  | has (key : String)
  | load (key : String)
  | save (key : String) (e : Entity) (overwrite : Bool)
  | remove (key : String)
  | rename (key newKey : String)

/-- What a cache answers unless it fails. The keys come in no particular order. -/
inductive CacheAnswer where
  | keys (keys : Multiset String)
  | told (yes : Bool)
  | found (e : Option Entity)
  | done
deriving DecidableEq

namespace CacheRequest

/-- Directories accept the keys of a request, and its entity is one that can be written. -/
def IsAccepted : CacheRequest → Prop
  | list => True
  | has key => DirectoryCache.IsProper key
  | load key => DirectoryCache.IsProper key
  | save key e _ => DirectoryCache.IsProper key ∧ e.InBounds
  | remove key => DirectoryCache.IsProper key
  | rename key newKey => DirectoryCache.IsProper key ∧ DirectoryCache.IsProper newKey

variable {τ υ : Type} {step : CacheRequest → τ → Except Failure CacheAnswer × τ}
  {step' : CacheRequest → υ → Except Failure CacheAnswer × υ} {t : τ} {u : υ}

/-- The state after a run of requests. -/
def after (step : CacheRequest → τ → Except Failure CacheAnswer × τ) (requests : List CacheRequest)
    (t : τ) : τ :=
  requests.foldl (fun t request => (step request t).2) t

/-- Steps that keep states related do so throughout a run. -/
theorem related_after (Related : τ → υ → Prop)
    (each : ∀ request t u, request.IsAccepted → Related t u →
      Related (step request t).2 (step' request u).2)
    {requests : List CacheRequest} (accepted : ∀ request ∈ requests, request.IsAccepted)
    (related : Related t u) : Related (after step requests t) (after step' requests u) := by
  induction requests generalizing t u with
  | nil => exact related
  | cons request rest ih =>
    obtain ⟨first, others⟩ := List.forall_mem_cons.1 accepted
    exact ih others (each request t u first related)

end CacheRequest

/-! ## Catalogues -/

/-- Which of its two keys a cache looks at first when it renames one. -/
inductive RenameOrder where
  | oldFirst
  | newFirst
deriving DecidableEq

/-- The entities that are kept, by their keys. -/
abbrev Catalogue := Keyed String Entity

namespace Catalogue

/-- What a catalogue answers, and what becomes of it. The order in which keys are looked at makes a
difference only if the first of them is not there and the second is taken. -/
def step (order : RenameOrder) : CacheRequest → Catalogue → Except Failure CacheAnswer × Catalogue
  | .list, m => (.ok (.keys m.keys), m)
  | .has key, m => (.ok (.told (m.contains key)), m)
  | .load key, m => (.ok (.found (m.get? key)), m)
  | .save key e overwrite, m =>
    if m.contains key && !overwrite then (.error (.alreadyExists key), m)
    else (.ok .done, m.insert key e.withoutWireForm)
  | .remove key, m => (.ok (.told (m.contains key)), m.erase key)
  | .rename key newKey, m =>
    match m.get? key with
    | some e =>
      if m.contains newKey then (.error (.alreadyExists newKey), m)
      else (.ok (.told true), (m.erase key).insert newKey e)
    | none =>
      if order = .newFirst ∧ m.contains newKey then (.error (.alreadyExists newKey), m)
      else (.ok (.told false), m)

/-- The entities that are kept after a run of requests to which there was nothing. -/
def after (requests : List CacheRequest) : Catalogue :=
  CacheRequest.after (step .oldFirst) requests .empty

/-- What becomes of a catalogue does not depend on the order in which keys are looked at. -/
theorem step_snd (order : RenameOrder) (request : CacheRequest) (m : Catalogue) :
    (step order request m).2 = (step .oldFirst request m).2 := by
  cases order with
  | oldFirst => rfl
  | newFirst =>
    cases request with
    | rename key newKey =>
      rw [step, step]
      cases m.get? key with
      | some e => rfl
      | none =>
        dsimp only
        split <;> rfl
    | _ => rfl

end Catalogue

/-- What is not there is to be renamed to a key that is taken. -/
def CacheRequest.Clashes (m : Catalogue) : CacheRequest → Prop
  | .rename key newKey => m.get? key = none ∧ m.get? newKey ≠ none
  | _ => False

/-- **The order in which keys are looked at makes a difference** if and only if a request clashes
with what is kept. -/
theorem Catalogue.step_newFirst_iff {m : Catalogue} {request : CacheRequest} :
    (step .newFirst request m).1 = (step .oldFirst request m).1 ↔ ¬ request.Clashes m := by
  cases request with
  | rename key newKey =>
    rw [step, step, CacheRequest.Clashes]
    cases kept : m.get? key with
    | some e => simp
    | none =>
      cases taken : m.get? newKey with
      | none => simp [Keyed.contains, taken]
      | some e => simp [Keyed.contains, taken]
  | _ => simp [step, CacheRequest.Clashes]

/-! ## Caches that keep what a catalogue has -/

namespace PersistentCache

variable {c : PersistentCache} {key newKey : String} {e : Entity} {m : Catalogue}

/-- What a cache answers, and what becomes of it. -/
def step : CacheRequest → PersistentCache → Except Failure CacheAnswer × PersistentCache
  | .list, c => (c.list.1.map fun listed => .keys (.ofList listed), c.list.2)
  | .has key, c => ((c.has key).map .told, c)
  | .load key, c => ((c.load key).1.map .found, (c.load key).2)
  | .save key e overwrite, c =>
    ((c.save key e overwrite).1.map fun _ => .done, (c.save key e overwrite).2)
  | .remove key, c => ((c.remove key).1.map .told, (c.remove key).2)
  | .rename key newKey, c => ((c.rename key newKey).1.map .told, (c.rename key newKey).2)

/-- Only directories look at the old key first. -/
def renameOrder : PersistentCache → RenameOrder
  | directory _ => .oldFirst
  | table _ => .newFirst
  | memory _ => .newFirst

theorem renameOrder_step (c : PersistentCache) (request : CacheRequest) :
    (step request c).2.renameOrder = c.renameOrder := by
  cases c <;> cases request <;> rfl

/-! ### Single operations -/

theorem has_of_works (works : c.Works) (accepted : c.Accepts key) :
    c.has key = .ok (c.slot key).isSome := by
  cases works with
  | directory d =>
    simp [has, DirectoryCache.has, DirectoryCache.find_of_isProper d accepted, Except.map, slot]
  | table rows => simp [has, TableCache.has, slot, TableCache.slot, TableCache.peek, Keyed.contains]
  | memory rows pausing =>
    simp [has, TableCache.has, slot, TableCache.slot, TableCache.peek, Keyed.contains]

theorem load_of_free (works : c.Works) (accepted : c.Accepts key) (free : c.slot key = none) :
    (c.load key).1 = .ok none := by
  cases works with
  | directory d =>
    have free : d.entries.get? key = none := free
    simp [load, DirectoryCache.load, DirectoryCache.find_of_isProper d accepted, free]
  | table rows =>
    have free : rows.get? key = none := Option.map_eq_none_iff.1 free
    simp [load, TableCache.load, free]
  | memory rows pausing =>
    have free : rows.get? key = none := Option.map_eq_none_iff.1 free
    simp [load, MemoryCache.guard, carry, TableCache.load, free]

/-- A key that is taken is not written to unless that is wanted. -/
theorem save_of_taken (works : c.Works) (accepted : c.Accepts key) (taken : c.slot key ≠ none) :
    c.save key e false = (.error (.alreadyExists key), c) := by
  obtain ⟨entry, stands⟩ := Option.ne_none_iff_exists'.1 taken
  cases works with
  | directory d =>
    have stands : d.entries.get? key = some entry := stands
    simp [save, carry, DirectoryCache.save, DirectoryCache.find_of_isProper d accepted, stands]
  | table rows =>
    obtain ⟨text, stands, -⟩ := Option.map_eq_some_iff.1 stands
    have stands : rows.get? key = some text := stands
    simp [save, carry, TableCache.save, Keyed.contains, stands]
  | memory rows pausing =>
    obtain ⟨text, stands, -⟩ := Option.map_eq_some_iff.1 stands
    have stands : rows.get? key = some text := stands
    simp [save, carry, MemoryCache.guard, TableCache.save, Keyed.contains, stands]

/-- Where nothing stands, nothing is overwritten. -/
theorem save_of_free (works : c.Works) (accepted : c.Accepts key) (free : c.slot key = none)
    (overwrite : Bool) : c.save key e overwrite = c.save key e true := by
  cases works with
  | directory d =>
    have free : d.entries.get? key = none := free
    simp [save, carry, DirectoryCache.save, DirectoryCache.find_of_isProper d accepted, free]
  | table rows =>
    have free : rows.get? key = none := Option.map_eq_none_iff.1 free
    simp [save, carry, TableCache.save, Keyed.contains, free]
  | memory rows pausing =>
    have free : rows.get? key = none := Option.map_eq_none_iff.1 free
    simp [save, carry, MemoryCache.guard, TableCache.save, Keyed.contains, free]

theorem remove_fst (works : c.Works) (accepted : c.Accepts key) (file : c.slot key ≠ some .folder) :
    (c.remove key).1 = .ok (c.slot key).isSome := by
  have of_table (rows : Keyed String String) :
      ((TableCache.mk (some rows)).remove key).1
        = .ok ((TableCache.mk (some rows)).slot key).isSome := by
    rw [TableCache.remove, TableCache.slot, TableCache.peek, Option.isSome_map]
    dsimp only [Option.bind_some]
    cases stands : (rows.get? key) <;> simp [Keyed.contains, stands]
  cases works with
  | directory d =>
    have file : d.entries.get? key ≠ some .folder := file
    show (d.remove key).1 = .ok (d.entries.get? key).isSome
    rw [DirectoryCache.remove, DirectoryCache.find_of_isProper d accepted]
    cases stands : d.entries.get? key with
    | none => rfl
    | some entry =>
      cases entry with
      | file bytes => rfl
      | folder => exact absurd stands file
  | table rows => exact of_table rows
  | memory rows pausing => exact of_table rows

/-- What is not there is not renamed. A cache that looks at the new key first notices that only if
the new key is free. -/
theorem rename_of_absent (works : c.Works) (accepted : c.Accepts key)
    (accepted' : c.Accepts newKey) (absent : c.slot key = none) :
    c.rename key newKey
      = if c.renameOrder = .newFirst ∧ (c.slot newKey).isSome
        then (.error (.alreadyExists newKey), c) else (.ok false, c) := by
  -- A table looks at the new key first, in a database as in memory.
  have of_table (wrap : TableCache → PersistentCache) {rows : Keyed String String}
      (absent : (TableCache.mk (some rows)).slot key = none) :
      carry wrap ((TableCache.mk (some rows)).rename key newKey)
        = if ((TableCache.mk (some rows)).slot newKey).isSome
          then (.error (.alreadyExists newKey), wrap ⟨some rows⟩)
          else (.ok false, wrap ⟨some rows⟩) := by
    have absent : rows.get? key = none := Option.map_eq_none_iff.1 absent
    rw [TableCache.rename, TableCache.slot, TableCache.peek, Option.isSome_map]
    dsimp only [Option.bind_some]
    rw [Keyed.contains, absent]
    split <;> rfl
  cases works with
  | directory d =>
    have absent : d.entries.get? key = none := absent
    simp [rename, carry, DirectoryCache.rename, accepted.1, accepted'.1,
      DirectoryCache.find_of_isProper d accepted, absent, renameOrder]
  | table rows =>
    have order : (table ⟨some rows⟩).renameOrder = .newFirst := rfl
    simp only [order, true_and]
    exact of_table table absent
  | memory rows pausing =>
    have order : (memory ⟨⟨some rows⟩, pausing, []⟩).renameOrder = .newFirst := rfl
    simp only [order, true_and]
    exact of_table (fun t => memory ⟨t, pausing, []⟩) absent

/-! ### Caches and their catalogues -/

end PersistentCache

namespace Catalogue

variable {m : Catalogue} {slots : String → Option DirectoryEntry} {key : String} {e : Entity}

/-- What stands under the keys is the text of what a catalogue has there. Entities in the catalogue
can be written, and are there as they are when they are read again. -/
structure Describes (m : Catalogue) (slots : String → Option DirectoryEntry) : Prop where
  slot : ∀ key, slots key = (m.get? key).map fun e => .ofText e.canonical
  proper : ∀ key e, m.get? key = some e →
    DirectoryCache.IsProper key ∧ e.InBounds ∧ e.withoutWireForm = e

theorem Describes.insert (describes : m.Describes slots) (named : DirectoryCache.IsProper key)
    (bounds : e.InBounds) :
    Describes (m.insert key e.withoutWireForm)
      (Function.update slots key (some (.ofText e.canonical))) where
  slot other := by
    rw [Function.update_apply, Keyed.get?_insert, describes.slot]
    split <;> rfl
  proper other e' kept := by
    rw [Keyed.get?_insert] at kept
    split at kept
    · rename_i same
      obtain rfl := Option.some_inj.1 kept
      exact ⟨same ▸ named, ⟨bounds.roles, bounds.validUntil, bounds.cacheSeconds⟩, rfl⟩
    · exact describes.proper other e' kept

theorem Describes.erase (describes : m.Describes slots) (key : String) :
    Describes (m.erase key) (Function.update slots key none) where
  slot other := by
    rw [Function.update_apply, Keyed.get?_erase, describes.slot]
    split <;> rfl
  proper other e' kept := by
    rw [Keyed.get?_erase] at kept
    split at kept
    · cases kept
    · exact describes.proper other e' kept

end Catalogue

namespace PersistentCache

variable {c c' : PersistentCache} {key newKey : String} {e : Entity} {m m' : Catalogue}
  {slots : String → Option DirectoryEntry} {request : CacheRequest}

/-- A cache works, and keeps what a catalogue has and nothing else. -/
structure IsCatalogued (c : PersistentCache) (m : Catalogue) : Prop where
  works : c.Works
  accepts : ∀ key, DirectoryCache.IsProper key → c.Accepts key
  describes : m.Describes c.slot

namespace IsCatalogued

theorem slot_eq_none_iff (catalogued : c.IsCatalogued m) :
    c.slot key = none ↔ m.get? key = none := by
  rw [catalogued.describes.slot, Option.map_eq_none_iff]

theorem isSome_slot (catalogued : c.IsCatalogued m) : (c.slot key).isSome = m.contains key := by
  rw [catalogued.describes.slot, Option.isSome_map, Keyed.contains]

theorem slot_ne_folder (catalogued : c.IsCatalogued m) : c.slot key ≠ some .folder := by
  rw [catalogued.describes.slot]
  cases m.get? key <;> simp

/-- A cache and its catalogue change together. -/
theorem becomes (catalogued : c.IsCatalogued m) (becomes : c.Becomes c' slots)
    (describes : m'.Describes slots) : c'.IsCatalogued m' where
  works := becomes.works
  accepts key named := (becomes.accepts key).2 (catalogued.accepts key named)
  describes := by rwa [becomes.slot]

/-! #### One request -/

/-- A cache answers a request as its catalogue does, and changes as it does. -/
def Follows (c : PersistentCache) (m : Catalogue) (request : CacheRequest) : Prop :=
  (PersistentCache.step request c).1 = (Catalogue.step c.renameOrder request m).1 ∧
    (PersistentCache.step request c).2.IsCatalogued (Catalogue.step c.renameOrder request m).2

theorem list (catalogued : c.IsCatalogued m) : Follows c m .list := by
  obtain ⟨keys, listed, nodup, files, all⟩ := exists_list catalogued.works
  have same : (keys : Multiset String) = m.keys := by
    refine Multiset.coe_eq_coe.2 ((List.perm_ext_iff_of_nodup nodup m.nodup).2 fun key => ?_)
    rw [← Keyed.keys, Keyed.mem_keys_iff]
    constructor
    · intro inside
      obtain ⟨bytes, stands⟩ := files key inside
      rw [← Keyed.contains, ← catalogued.isSome_slot, stands]
      rfl
    · intro stands
      obtain ⟨e, kept⟩ := Option.isSome_iff_exists.1 stands
      have named := (catalogued.describes.proper key e kept).1
      refine all key (Text.utf8 e.canonical) (catalogued.accepts key named) ?_
      rw [catalogued.describes.slot, kept]
      rfl
  rw [Follows, PersistentCache.step, listed]
  exact ⟨congrArg (fun keys => Except.ok (CacheAnswer.keys keys)) same, catalogued⟩

theorem has (catalogued : c.IsCatalogued m) (named : DirectoryCache.IsProper key) :
    Follows c m (.has key) := by
  refine ⟨?_, catalogued⟩
  rw [PersistentCache.step, has_of_works catalogued.works (catalogued.accepts key named),
    catalogued.isSome_slot]
  rfl

theorem load (catalogued : c.IsCatalogued m) (named : DirectoryCache.IsProper key) :
    Follows c m (.load key) := by
  have accepted := catalogued.accepts key named
  rw [Follows, PersistentCache.step, load_snd]
  refine ⟨?_, catalogued⟩
  rw [Catalogue.step]
  cases kept : m.get? key with
  | none =>
    rw [load_of_free catalogued.works accepted (catalogued.slot_eq_none_iff.2 kept)]
    rfl
  | some e =>
    obtain ⟨-, bounds, unsealed⟩ := catalogued.describes.proper key e kept
    have stands : c.slot key = some (.ofText e.canonical) := by
      rw [catalogued.describes.slot, kept]
      rfl
    have read : Entity.load e.canonical = .ok e := by rw [Entity.load_canonical bounds, unsealed]
    have keeps : c.Keeps key e := keeps_of_ofText catalogued.works accepted stands read
    rw [show (c.load key).1 = .ok (some e) from keeps]
    rfl

theorem save (catalogued : c.IsCatalogued m) (named : DirectoryCache.IsProper key)
    (bounds : e.InBounds) (overwrite : Bool) : Follows c m (.save key e overwrite) := by
  have works := catalogued.works
  have accepted := catalogued.accepts key named
  rw [Follows, PersistentCache.step, Catalogue.step, ← catalogued.isSome_slot]
  by_cases refused : ((c.slot key).isSome && !overwrite) = true
  · obtain ⟨taken, rfl⟩ : (c.slot key).isSome = true ∧ overwrite = false := by
      simpa using refused
    rw [if_pos refused, save_of_taken works accepted (Option.isSome_iff_ne_none.1 taken)]
    exact ⟨rfl, catalogued⟩
  · have same : c.save key e overwrite = c.save key e true := by
      cases overwrite with
      | true => rfl
      | false =>
        have free : c.slot key = none := by simpa using refused
        exact save_of_free works accepted free false
    obtain ⟨saved, becomes⟩ := becomes_save works accepted catalogued.slot_ne_folder e
    rw [if_neg refused, same, saved]
    exact ⟨rfl, catalogued.becomes becomes (catalogued.describes.insert named bounds)⟩

theorem remove (catalogued : c.IsCatalogued m) (named : DirectoryCache.IsProper key) :
    Follows c m (.remove key) := by
  have accepted := catalogued.accepts key named
  have becomes := becomes_remove catalogued.works accepted catalogued.slot_ne_folder
  rw [Follows, PersistentCache.step, Catalogue.step,
    remove_fst catalogued.works accepted catalogued.slot_ne_folder, catalogued.isSome_slot]
  exact ⟨rfl, catalogued.becomes becomes (catalogued.describes.erase key)⟩

theorem rename (catalogued : c.IsCatalogued m) (named : DirectoryCache.IsProper key)
    (named' : DirectoryCache.IsProper newKey) : Follows c m (.rename key newKey) := by
  have works := catalogued.works
  have accepted := catalogued.accepts key named
  have accepted' := catalogued.accepts newKey named'
  rw [Follows, PersistentCache.step, Catalogue.step]
  cases kept : m.get? key with
  | none =>
    -- Nothing is there to be moved, so that only the order of the two tests can tell.
    have absent := catalogued.slot_eq_none_iff.2 kept
    rw [rename_of_absent works accepted accepted' absent, catalogued.isSome_slot]
    dsimp only
    split
    · exact ⟨rfl, catalogued⟩
    · exact ⟨rfl, catalogued⟩
  | some e =>
    obtain ⟨-, bounds, unsealed⟩ := catalogued.describes.proper key e kept
    have found : c.slot key = some (.ofText e.canonical) := by
      rw [catalogued.describes.slot, kept]
      rfl
    dsimp only
    rw [← catalogued.isSome_slot]
    by_cases taken : (c.slot newKey).isSome = true
    · have moved := rename_of_taken works accepted accepted' found
        (Option.isSome_iff_ne_none.1 taken)
      rw [if_pos taken, moved]
      exact ⟨rfl, catalogued⟩
    · have free : c.slot newKey = none := by simpa using taken
      -- The text under the old key goes to the new one, which described nothing before.
      obtain ⟨moved, becomes⟩ := becomes_rename works accepted accepted' found free
      have describes := (catalogued.describes.erase key).insert named' bounds
      rw [unsealed] at describes
      rw [if_neg taken, moved]
      exact ⟨rfl, catalogued.becomes becomes describes⟩

/-- **One request.** A cache answers it as its catalogue does. -/
theorem step (catalogued : c.IsCatalogued m) (accepted : request.IsAccepted) :
    Follows c m request := by
  cases request with
  | list => exact catalogued.list
  | has key => exact catalogued.has accepted
  | load key => exact catalogued.load accepted
  | save key e overwrite => exact catalogued.save accepted.1 accepted.2 overwrite
  | remove key => exact catalogued.remove accepted
  | rename key newKey => exact catalogued.rename accepted.1 accepted.2

/-- **A run of requests.** A cache keeps what its catalogue does throughout a run that directories
accept. -/
theorem after (catalogued : c.IsCatalogued .empty) {requests : List CacheRequest}
    (accepted : ∀ request ∈ requests, request.IsAccepted) :
    (CacheRequest.after PersistentCache.step requests c).renameOrder = c.renameOrder ∧
      (CacheRequest.after PersistentCache.step requests c).IsCatalogued
        (Catalogue.after requests) := by
  refine CacheRequest.related_after
    (fun (c' : PersistentCache) m => c'.renameOrder = c.renameOrder ∧ c'.IsCatalogued m)
    (fun request c' m accepted related => ?_) accepted ⟨rfl, catalogued⟩
  refine ⟨(renameOrder_step c' request).trans related.1, ?_⟩
  have follows := (related.2.step accepted).2
  rwa [Catalogue.step_snd] at follows

/-- A cache in which nothing stands keeps what the empty catalogue has. -/
theorem empty (works : c.Works) (accepts : ∀ key, DirectoryCache.IsProper key → c.Accepts key)
    (free : ∀ key, c.slot key = none) : c.IsCatalogued .empty :=
  ⟨works, accepts, free, nofun⟩

end IsCatalogued

/-- **Directories and tables are interchangeable unless a request clashes.** After any run of
requests that directories accept, a directory answers the next request as a finite map does. A table
gives the same answer if and only if the request does not clash with what is kept by then; if it
does, the table says that the new key is taken, and not that there is nothing under the old one. -/
theorem interchangeable_iff {requests : List CacheRequest} {request : CacheRequest}
    (accepted : ∀ earlier ∈ requests, earlier.IsAccepted) (accepted' : request.IsAccepted) :
    let kept := Catalogue.after requests
    let ofDirectory := (step request (CacheRequest.after step requests (directory .empty))).1
    let ofTable := (step request (CacheRequest.after step requests (table .empty))).1
    ofDirectory = (Catalogue.step .oldFirst request kept).1 ∧
      (ofTable = ofDirectory ↔ ¬ request.Clashes kept) ∧
      ∀ key newKey, request = .rename key newKey → request.Clashes kept →
        ofDirectory = .ok (.told false) ∧ ofTable = .error (.alreadyExists newKey) := by
  intro kept ofDirectory ofTable
  have directory_empty : (directory .empty).IsCatalogued .empty :=
    .empty (.directory _) (fun _ named => named) fun _ => rfl
  have table_empty : (table .empty).IsCatalogued .empty :=
    .empty (.table _) (fun _ _ => trivial) fun _ => rfl
  have of_directory : ofDirectory = (Catalogue.step .oldFirst request kept).1 := by
    obtain ⟨order, catalogued⟩ := directory_empty.after accepted
    have same := (catalogued.step accepted').1
    rwa [order] at same
  have of_table : ofTable = (Catalogue.step .newFirst request kept).1 := by
    obtain ⟨order, catalogued⟩ := table_empty.after accepted
    have same := (catalogued.step accepted').1
    rwa [order] at same
  refine ⟨of_directory, by rw [of_table, of_directory, Catalogue.step_newFirst_iff], ?_⟩
  -- Where they clash, the directory has missed the old key before it looks at the new one.
  rintro key newKey rfl ⟨absent, taken⟩
  have taken : kept.contains newKey = true := Option.isSome_iff_ne_none.2 taken
  rw [of_directory, of_table, Catalogue.step, Catalogue.step, absent]
  simp [taken]

/-- An entity under the key `b`. -/
def stocking : CacheRequest := .save "b" (.ofId "https://idp.example.org") false

/-- What is not there is to be renamed to `b`. -/
def moving : CacheRequest := .rename "a" "b"

theorem isAccepted_stocking : stocking.IsAccepted := ⟨⟨rfl, by decide⟩, Entity.inBounds_ofId _⟩

theorem isAccepted_moving : moving.IsAccepted := ⟨⟨rfl, by decide⟩, ⟨rfl, by decide⟩⟩

theorem interchangeable_iff_moving :
    moving.Clashes (Catalogue.after [stocking]) ∧
      (step moving (CacheRequest.after step [stocking] (directory .empty))).1
        = .ok (.told false) ∧
      (step moving (CacheRequest.after step [stocking] (table .empty))).1
        = .error (.alreadyExists "b") := by
  have clashes : moving.Clashes (Catalogue.after [stocking]) := ⟨rfl, nofun⟩
  have both := interchangeable_iff (List.forall_mem_singleton.2 isAccepted_stocking)
    isAccepted_moving
  exact ⟨clashes, both.2.2 "a" "b" rfl clashes⟩

/-- A table and a directory to which the same was done can answer differently, and the table then
does not answer as a finite map. -/
theorem not_always_interchangeable : ¬ ∀ (requests : List CacheRequest) (request : CacheRequest),
    (∀ earlier ∈ requests, earlier.IsAccepted) → request.IsAccepted →
      (step request (CacheRequest.after step requests (table .empty))).1
          = (step request (CacheRequest.after step requests (directory .empty))).1 ∧
        (step request (CacheRequest.after step requests (table .empty))).1
          = (Catalogue.step .oldFirst request (Catalogue.after requests)).1 := by
  intro always
  have same := (always [stocking] moving (List.forall_mem_singleton.2 isAccepted_stocking)
    isAccepted_moving).1
  have of_table : (step moving (CacheRequest.after step [stocking] (table .empty))).1
      = .error (.alreadyExists "b") := rfl
  have of_directory : (step moving (CacheRequest.after step [stocking] (directory .empty))).1
      = .ok (.told false) := rfl
  rw [of_table, of_directory] at same
  cases same

end PersistentCache

end Federation
