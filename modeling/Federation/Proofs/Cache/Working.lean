/-
# Caches that work

If nothing is wrong with a persistent cache, all kinds of caches do the same: what stands under a
key is a text, a folder, or nothing, and every operation changes what stands under the keys that it
names and nothing else. A directory does so for keys that can be names of files, and the standard
keys of entities can.

## Main definitions

- `PersistentCache.Works`: nothing is wrong with a cache.
- `PersistentCache.Accepts`: a key that a cache can work with.
- `PersistentCache.slot`: what stands under a key.
- `PersistentCache.Becomes`: what a cache that works has become.

## Main results

- `keeps_iff`, `exists_list`: reading a cache that works.
- `becomes_remove`, `rename_of_taken`, `becomes_rename`, `becomes_save`: changing one.
- `accepts_standardKey`: every cache can work with the standard keys.
-/

import Mathlib.Logic.Function.Basic
import Federation.Proofs.Cache.Copies

namespace Federation

open Federation.Metadata

/-- A key is listed if there is something under it. -/
theorem Keyed.mem_keys_iff {κ α : Type} [DecidableEq κ] {m : Keyed κ α} {key : κ} :
    key ∈ m.keys ↔ (m.get? key).isSome = true := by
  constructor
  · intro listed
    obtain ⟨⟨_, value⟩, entry, rfl⟩ := List.mem_map.1 listed
    rw [← Option.ne_none_iff_isSome]
    intro nothing
    have others := List.lookup_eq_none_iff.1 nothing _ entry
    simp at others
  · intro stands
    refine Classical.not_not.1 fun absent => ?_
    rw [get?_eq_none_of_not_mem absent] at stands
    cases stands

/-! ## Standard keys -/

/-- A byte is written with two characters of which keys are made, neither of them a dot. -/
theorem Text.Hex.isKeyChar_digit : ∀ n : Fin 256,
    (DirectoryCache.isKeyChar (digit (UInt8.ofNat n / 16)) = true ∧
      digit (UInt8.ofNat n / 16) ≠ '.') ∧
    DirectoryCache.isKeyChar (digit (UInt8.ofNat n % 16)) = true := by
  decide +kernel

namespace DirectoryCache

theorem all_isKeyChar_encodeChars (bytes : List UInt8) :
    (Text.Hex.encodeChars bytes).all isKeyChar = true := by
  rw [Text.Hex.encodeChars, List.all_eq_true]
  intro c written
  obtain ⟨b, -, digits⟩ := List.mem_flatMap.1 written
  have of_byte := Text.Hex.isKeyChar_digit ⟨b.toNat, b.toNat_lt⟩
  simp only [UInt8.ofNat_toNat] at of_byte
  simp only [List.mem_cons, List.not_mem_nil, or_false] at digits
  rcases digits with rfl | rfl
  · exact of_byte.1.1
  · exact of_byte.2

/-- Two digits a byte are a proper name, unless there are too many. -/
theorem isProper_encode {bytes : List UInt8} (some_byte : bytes ≠ []) (few : bytes.length ≤ 127) :
    IsProper (Text.Hex.encode bytes) := by
  have size : (Text.Hex.encode bytes).utf8ByteSize = 2 * bytes.length := by
    have written : (Text.Hex.encode bytes).utf8ByteSize
        = (Text.utf8 (Text.Hex.encode bytes)).length := by
      simp [String.utf8ByteSize, Text.utf8, Text.Hex.encode, List.utf8Encode]
    rw [written, Text.Hex.utf8_encode]
    clear some_byte few written
    induction bytes with
    | nil => rfl
    | cons b rest ih =>
      rw [List.flatMap_cons, List.length_append, ih, List.length_cons]
      exact Nat.add_comm 2 _
  refine ⟨?_, by rw [size, longestName]; omega⟩
  obtain ⟨b, rest, rfl⟩ := List.exists_cons_of_ne_nil some_byte
  have of_byte := Text.Hex.isKeyChar_digit ⟨b.toNat, b.toNat_lt⟩
  simp only [UInt8.ofNat_toNat] at of_byte
  have all := all_isKeyChar_encodeChars (b :: rest)
  rw [isKey, Text.Hex.encode, String.toList_ofList]
  show (Text.Hex.digit (b / 16) != '.' && (Text.Hex.encodeChars (b :: rest)).all isKeyChar) = true
  rw [all, Bool.and_true, bne_iff_ne]
  exact of_byte.1.2

theorem isProper_standardKey (e : Entity) : IsProper (standardKey e) := by
  have size : (Digest.sha256 (Text.utf8 e.entityId)).length = 32 := by
    simp [Digest.sha256, Digest.wordBytes]
  refine isProper_encode (fun none_left => ?_) (by omega)
  rw [none_left] at size
  cases size

/-! ## Directories -/

variable {d : DirectoryCache} {key newKey : String} {entry : DirectoryEntry} {e : Entity}

/-- The name of an unfinished write is no proper name. -/
theorem isTemporary_of_isProper (proper : IsProper key) : isTemporary key = false := by
  have named := proper.1
  rw [isKey] at named
  rw [isTemporary]
  cases letters : key.toList with
  | nil => rfl
  | cons c rest =>
    rw [letters] at named
    have other : c ≠ '.' := by
      rintro rfl
      cases named
    have cut : Text.dropPrefix? ".tmp-".toList (c :: rest) = none := by
      show Text.dropPrefix? ('.' :: "tmp-".toList) (c :: rest) = none
      rw [Text.dropPrefix?, if_neg]
      simpa using Ne.symm other
    rw [cut]
    rfl

theorem mem_list_iff : key ∈ d.list ↔
    isTemporary key = false ∧ ∃ bytes, d.entries.get? key = some (.file bytes) := by
  rw [list, Keyed.mem_keys_iff, Keyed.get?_filter]
  cases d.entries.get? key with
  | none => simp
  | some entry => cases entry <;> simp [Option.filter_some]

theorem rename_of_taken (proper : IsProper key) (proper' : IsProper newKey)
    (found : d.entries.get? key = some entry) (taken : d.entries.get? newKey ≠ none) :
    d.rename key newKey = (.error (.alreadyExists newKey), d) := by
  obtain ⟨other, stands⟩ := Option.ne_none_iff_exists'.1 taken
  simp [rename, proper.1, proper'.1, find_of_isProper d proper, find_of_isProper d proper', found,
    stands]

theorem rename_of_free (proper : IsProper key) (proper' : IsProper newKey)
    (found : d.entries.get? key = some entry) (free : d.entries.get? newKey = none) :
    d.rename key newKey = (.ok true, ⟨(d.entries.erase key).insert newKey entry⟩) := by
  simp [rename, proper.1, proper'.1, find_of_isProper d proper, find_of_isProper d proper', found,
    free]

theorem save_of_proper (proper : IsProper key) (file : d.entries.get? key ≠ some .folder) :
    d.save key e true = (.ok (), ⟨d.entries.insert key (.ofText e.canonical)⟩) := by
  simp [save, find_of_isProper d proper, file]

end DirectoryCache

/-! ## Tables -/

namespace TableCache

variable {t : TableCache} {rows : Keyed String String} {key newKey text : String}
  {bytes : List UInt8} {e : Entity}

/-- What stands under a key of a table: a text or nothing. -/
def slot (t : TableCache) (key : String) : Option DirectoryEntry := (t.peek key).map .ofText

theorem slot_eq_some_iff :
    t.slot key = some (.file bytes) ↔ ∃ text, t.peek key = some text ∧ Text.utf8 text = bytes := by
  simp [slot, DirectoryEntry.ofText]

theorem slot_insert (rows : Keyed String String) (key text : String) :
    (TableCache.mk (some (rows.insert key text))).slot
      = Function.update (TableCache.mk (some rows)).slot key (some (.ofText text)) := by
  funext other
  rw [Function.update_apply]
  simp only [slot, peek, Option.bind_some, Keyed.get?_insert]
  split <;> rfl

theorem slot_erase (rows : Keyed String String) (key : String) :
    (TableCache.mk (some (rows.erase key))).slot
      = Function.update (TableCache.mk (some rows)).slot key none := by
  funext other
  rw [Function.update_apply]
  simp only [slot, peek, Option.bind_some, Keyed.get?_erase]
  split <;> rfl

theorem exists_remove (rows : Keyed String String) (key : String) :
    ∃ rows', ((TableCache.mk (some rows)).remove key).2 = ⟨some rows'⟩ ∧
      (TableCache.mk (some rows')).slot
        = Function.update (TableCache.mk (some rows)).slot key none := by
  rw [remove]
  dsimp only
  cases stands : rows.contains key with
  | true => exact ⟨_, rfl, slot_erase rows key⟩
  | false =>
    refine ⟨rows, rfl, (Function.update_eq_self_iff.2 ?_).symm⟩
    have absent : rows.get? key = none := by simpa [Keyed.contains] using stands
    rw [slot, peek, Option.bind_some, absent]
    rfl

theorem rename_of_taken (rows : Keyed String String) (key : String)
    (taken : rows.get? newKey ≠ none) :
    (TableCache.mk (some rows)).rename key newKey
      = (.error (.alreadyExists newKey), ⟨some rows⟩) := by
  obtain ⟨other, stands⟩ := Option.ne_none_iff_exists'.1 taken
  simp [rename, Keyed.contains, stands]

theorem rename_of_free (rows : Keyed String String) (found : rows.get? key = some text)
    (free : rows.get? newKey = none) :
    (TableCache.mk (some rows)).rename key newKey
      = (.ok true, ⟨some ((rows.erase key).insert newKey text)⟩) := by
  simp [rename, Keyed.contains, found, free]

theorem save_overwriting (rows : Keyed String String) (key : String) (e : Entity) :
    (TableCache.mk (some rows)).save key e true
      = (.ok (), ⟨some (rows.insert key e.canonical)⟩) := by
  simp [save]

end TableCache

/-! ## All caches -/

namespace PersistentCache

variable {c c' : PersistentCache} {key newKey other : String} {bytes : List UInt8} {e : Entity}

/-- Nothing is wrong with a cache: no table is missing, and no operation is told to fail. -/
inductive Works : PersistentCache → Prop where
  | directory (d : DirectoryCache) : Works (directory d)
  | table (rows : Keyed String String) : Works (table ⟨some rows⟩)
  | memory (rows : Keyed String String) (pausing : Bool) : Works (memory ⟨⟨some rows⟩, pausing, []⟩)

/-- A cache can work with a key. -/
def Accepts : PersistentCache → String → Prop
  | directory _, key => DirectoryCache.IsProper key
  | table _, _ => True
  | memory _, _ => True

/-- What stands under a key. In a table it is a text or nothing. -/
def slot : PersistentCache → String → Option DirectoryEntry
  | directory d, key => d.entries.get? key
  | table t, key => t.slot key
  | memory m, key => m.table.slot key

theorem accepts_standardKey (c : PersistentCache) (e : Entity) : c.Accepts (standardKey e) := by
  cases c with
  | directory d => exact DirectoryCache.isProper_standardKey e
  | table t => exact trivial
  | memory m => exact trivial

/-! ### Reading -/

/-- What is kept under a key is what the text there says. -/
theorem keeps_iff (works : c.Works) :
    c.Keeps key e ↔
      c.Accepts key ∧ ∃ bytes, c.slot key = some (.file bytes) ∧ Entity.loadBytes bytes = .ok e := by
  have of_table (rows : Keyed String String) :
      (TableCache.mk (some rows)).load key = .ok (some e) ↔
        True ∧ ∃ bytes, (TableCache.mk (some rows)).slot key = some (.file bytes) ∧
          Entity.loadBytes bytes = .ok e := by
    simp [TableCache.load_eq_some_iff, TableCache.slot_eq_some_iff, TableCache.peek,
      Entity.loadBytes_utf8]
  cases works with
  | directory d => exact DirectoryCache.load_eq_some_iff
  | table rows => exact of_table rows
  | memory rows pausing =>
    refine Iff.trans ?_ (of_table rows)
    rw [keeps_memory_iff]
    exact and_iff_right rfl

/-- A text under a key is the copy that it is read as. -/
theorem keeps_of_ofText {text : String} (works : c.Works) (accepted : c.Accepts key)
    (found : c.slot key = some (.ofText text)) (read : Entity.load text = .ok e) :
    c.Keeps key e :=
  (keeps_iff works).2 ⟨accepted, _, found, (Entity.loadBytes_utf8 text).trans read⟩

/-- A cache that works can be listed, which gives every text under a key that it can work with. -/
theorem exists_list (works : c.Works) :
    ∃ keys, c.list = (.ok keys, c) ∧ keys.Nodup ∧
      (∀ key ∈ keys, ∃ bytes, c.slot key = some (.file bytes)) ∧
      ∀ key bytes, c.Accepts key → c.slot key = some (.file bytes) → key ∈ keys := by
  have of_table (rows : Keyed String String) (key : String) :
      key ∈ rows.keys ↔ ∃ bytes, (TableCache.mk (some rows)).slot key = some (.file bytes) := by
    rw [Keyed.mem_keys_iff, Option.isSome_iff_exists]
    constructor
    · rintro ⟨text, found⟩
      exact ⟨_, TableCache.slot_eq_some_iff.2 ⟨text, found, rfl⟩⟩
    · rintro ⟨bytes, found⟩
      obtain ⟨text, found, -⟩ := TableCache.slot_eq_some_iff.1 found
      exact ⟨text, found⟩
  cases works with
  | directory d =>
    refine ⟨d.list, rfl, Keyed.nodup _, fun key listed => (DirectoryCache.mem_list_iff.1 listed).2,
      fun key bytes proper found => ?_⟩
    exact DirectoryCache.mem_list_iff.2 ⟨DirectoryCache.isTemporary_of_isProper proper, bytes, found⟩
  | table rows =>
    exact ⟨rows.keys, rfl, rows.nodup, fun key => (of_table rows key).1,
      fun key bytes _ found => (of_table rows key).2 ⟨bytes, found⟩⟩
  | memory rows pausing =>
    exact ⟨rows.keys, rfl, rows.nodup, fun key => (of_table rows key).1,
      fun key bytes _ found => (of_table rows key).2 ⟨bytes, found⟩⟩

/-! ### Changing -/

/-- A cache works, can work with the same keys as another, and has something under them. -/
structure Becomes (c c' : PersistentCache) (slots : String → Option DirectoryEntry) : Prop where
  works : c'.Works
  accepts : ∀ key, c'.Accepts key ↔ c.Accepts key
  slot : c'.slot = slots

variable {slots slots' : String → Option DirectoryEntry}

theorem becomes_self (works : c.Works) : c.Becomes c c.slot := ⟨works, fun _ => Iff.rfl, rfl⟩

theorem Becomes.trans {c'' : PersistentCache} (first : c.Becomes c' slots)
    (second : c'.Becomes c'' slots') : c.Becomes c'' slots' :=
  ⟨second.works, fun key => (second.accepts key).trans (first.accepts key), second.slot⟩

/-- The same is kept under a key where the same stands. -/
theorem Becomes.keeps_iff (becomes : c.Becomes c' slots) (works : c.Works)
    (same : slots key = c.slot key) : c'.Keeps key e ↔ c.Keeps key e := by
  rw [PersistentCache.keeps_iff becomes.works, PersistentCache.keeps_iff works, becomes.accepts,
    becomes.slot, same]

/-- Taking a key out empties its slot. -/
theorem becomes_remove (works : c.Works) (accepted : c.Accepts key)
    (file : c.slot key ≠ some .folder) :
    c.Becomes (c.remove key).2 (Function.update c.slot key none) := by
  cases works with
  | directory d =>
    refine ⟨.directory _, fun _ => Iff.rfl, ?_⟩
    funext other
    have file : d.entries.get? key ≠ some .folder := file
    show (d.remove key).2.entries.get? other = Function.update d.entries.get? key none other
    rw [DirectoryCache.get?_remove d accepted, Function.update_apply]
    simp [file]
  | table rows =>
    obtain ⟨rows', left, slots⟩ := TableCache.exists_remove rows key
    have left : ((table ⟨some rows⟩).remove key).2 = table ⟨some rows'⟩ := congrArg table left
    rw [left]
    exact ⟨.table rows', fun _ => Iff.rfl, slots⟩
  | memory rows pausing =>
    obtain ⟨rows', left, slots⟩ := TableCache.exists_remove rows key
    have left : ((memory ⟨⟨some rows⟩, pausing, []⟩).remove key).2
        = memory ⟨⟨some rows'⟩, pausing, []⟩ :=
      congrArg (fun t => memory ⟨t, pausing, []⟩) left
    rw [left]
    exact ⟨.memory rows' pausing, fun _ => Iff.rfl, slots⟩

/-- A file under one key is not moved to another that is taken. -/
theorem rename_of_taken (works : c.Works) (accepted : c.Accepts key) (accepted' : c.Accepts newKey)
    (found : c.slot key = some (.file bytes)) (taken : c.slot newKey ≠ none) :
    c.rename key newKey = (.error (.alreadyExists newKey), c) := by
  have of_table {rows : Keyed String String}
      (taken : (TableCache.mk (some rows)).slot newKey ≠ none) : rows.get? newKey ≠ none := by
    intro nothing
    exact taken (by rw [TableCache.slot, TableCache.peek, Option.bind_some, nothing]; rfl)
  cases works with
  | directory d =>
    have same := DirectoryCache.rename_of_taken accepted accepted' found taken
    exact congrArg (carry directory) same
  | table rows =>
    have same := TableCache.rename_of_taken rows key (of_table taken)
    exact congrArg (carry table) same
  | memory rows pausing =>
    have same := TableCache.rename_of_taken rows key (of_table taken)
    exact congrArg (carry fun t => memory ⟨t, pausing, []⟩) same

/-- A file is moved from under one key to another that is free. -/
theorem becomes_rename (works : c.Works) (accepted : c.Accepts key)
    (accepted' : c.Accepts newKey) (found : c.slot key = some (.file bytes))
    (free : c.slot newKey = none) :
    (c.rename key newKey).1 = .ok true ∧
      c.Becomes (c.rename key newKey).2
        (Function.update (Function.update c.slot key none) newKey (some (.file bytes))) := by
  -- A table is renamed alike in a database and in memory.
  have of_table {rows : Keyed String String}
      (found : (TableCache.mk (some rows)).slot key = some (.file bytes))
      (free : (TableCache.mk (some rows)).slot newKey = none) :
      ∃ rows', (TableCache.mk (some rows)).rename key newKey = (.ok true, ⟨some rows'⟩) ∧
        (TableCache.mk (some rows')).slot = Function.update (Function.update
          (TableCache.mk (some rows)).slot key none) newKey (some (.file bytes)) := by
    obtain ⟨text, kept, rfl⟩ := TableCache.slot_eq_some_iff.1 found
    have kept : rows.get? key = some text := kept
    have free : rows.get? newKey = none := Option.map_eq_none_iff.1 free
    exact ⟨_, TableCache.rename_of_free rows kept free, by
      rw [TableCache.slot_insert, TableCache.slot_erase, DirectoryEntry.ofText]⟩
  cases works with
  | directory d =>
    have moved := DirectoryCache.rename_of_free accepted accepted' found free
    have moved : (directory d).rename key newKey = (.ok true, directory _) :=
      congrArg (carry directory) moved
    rw [moved]
    refine ⟨rfl, .directory _, fun _ => Iff.rfl, ?_⟩
    funext other
    simp only [slot, Keyed.get?_insert, Keyed.get?_erase, Function.update_apply]
  | table rows =>
    obtain ⟨rows', moved, slots⟩ := of_table found free
    have moved : (table ⟨some rows⟩).rename key newKey = (.ok true, table ⟨some rows'⟩) :=
      congrArg (carry table) moved
    rw [moved]
    exact ⟨rfl, .table rows', fun _ => Iff.rfl, slots⟩
  | memory rows pausing =>
    obtain ⟨rows', moved, slots⟩ := of_table found free
    have moved : (memory ⟨⟨some rows⟩, pausing, []⟩).rename key newKey
        = (.ok true, memory ⟨⟨some rows'⟩, pausing, []⟩) :=
      congrArg (carry fun t => memory ⟨t, pausing, []⟩) moved
    rw [moved]
    exact ⟨rfl, .memory rows' pausing, fun _ => Iff.rfl, slots⟩

/-- Writing an entity under a key fills its slot. -/
theorem becomes_save (works : c.Works) (accepted : c.Accepts key)
    (file : c.slot key ≠ some .folder) (e : Entity) :
    (c.save key e true).1 = .ok () ∧
      c.Becomes (c.save key e true).2 (Function.update c.slot key (some (.ofText e.canonical))) := by
  cases works with
  | directory d =>
    have saved := DirectoryCache.save_of_proper (e := e) accepted file
    have saved : (directory d).save key e true = (.ok (), directory _) :=
      congrArg (carry directory) saved
    rw [saved]
    refine ⟨rfl, .directory _, fun _ => Iff.rfl, ?_⟩
    funext other
    simp only [slot, Keyed.get?_insert, Function.update_apply]
  | table rows =>
    have saved : (table ⟨some rows⟩).save key e true
        = (.ok (), table ⟨some (rows.insert key e.canonical)⟩) :=
      congrArg (carry table) (TableCache.save_overwriting rows key e)
    rw [saved]
    exact ⟨rfl, .table _, fun _ => Iff.rfl, TableCache.slot_insert rows key e.canonical⟩
  | memory rows pausing =>
    have saved : (memory ⟨⟨some rows⟩, pausing, []⟩).save key e true
        = (.ok (), memory ⟨⟨some (rows.insert key e.canonical)⟩, pausing, []⟩) :=
      congrArg (carry fun t => memory ⟨t, pausing, []⟩) (TableCache.save_overwriting rows key e)
    rw [saved]
    exact ⟨rfl, .memory _ pausing, fun _ => Iff.rfl, TableCache.slot_insert rows key e.canonical⟩

end PersistentCache

end Federation
