/-
# Finite maps

A finite map lists its entries in the order in which their keys were first put in, each key
once. What a map holds is told by `get?`; the lemmas say what every operation
does to it.
-/

namespace Federation

/-- A finite map from keys to values. -/
structure Keyed (κ α : Type) where
  entries : List (κ × α)
  nodup : (entries.map (·.1)).Nodup

namespace Keyed

variable {κ α β : Type}

/-- Puts a value under a key in a list of entries. -/
def put [DecidableEq κ] (key : κ) (value : α) : List (κ × α) → List (κ × α)
  | [] => [(key, value)]
  | (other, v) :: rest =>
    if other = key then (key, value) :: rest else (other, v) :: put key value rest

theorem map_fst_put [DecidableEq κ] (key : κ) (value : α) (entries : List (κ × α)) :
    (put key value entries).map (·.1)
      = if key ∈ entries.map (·.1) then entries.map (·.1) else entries.map (·.1) ++ [key] := by
  induction entries with
  | nil => simp [put]
  | cons head rest ih =>
    obtain ⟨other, v⟩ := head
    by_cases same : other = key
    · simp [put, same]
    · have different : ¬ key = other := fun h => same h.symm
      simp only [put, same, if_false, List.map_cons, ih, List.mem_cons, different, false_or]
      split <;> simp

/-- The map without entries. -/
def empty : Keyed κ α := ⟨[], List.nodup_nil⟩

instance : Inhabited (Keyed κ α) := ⟨empty⟩

/-- The value under a key. -/
def get? [DecidableEq κ] (m : Keyed κ α) (key : κ) : Option α := m.entries.lookup key

/-- The keys, in the order in which they were first put in. -/
def keys (m : Keyed κ α) : List κ := m.entries.map (·.1)

/-- The number of keys. -/
def size (m : Keyed κ α) : Nat := m.entries.length

/-- Is there a value under a key? -/
def contains [DecidableEq κ] (m : Keyed κ α) (key : κ) : Bool := (m.get? key).isSome

/-- Puts a value under a key, in place of the one that was there. -/
def insert [DecidableEq κ] (m : Keyed κ α) (key : κ) (value : α) : Keyed κ α :=
  ⟨put key value m.entries, by
    rw [map_fst_put]
    split
    · exact m.nodup
    · rename_i absent
      exact List.nodup_append.2 ⟨m.nodup, by simp, by
        intro a ha b hb
        rw [List.mem_singleton.1 hb]
        exact fun same => absent (same ▸ ha)⟩⟩

/-- Keeps the entries that satisfy a test. -/
def filter (m : Keyed κ α) (keep : κ → α → Bool) : Keyed κ α :=
  ⟨m.entries.filter fun (key, value) => keep key value,
    (List.filter_sublist.map _).nodup m.nodup⟩

/-- Takes a key out. -/
def erase [DecidableEq κ] (m : Keyed κ α) (key : κ) : Keyed κ α :=
  m.filter fun other _ => other != key

/-- Changes every value. -/
def map (m : Keyed κ α) (f : α → β) : Keyed κ β :=
  ⟨m.entries.map fun (key, value) => (key, f value), by
    have same :
        (m.entries.map fun (key, value) => (key, f value)).map (·.1) = m.entries.map (·.1) := by
      simp
    rw [same]
    exact m.nodup⟩

/-- The keys in the order of their characters. -/
def sortedKeys (m : Keyed String α) : List String :=
  m.keys.mergeSort fun a b => a ≤ b

theorem lookup_put [DecidableEq κ] (key other : κ) (value : α) (entries : List (κ × α)) :
    (put key value entries).lookup other
      = if other = key then some value else entries.lookup other := by
  induction entries with
  | nil =>
    by_cases same : other = key
    · simp [put, same]
    · have : (other == key) = false := by simpa using same
      simp [put, same, List.lookup_cons, this]
  | cons head rest ih =>
    obtain ⟨k, v⟩ := head
    by_cases same : k = key
    · subst same
      by_cases hit : other = k
      · simp [put, hit]
      · have : (other == k) = false := by simpa using hit
        simp [put, hit, List.lookup_cons, this]
    · by_cases hit : other = k
      · subst hit
        simp [put, same]
      · have : (other == k) = false := by simpa using hit
        simp [put, same, List.lookup_cons, this, ih]

@[simp]
theorem get?_empty [DecidableEq κ] (key : κ) : (empty : Keyed κ α).get? key = none := rfl

theorem lookup_eq_none_of_not_mem [DecidableEq κ] {key : κ} {entries : List (κ × α)}
    (absent : key ∉ entries.map (·.1)) : entries.lookup key = none := by
  induction entries with
  | nil => rfl
  | cons head rest ih =>
    obtain ⟨k, v⟩ := head
    simp only [List.map_cons, List.mem_cons, not_or] at absent
    have : (key == k) = false := by simpa using absent.1
    simp [List.lookup_cons, this, ih absent.2]

/-- There is nothing under a key that is not listed. -/
theorem get?_eq_none_of_not_mem [DecidableEq κ] {m : Keyed κ α} {key : κ}
    (absent : key ∉ m.keys) : m.get? key = none :=
  lookup_eq_none_of_not_mem absent

/-- Putting a value under a key changes what is under that key only. -/
theorem get?_insert [DecidableEq κ] (m : Keyed κ α) (key other : κ) (value : α) :
    (m.insert key value).get? other = if other = key then some value else m.get? other :=
  lookup_put key other value m.entries

theorem lookup_filter_key [DecidableEq κ] (keep : κ → Bool) (key : κ) (entries : List (κ × α)) :
    (entries.filter fun (k, _) => keep k).lookup key
      = if keep key then entries.lookup key else none := by
  induction entries with
  | nil => simp
  | cons head rest ih =>
    obtain ⟨k, v⟩ := head
    by_cases hit : key = k
    · subst hit
      by_cases kept : keep key <;> simp [kept]
      simpa [kept] using ih
    · have : (key == k) = false := by simpa using hit
      by_cases kept : keep k <;> simp [kept, List.lookup_cons, this, ih]

/-- Taking a key out changes what is under that key only. -/
theorem get?_erase [DecidableEq κ] (m : Keyed κ α) (key other : κ) :
    (m.erase key).get? other = if other = key then none else m.get? other := by
  have := lookup_filter_key (fun k => k != key) other m.entries
  simp only [erase, filter, get?]
  rw [this]
  by_cases same : other = key <;> simp [same]

theorem lookup_filter [DecidableEq κ] (keep : κ → α → Bool) (key : κ) {entries : List (κ × α)}
    (nodup : (entries.map (·.1)).Nodup) :
    (entries.filter fun (k, v) => keep k v).lookup key = (entries.lookup key).filter (keep key) := by
  induction entries with
  | nil => rfl
  | cons head rest ih =>
    obtain ⟨k, v⟩ := head
    obtain ⟨unique, distinct⟩ := List.nodup_cons.1 nodup
    specialize ih distinct
    by_cases hit : key = k
    · subst hit
      have nothing : rest.lookup key = none := lookup_eq_none_of_not_mem unique
      rw [nothing] at ih
      by_cases kept : keep key v <;> simp [kept, ih, Option.filter_some]
    · have : (key == k) = false := by simpa using hit
      by_cases kept : keep k v <;> simp [kept, List.lookup_cons, this, ih]

/-- Keeping the entries that satisfy a test keeps what is under a key if it does. -/
theorem get?_filter [DecidableEq κ] (m : Keyed κ α) (keep : κ → α → Bool) (key : κ) :
    (m.filter keep).get? key = (m.get? key).filter (keep key) :=
  lookup_filter keep key m.nodup

end Keyed

end Federation
