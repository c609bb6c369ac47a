/-
# Entity attributes

An entity carries named lists of values, such as the categories it belongs to. The names
are listed in the order of their characters and each of them once.
-/

namespace Federation.Metadata

/-- Puts a list of values under a name into entries sorted by name, replacing those that
were there. -/
def putEntry (name : String) (values : List String) :
    List (String × List String) → List (String × List String)
  | [] => [(name, values)]
  | (other, vs) :: rest =>
    if name < other then (name, values) :: (other, vs) :: rest
    else if name = other then (name, values) :: rest
    else (other, vs) :: putEntry name values rest

/-- A name in the entries after a replacement is the new one or an old one. -/
theorem mem_putEntry {name : String} {values : List String} {entries : List (String × List String)}
    {entry : String × List String} (h : entry ∈ putEntry name values entries) :
    entry = (name, values) ∨ entry ∈ entries := by
  induction entries with
  | nil => simpa [putEntry] using h
  | cons head rest ih =>
    obtain ⟨other, vs⟩ := head
    unfold putEntry at h
    split at h
    · rcases List.mem_cons.1 h with h | h
      · exact .inl h
      · exact .inr h
    · split at h
      · rcases List.mem_cons.1 h with h | h
        · exact .inl h
        · exact .inr (List.mem_cons_of_mem _ h)
      · rcases List.mem_cons.1 h with h | h
        · exact .inr (h ▸ List.mem_cons_self)
        · rcases ih h with h | h
          · exact .inl h
          · exact .inr (List.mem_cons_of_mem _ h)

/-- Replacement keeps the entries sorted. -/
theorem pairwise_putEntry (name : String) (values : List String)
    {entries : List (String × List String)} (sorted : entries.Pairwise (·.1 < ·.1)) :
    (putEntry name values entries).Pairwise (·.1 < ·.1) := by
  induction entries with
  | nil => simp [putEntry]
  | cons head rest ih =>
    obtain ⟨other, vs⟩ := head
    obtain ⟨below, sortedRest⟩ := List.pairwise_cons.1 sorted
    unfold putEntry
    split
    next lt =>
      refine List.pairwise_cons.2 ⟨?_, sorted⟩
      intro entry member
      rcases List.mem_cons.1 member with rfl | member
      · exact lt
      · exact String.lt_trans lt (below entry member)
    next notLt =>
      split
      next eq =>
        subst eq
        exact List.pairwise_cons.2 ⟨below, sortedRest⟩
      next ne =>
        refine List.pairwise_cons.2 ⟨?_, ih sortedRest⟩
        intro entry member
        rcases mem_putEntry member with rfl | member
        · rcases Decidable.em (other < name) with lt | ge
          · exact lt
          · exact absurd (String.le_antisymm (String.not_lt.1 ge) (String.not_lt.1 notLt)) ne
        · exact below entry member

/-- Named lists of values, sorted by name. -/
structure Attributes where
  entries : List (String × List String)
  sorted : entries.Pairwise (·.1 < ·.1)
deriving DecidableEq

namespace Attributes

/-- No attributes. -/
def empty : Attributes := ⟨[], List.Pairwise.nil⟩

instance : Inhabited Attributes := ⟨empty⟩

instance : Repr Attributes := ⟨fun a n => reprPrec a.entries n⟩

/-- Are there no attributes? -/
def isEmpty (a : Attributes) : Bool := a.entries.isEmpty

/-- The values under a name. -/
def get? (a : Attributes) (name : String) : Option (List String) :=
  a.entries.lookup name

/-- Puts values under a name. -/
def put (a : Attributes) (name : String) (values : List String) : Attributes :=
  ⟨putEntry name values a.entries, pairwise_putEntry name values a.sorted⟩

/-- Adds a value behind those under a name. -/
def addValue (a : Attributes) (name value : String) : Attributes :=
  a.put name ((a.get? name).getD [] ++ [value])

end Attributes

end Federation.Metadata
