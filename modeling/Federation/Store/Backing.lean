/-
# The backing store

The store keeps the descriptions of each entity together with the instant at which they
expire and that of their last use, and files them in the indexes. Reading marks the records
of an entity as used.
-/

import Federation.Index.Table

namespace Federation

open Federation.Metadata Federation.Time

/-- A cached description. -/
structure CacheRecord where
  entity : Entity
  expiration : Instant
  lastAccess : Instant
deriving DecidableEq, Repr

namespace CacheRecord

/-- A record is expired at its expiration and after. -/
def isExpired (r : CacheRecord) (now : Instant) : Bool := r.expiration ≤ now

/-- A record is idle if its last use is longer ago than a limit. -/
def isIdle (r : CacheRecord) (now : Instant) (limit : Option Span) : Bool :=
  match limit with
  | some limit => limit < now.span r.lastAccess
  | none => false

/-- Is a record to be evicted? -/
def isDue (r : CacheRecord) (now : Instant) (limit : Option Span) : Bool :=
  r.isExpired now || r.isIdle now limit

/-- Marks a record as used. -/
def touch (now : Instant) (r : CacheRecord) : CacheRecord := { r with lastAccess := now }

/-- Pushes the expiration out to an instant, if it is earlier. -/
def extend (until_ : Instant) (r : CacheRecord) : CacheRecord :=
  { r with expiration := r.expiration.latest until_ }

end CacheRecord

/-- Records by ID, and the indexes over them. -/
structure BackingStore where
  records : Keyed String (List CacheRecord)
  tables : IndexTables

namespace BackingStore

/-- A store without records. -/
def empty (indexes : List EntityIndex) : BackingStore := ⟨.empty, .ofIndexes indexes⟩

/-- Are there records of an entity? -/
def contains (s : BackingStore) (id : String) : Bool := s.records.contains id

/-- The number of entities. -/
def size (s : BackingStore) : Nat := s.records.size

/-- The IDs in the order of their characters. -/
def entityIds (s : BackingStore) : List String := s.records.sortedKeys

/-- The records of an entity, marked as used, and the store with that mark. -/
def get (s : BackingStore) (id : String) (now : Instant) :
    Option (List CacheRecord) × BackingStore :=
  match s.records.get? id with
  | none => (none, s)
  | some records =>
    let used := records.map (.touch now)
    (some used, { s with records := s.records.insert id used })

/-- Takes an entity out of the store and the indexes. -/
def remove (s : BackingStore) (id : String) : BackingStore :=
  match s.records.get? id with
  | none => s
  | some _ => ⟨s.records.erase id, s.tables.remove id⟩

/-- Puts records of an entity in place of those that were there. No records take it out. -/
def insert (s : BackingStore) (id : String) (records : List CacheRecord) : BackingStore :=
  if records.isEmpty then s.remove id
  else ⟨s.records.insert id records, s.tables.refile id (records.map (·.entity))⟩

/-- Pushes out the expiration of the records of an entity; tells whether there are any. -/
def extendExpiration (s : BackingStore) (id : String) (until_ : Instant) : Bool × BackingStore :=
  match s.records.get? id with
  | none => (false, s)
  | some records => (true, { s with records := s.records.insert id (records.map (.extend until_)) })

/-- Evicts the records of one entity that are due; gives their number. -/
def evict (now : Instant) (idleLimit : Option Span) (s : BackingStore) (id : String) :
    Nat × BackingStore :=
  match s.records.get? id with
  | none => (0, s)
  | some records =>
    let left := records.filter fun r => !r.isDue now idleLimit
    if left.length = records.length then (0, s)
    else (records.length - left.length, s.insert id left)

/-- Evicts all records that are due; gives their number. -/
def cleanup (s : BackingStore) (now : Instant) (idleLimit : Option Span) : Nat × BackingStore :=
  s.records.keys.foldl
    (fun (evicted, s) id =>
      let (n, s) := evict now idleLimit s id
      (evicted + n, s))
    (0, s)

/-- Takes every entity out. -/
def clear (s : BackingStore) : BackingStore :=
  s.records.keys.foldl remove s

/-! ## What is found after an operation -/

/-- The records of an entity, if there are any. -/
def find? (s : BackingStore) (id : String) : Option (List CacheRecord) := s.records.get? id

theorem get_fst (s : BackingStore) (id : String) (now : Instant) :
    (s.get id now).1 = (s.find? id).map (List.map (.touch now)) := by
  simp only [get, find?]
  cases s.records.get? id <;> rfl

/-- Reading touches the records of one entity. -/
theorem find?_get (s : BackingStore) (id other : String) (now : Instant) :
    (s.get id now).2.find? other
      = if other = id then (s.find? id).map (List.map (.touch now)) else s.find? other := by
  simp only [get, find?]
  cases found : s.records.get? id with
  | none => by_cases same : other = id <;> simp [same, found]
  | some records => simp [Keyed.get?_insert]

/-- Removing takes out the records of one entity. -/
theorem find?_remove (s : BackingStore) (id other : String) :
    (s.remove id).find? other = if other = id then none else s.find? other := by
  simp only [remove, find?]
  cases found : s.records.get? id with
  | none => by_cases same : other = id <;> simp [same, found]
  | some records => simp [Keyed.get?_erase]

/-- Inserting replaces the records of one entity. -/
theorem find?_insert (s : BackingStore) (id other : String) (records : List CacheRecord) :
    (s.insert id records).find? other
      = if other = id then (if records.isEmpty then none else some records) else s.find? other := by
  simp only [insert]
  split
  · rw [find?_remove]
  · simp [find?, Keyed.get?_insert]

/-- Extending changes the records of one entity. -/
theorem find?_extendExpiration (s : BackingStore) (id other : String) (until_ : Instant) :
    (s.extendExpiration id until_).2.find? other
      = if other = id then (s.find? id).map (List.map (.extend until_)) else s.find? other := by
  simp only [extendExpiration, find?]
  cases found : s.records.get? id with
  | none => by_cases same : other = id <;> simp [same, found]
  | some records => simp [Keyed.get?_insert]

theorem find?_foldl_remove (ids : List String) (s : BackingStore) (other : String) :
    (ids.foldl remove s).find? other = if other ∈ ids then none else s.find? other := by
  induction ids generalizing s with
  | nil => simp
  | cons id rest ih =>
    rw [List.foldl_cons, ih, find?_remove]
    by_cases later : other ∈ rest
    · simp [later]
    · by_cases same : other = id <;> simp [later, same]

/-- Nothing is found after clearing. -/
theorem find?_clear (s : BackingStore) (other : String) : s.clear.find? other = none := by
  rw [clear, find?_foldl_remove]
  split
  · rfl
  · rename_i absent
    exact Keyed.get?_eq_none_of_not_mem absent

/-- The IDs a query finds through the indexes. -/
def lookup (s : BackingStore) (query : Criteria) : Option (List String) :=
  s.tables.lookup query

end BackingStore

end Federation
