/-
# Decoding records

A record is decoded from the value it is written as, and the order of its members does not
matter: neither the order in which they are written nor the one in which merging sorts them. An
*arrangement* is a way to order the members of all objects of a value, and a decoder is said to
read a value if it decodes what the arrangement makes of it.

The state of a decoder that has seen some of the members of a record depends on their names
only. So it is enough to say what is known after any of the names, and that a further member adds
its own.

## Main definitions

- `Arrangement`: a way to order the members of objects.
- `Arrangement.Reads`: a decoder reads a value.
- `slot`: a member that is known once its name has been seen.

## Main results

- `Arrangement.asWritten`, `Arrangement.sorted`: members as they are written, and as merging
  sorts them.
- `Arrangement.reads_record`: a record is read if each of its members is.
-/

import Federation.Json.Decoder

namespace Federation.Json

/-! ## Merging -/

variable {name : String} {v : Value} {items : List Value} {members : List (String × Value)}

/-- A new member goes somewhere among the others. -/
theorem putMember_perm (fresh : name ∉ members.map (·.1)) :
    (putMember name v members).Perm ((name, v) :: members) := by
  induction members with
  | nil => exact .refl _
  | cons member rest ih =>
    obtain ⟨other, w⟩ := member
    obtain ⟨ne, fresh⟩ : name ≠ other ∧ name ∉ rest.map (·.1) := by simpa using fresh
    rw [putMember]
    split
    · exact .refl _
    · exact ((ih fresh).cons _).trans (.swap _ _ _)

theorem mergedItems_eq_map : Value.mergedItems items = items.map Value.merged := by
  induction items with
  | nil => rfl
  | cons v rest ih => rw [Value.mergedItems, ih, List.map_cons]

/-- Merging keeps all members whose names are distinct. -/
theorem mergedMembers_perm (done : List (String × Value))
    (distinct : (done.map (·.1) ++ members.map (·.1)).Nodup) :
    (Value.mergedMembers done members).Perm
      (done ++ members.map fun m => (m.1, m.2.merged)) := by
  induction members generalizing done with
  | nil => simp [Value.mergedMembers]
  | cons member rest ih =>
    obtain ⟨name, v⟩ := member
    have fresh : name ∉ done.map (·.1) := fun among =>
      (List.nodup_append.1 distinct).2.2 name among name (by simp) rfl
    have put := putMember_perm (v := v.merged) fresh
    -- Names stay distinct while a member moves from one list to the other.
    have later : ((putMember name v.merged done).map (·.1) ++ rest.map (·.1)).Nodup := by
      have names := ((put.map Prod.fst).append_right (rest.map (·.1))).nodup_iff
      exact names.2 (List.perm_middle.nodup_iff.1 distinct)
    rw [Value.mergedMembers]
    refine (ih _ later).trans ((put.append_right _).trans ?_)
    rw [List.map_cons]
    exact List.perm_middle.symm

/-! ## Arrangements -/

/-- A way to order the members of all objects of a value. -/
structure Arrangement where
  /-- The value in this order. -/
  value : Value → Value
  string (s : String) : value (.string s) = .string s
  number (n : Number) : value (.number n) = .number n
  array (items : List Value) : value (.array items) = .array (items.map value)
  object (members : List (String × Value)) (distinct : (members.map (·.1)).Nodup) :
    ∃ arranged, value (.object members) = .object arranged ∧
      arranged.Perm (members.map fun m => (m.1, value m.2))

namespace Arrangement

/-- Members in the order in which they are written. -/
def asWritten : Arrangement where
  value v := v
  string _ := rfl
  number _ := rfl
  array items := by rw [List.map_id']
  object members _ := ⟨members, rfl, by rw [List.map_id']⟩

/-- Members in the order into which merging brings them. -/
def sorted : Arrangement where
  value := Value.merged
  string _ := by simp [Value.merged]
  number _ := by simp [Value.merged]
  array items := by rw [Value.merged, mergedItems_eq_map]
  object members distinct := by
    refine ⟨Value.mergedMembers [] members, by rw [Value.merged], ?_⟩
    exact mergedMembers_perm [] (by simpa using distinct)

variable {α β δ : Type} {A : Arrangement} {decoder : Decoder α} {a : α}

/-- The decoder reads the value as `a`, in the given order of members. -/
def Reads (A : Arrangement) (decoder : Decoder α) (v : Value) (a : α) : Prop :=
  decoder (A.value v).outline = .ok a

theorem reads_string (s : String) : A.Reads Json.string (.string s) s := by
  rw [Reads, A.string]
  rfl

theorem reads_natural {n max : Nat} (fits : n ≤ max) :
    A.Reads (natural max) (.number (.natural n)) n := by
  rw [Reads, A.number]
  exact if_pos fits

/-- What may be null is read as what it is, unless that could be null itself. -/
theorem Reads.optional (read : A.Reads decoder v a) (refuses : ∀ a, decoder .null ≠ .ok a) :
    A.Reads (Json.optional decoder) v (some a) := by
  rw [Reads] at read ⊢
  rw [Json.optional.eq_def]
  split
  · rename_i null
    rw [null] at read
    exact absurd read (refuses a)
  · rw [read]
    rfl

theorem reads_items {write : β → Value} {bs : List β} {meaning : β → α}
    (each : ∀ b ∈ bs, A.Reads decoder (write b) (meaning b)) :
    Json.items decoder (Value.outlines ((bs.map write).map A.value)) = .ok (bs.map meaning) := by
  induction bs with
  | nil => rfl
  | cons b rest ih =>
    have first : decoder (A.value (write b)).outline = .ok (meaning b) := each b List.mem_cons_self
    have others := ih fun b among => each b (List.mem_cons_of_mem _ among)
    rw [List.map_cons, List.map_cons, Value.outlines, Json.items, first]
    dsimp only
    rw [others]
    rfl

/-- An array is read if its items are. -/
theorem reads_map {write : β → Value} {bs : List β} {meaning : β → α}
    (each : ∀ b ∈ bs, A.Reads decoder (write b) (meaning b)) :
    A.Reads (list decoder) (.array (bs.map write)) (bs.map meaning) := by
  rw [Reads, A.array, Value.outline, list, reads_items each]
  rfl

theorem reads_list {write : α → Value} {as : List α}
    (each : ∀ a ∈ as, A.Reads decoder (write a) a) :
    A.Reads (list decoder) (.array (as.map write)) as := by
  have read : A.Reads (list decoder) (.array (as.map write)) (as.map fun a => a) := reads_map each
  rwa [List.map_id'] at read

/-! ## Records -/

variable {known : List String → δ} {step : Step δ}

/-- Members are taken one by one, and each adds its name to those that have been seen. -/
theorem members_outlines {entries : List (String × Value)}
    (taken : ∀ seen, ∀ m ∈ entries, m.1 ∉ seen →
      step (known seen) m.1 m.2.outline = .ok (known (m.1 :: seen)))
    (seen : List String) (distinct : (entries.map (·.1)).Nodup)
    (fresh : ∀ m ∈ entries, m.1 ∉ seen) :
    Json.members step (known seen) (Value.memberOutlines entries)
      = .ok (known ((entries.map (·.1)).reverse ++ seen)) := by
  -- What has been seen grows by the name of the first member, which no other member has.
  induction entries generalizing seen with
  | nil => rfl
  | cons m rest ih =>
    obtain ⟨unique, distinct⟩ := List.nodup_cons.1 distinct
    have first := taken seen m List.mem_cons_self (fresh m List.mem_cons_self)
    have others := ih (fun seen m among => taken seen m (List.mem_cons_of_mem _ among))
      (m.1 :: seen) distinct (by
        intro other among
        have ne : other.1 ≠ m.1 := by
          intro same
          have listed : other.1 ∈ rest.map (·.1) := List.mem_map.2 ⟨other, among, rfl⟩
          rw [same] at listed
          exact unique listed
        simp [ne, fresh other (List.mem_cons_of_mem _ among)])
    rw [Value.memberOutlines, Json.members, first]
    dsimp only
    rw [others, List.map_cons, List.reverse_cons, List.append_assoc, List.singleton_append]

/-- An object keeps the names of its members. -/
theorem exists_object (distinct : (members.map (·.1)).Nodup) :
    ∃ arranged, A.value (.object members) = .object arranged ∧
      (arranged.map (·.1)).Perm (members.map (·.1)) ∧
      ∀ m ∈ arranged, ∃ written ∈ members, m = (written.1, A.value written.2) := by
  obtain ⟨arranged, made, perm⟩ := A.object members distinct
  refine ⟨arranged, made, by simpa [Function.comp_def] using perm.map Prod.fst, fun m among => ?_⟩
  obtain ⟨written, own, same⟩ := List.mem_map.1 (perm.mem_iff.1 among)
  exact ⟨written, own, same.symm⟩

/-- The members of an object are taken in the order of the arrangement, until all names have
been seen. -/
theorem exists_members (known : List String → δ) (step : Step δ)
    (distinct : (members.map (·.1)).Nodup)
    (taken : ∀ seen, ∀ m ∈ members, m.1 ∉ seen →
      step (known seen) m.1 (A.value m.2).outline = .ok (known (m.1 :: seen))) :
    ∃ arranged seen, A.value (.object members) = .object arranged ∧
      (∀ name, name ∈ seen ↔ name ∈ members.map (·.1)) ∧
      Json.members step (known []) (Value.memberOutlines arranged) = .ok (known seen) := by
  obtain ⟨arranged, made, names, values⟩ := A.exists_object distinct
  refine ⟨arranged, (arranged.map (·.1)).reverse ++ [], made, fun name => ?_, ?_⟩
  · rw [List.append_nil, List.mem_reverse, names.mem_iff]
  · refine members_outlines ?_ [] (names.nodup_iff.2 distinct) (by simp)
    intro seen m among fresh
    obtain ⟨written, own, rfl⟩ := values m among
    exact taken seen written own fresh

/-- **A record is read** if each of its members is taken as what it is written from, whatever
members have been seen before, and the record is known once all of them have been seen. -/
theorem reads_record (known : List String → δ) {names : List String} {start : δ} {finish : δ → Except Fault α}
    (blank : known [] = start) (distinct : (members.map (·.1)).Nodup)
    (taken : ∀ seen, ∀ m ∈ members, m.1 ∉ seen →
      step (known seen) m.1 (A.value m.2).outline = .ok (known (m.1 :: seen)))
    (finished : ∀ seen, (∀ name, name ∈ seen ↔ name ∈ members.map (·.1)) →
      finish (known seen) = .ok a) :
    A.Reads (record names step start finish) (.object members) a := by
  obtain ⟨arranged, seen, made, all, ends⟩ := exists_members known step distinct taken
  rw [blank] at ends
  rw [Reads, made, Value.outline, record, ends]
  exact finished seen all

end Arrangement

/-! ## Slots -/

section slot

variable {α : Type} {seen : List String} {other : String} {a b : α}

/-- A member that is known once its name has been seen. -/
def slot (seen : List String) (name : String) (a : α) : Option α :=
  if name ∈ seen then some a else none

@[simp]
theorem slot_nil : slot [] name a = none := rfl

@[simp]
theorem slot_cons_self : slot (name :: seen) name a = some a := by
  simp [slot]

@[simp]
theorem slot_cons_of_ne (ne : name ≠ other) : slot (other :: seen) name a = slot seen name a := by
  simp [slot, ne]

/-- A member that must be there is there once it has been seen. -/
theorem require_slot (among : name ∈ seen) : require (slot seen name a) = .ok a := by
  rw [slot, if_pos among]
  rfl

/-- A member that is left out where it has its default is known even so. -/
theorem getD_slot (default : name ∉ seen → a = b) : (slot seen name a).getD b = a := by
  rw [slot]
  split
  · rfl
  · rename_i fresh
    exact (default fresh).symm

/-- A member that has not been seen is filled with what its value is read as. -/
theorem Arrangement.Reads.fill_slot {δ : Type} {A : Arrangement} {decoder : Decoder α}
    (read : A.Reads decoder v a) (fresh : name ∉ seen) (set : α → δ) :
    fill (slot seen name b) decoder set (A.value v).outline = .ok (set a) := by
  rw [Reads] at read
  rw [slot, if_neg fresh, fill, read]
  rfl

end slot

end Federation.Json
