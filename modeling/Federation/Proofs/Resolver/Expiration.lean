/-
# Which records are made

Of the descriptions that come together, those that are valid are recorded, in their order and
without the text they were read from. No record is made to outlive the validity of its
description, and where lifetimes are longer than none, none is made that has expired.
-/

import Federation.Proofs.Time.Range
import Federation.Resolver.Expiration

namespace Federation.CachePolicy

open Federation.Metadata Federation.Time

variable {policy : CachePolicy} {now : Instant} {e : Entity} {entities : List Entity}
  {record : CacheRecord} {records : List CacheRecord}

/-- The end that a policy sets is not after the end of the validity. -/
theorem endOf_le_validUntil {requested : Span} {expiration until_ : Instant}
    (ends : policy.endOf e now requested = .ok expiration) (valid : e.validUntil = some until_) :
    expiration ≤ until_ := by
  rw [endOf, valid] at ends
  split at ends
  · cases ends
  · obtain rfl := Outcome.ok.inj ends
    exact Instant.earliest_le_right _ _

theorem expiration_of_not_valid (invalid : e.isValidAt now = false) :
    policy.expiration e now = .ok none := by
  rw [CachePolicy.expiration, invalid]
  rfl

/-- What is valid expires at the end of some lifetime that begins now. -/
theorem expiration_of_valid (policy : CachePolicy) (valid : e.isValidAt now = true) :
    policy.expiration e now = .overflow ∨
      ∃ requested, policy.expiration e now = (policy.endOf e now requested).map some := by
  rw [CachePolicy.expiration, valid]
  cases e.cacheDuration with
  | unstated => exact .inr ⟨policy.longest, rfl⟩
  | stated d => exact .inr ⟨d, rfl⟩
  | unrepresentable => exact .inl rfl

theorem expiration_le_validUntil {expiration until_ : Instant}
    (expires : policy.expiration e now = .ok (some expiration))
    (states : e.validUntil = some until_) : expiration ≤ until_ := by
  cases valid : e.isValidAt now with
  | false =>
    rw [expiration_of_not_valid valid] at expires
    cases expires
  | true =>
    rcases expiration_of_valid policy valid with overflowed | ⟨requested, same⟩
    · rw [overflowed] at expires
      cases expires
    · rw [same, Outcome.map_eq_ok] at expires
      obtain ⟨t, ends, made⟩ := expires
      obtain rfl := Option.some_inj.1 made
      exact endOf_le_validUntil ends states

/-- A description is recorded if, and only if, it is valid. -/
theorem record_eq {made : Option CacheRecord} (recorded : policy.record e now = .ok made) :
    (e.isValidAt now = false ∧ made = none) ∨
      (e.isValidAt now = true ∧ ∃ expiration, policy.expiration e now = .ok (some expiration) ∧
        made = some ⟨e.withoutWireForm, expiration, now⟩) := by
  rw [CachePolicy.record, Outcome.map_eq_ok] at recorded
  obtain ⟨expiration, expires, rfl⟩ := recorded
  cases valid : e.isValidAt now with
  | false =>
    rw [expiration_of_not_valid valid] at expires
    obtain rfl := Outcome.ok.inj expires
    exact .inl ⟨rfl, rfl⟩
  | true =>
    rcases expiration_of_valid policy valid with overflowed | ⟨requested, same⟩
    · rw [overflowed] at expires
      cases expires
    · rw [same, Outcome.map_eq_ok] at expires
      obtain ⟨t, ends, rfl⟩ := expires
      refine .inr ⟨rfl, t, ?_, rfl⟩
      rw [same, ends]
      rfl

/-- The records of a list are those of its first description, followed by those of the rest. -/
theorem records_cons (recorded : policy.records now (e :: entities) = .ok records) :
    ∃ made rest, policy.record e now = .ok made ∧ policy.records now entities = .ok rest ∧
      records = made.toList ++ rest := by
  rw [CachePolicy.records, Outcome.bind_eq_ok] at recorded
  obtain ⟨made, first, others⟩ := recorded
  rw [Outcome.map_eq_ok] at others
  obtain ⟨rest, others, rfl⟩ := others
  exact ⟨made, rest, first, others, rfl⟩

/-- The valid descriptions are recorded, in their order. -/
theorem map_entity_records (recorded : policy.records now entities = .ok records) :
    records.map (·.entity) = (entities.filter (·.isValidAt now)).map (·.withoutWireForm) := by
  induction entities generalizing records with
  | nil =>
    obtain rfl := Outcome.ok.inj recorded
    rfl
  | cons e entities ih =>
    obtain ⟨made, rest, first, others, rfl⟩ := records_cons recorded
    rw [List.map_append, ih others]
    rcases record_eq first with ⟨invalid, rfl⟩ | ⟨valid, t, -, rfl⟩
    · simp [invalid]
    · simp [valid]

/-- Every record is of one of the descriptions, which is valid, and expires when the policy
says so. -/
theorem mem_records (recorded : policy.records now entities = .ok records)
    (made : record ∈ records) :
    ∃ e ∈ entities, e.isValidAt now = true ∧ record.entity = e.withoutWireForm ∧
      policy.expiration e now = .ok (some record.expiration) := by
  induction entities generalizing records with
  | nil =>
    obtain rfl := Outcome.ok.inj recorded
    cases made
  | cons e entities ih =>
    obtain ⟨one, rest, first, others, rfl⟩ := records_cons recorded
    rcases List.mem_append.1 made with head | tail
    · rcases record_eq first with ⟨-, rfl⟩ | ⟨valid, t, expires, rfl⟩
      · cases head
      · obtain rfl := List.mem_singleton.1 head
        exact ⟨e, List.mem_cons_self, valid, rfl, expires⟩
    · obtain ⟨other, listed, found⟩ := ih others tail
      exact ⟨other, List.mem_cons_of_mem e listed, found⟩

/-- No record outlives the validity of its description. -/
theorem expiration_le_of_mem_records (recorded : policy.records now entities = .ok records)
    (made : record ∈ records) {until_ : Instant} (valid : record.entity.validUntil = some until_) :
    record.expiration ≤ until_ := by
  obtain ⟨e, -, -, same, expires⟩ := mem_records recorded made
  rw [same] at valid
  exact expiration_le_validUntil expires valid

/-- Where no lifetime is empty, a lifetime that begins now ends later, if the validity does. -/
theorem lt_endOf {requested : Span} {expiration : Instant} (positive : .zero < policy.shortest)
    (ordered : policy.shortest ≤ policy.longest) (valid : e.isValidAt now = true)
    (ends : policy.endOf e now requested = .ok expiration) : now < expiration := by
  have lifetime : Span.zero < requested.clamp policy.shortest policy.longest :=
    Int.lt_of_lt_of_le positive (Span.clamp_mem ordered).1
  rw [endOf] at ends
  split at ends
  · cases ends
  · rename_i t reached
    have later : now < t := Instant.lt_of_add? lifetime reached
    rw [Entity.isValidAt] at valid
    cases states : e.validUntil with
    | none =>
      rw [states] at ends
      exact Outcome.ok.inj ends ▸ later
    | some until_ =>
      rw [states] at ends valid
      exact Outcome.ok.inj ends ▸ Instant.lt_earliest_iff.2 ⟨later, of_decide_eq_true valid⟩

/-- So no record is made that has expired. -/
theorem lt_expiration_of_mem_records (positive : .zero < policy.shortest)
    (ordered : policy.shortest ≤ policy.longest)
    (recorded : policy.records now entities = .ok records) (made : record ∈ records) :
    now < record.expiration := by
  obtain ⟨e, -, valid, -, expires⟩ := mem_records recorded made
  rcases expiration_of_valid policy valid with overflowed | ⟨requested, same⟩
  · rw [overflowed] at expires
    cases expires
  · rw [same, Outcome.map_eq_ok] at expires
    obtain ⟨t, ends, same⟩ := expires
    exact Option.some_inj.1 same ▸ lt_endOf positive ordered valid ends

/-- A record is made at its first use. -/
theorem map_touch_records (recorded : policy.records now entities = .ok records) :
    records.map (.touch now) = records := by
  induction entities generalizing records with
  | nil =>
    obtain rfl := Outcome.ok.inj recorded
    rfl
  | cons e entities ih =>
    obtain ⟨made, rest, first, others, rfl⟩ := records_cons recorded
    rw [List.map_append, ih others]
    rcases record_eq first with ⟨-, rfl⟩ | ⟨-, t, -, rfl⟩ <;> rfl

/-! ## Which records are live later -/

/-- Is a description that was recorded at one instant still live at another? -/
def isLive (policy : CachePolicy) (since now : Instant) (e : Entity) : Bool :=
  match policy.expiration e since with
  | .ok (some expiration) => now < expiration
  | _ => false

/-- The records that are live later are those of the descriptions that still are, in their
order. -/
theorem map_entity_live_records (recorded : policy.records now entities = .ok records)
    (later : Instant) :
    (records.filter fun record => !record.isExpired later).map (·.entity)
      = (entities.filter (policy.isLive now later)).map (·.withoutWireForm) := by
  induction entities generalizing records with
  | nil =>
    obtain rfl := Outcome.ok.inj recorded
    rfl
  | cons e entities ih =>
    obtain ⟨made, rest, first, others, rfl⟩ := records_cons recorded
    rw [List.filter_append, List.map_append, ih others]
    rcases record_eq first with ⟨invalid, rfl⟩ | ⟨valid, t, expires, rfl⟩
    · simp [isLive, expiration_of_not_valid invalid]
    · by_cases live : later < t
      · simp [isLive, expires, CacheRecord.isExpired, live, Instant.not_le.2 live]
      · simp [isLive, expires, CacheRecord.isExpired, live, Instant.not_lt.1 live]

theorem isValidAt_of_isLive {later : Instant} (live : policy.isLive now later e = true) :
    e.isValidAt later = true := by
  rw [isLive] at live
  split at live
  · rename_i expiration expires
    rw [Entity.isValidAt]
    cases states : e.validUntil with
    | none => rfl
    | some until_ =>
      have before : later < expiration := of_decide_eq_true live
      exact decide_eq_true (Instant.lt_of_lt_of_le before (expiration_le_validUntil expires states))
  · cases live

/-! ## Recording does not fail

A date or duration may be out of range, but nothing else goes wrong. -/

theorem endOf_ne_failed (requested : Span) (failure : Failure) :
    policy.endOf e now requested ≠ .failed failure := by
  rw [endOf]
  split
  · simp
  · split <;> simp

theorem expiration_ne_failed (failure : Failure) : policy.expiration e now ≠ .failed failure := by
  intro failed
  cases valid : e.isValidAt now with
  | false =>
    rw [expiration_of_not_valid valid] at failed
    cases failed
  | true =>
    rcases expiration_of_valid policy valid with overflowed | ⟨requested, same⟩
    · rw [overflowed] at failed
      cases failed
    · rw [same, Outcome.map_eq_failed] at failed
      exact endOf_ne_failed requested failure failed

theorem record_ne_failed (failure : Failure) : policy.record e now ≠ .failed failure := by
  intro failed
  rw [CachePolicy.record, Outcome.map_eq_failed] at failed
  exact expiration_ne_failed failure failed

theorem records_ne_failed (failure : Failure) : policy.records now entities ≠ .failed failure := by
  induction entities with
  | nil => simp [CachePolicy.records]
  | cons e entities ih =>
    intro failed
    rw [CachePolicy.records, Outcome.bind_eq_failed] at failed
    rcases failed with first | ⟨made, -, others⟩
    · exact record_ne_failed failure first
    · rw [Outcome.map_eq_failed] at others
      exact ih others

theorem exists_records (inRange : policy.records now entities ≠ .overflow) :
    ∃ records, policy.records now entities = .ok records := by
  cases recorded : policy.records now entities with
  | ok records => exact ⟨records, rfl⟩
  | failed failure => exact absurd recorded (records_ne_failed failure)
  | overflow => exact absurd recorded inRange

/-- Recording a list leaves the range exactly when recording one of its descriptions does. -/
theorem records_eq_overflow_iff :
    policy.records now entities = .overflow ↔ ∃ e ∈ entities, policy.record e now = .overflow := by
  induction entities with
  | nil => simp [CachePolicy.records]
  | cons e entities ih =>
    simp only [CachePolicy.records, List.mem_cons, exists_eq_or_imp]
    cases first : policy.record e now with
    | ok made => rw [← ih, Outcome.bind, Outcome.map_eq_overflow]; simp
    | failed failure => exact absurd first (record_ne_failed failure)
    | overflow => simp [Outcome.bind]

end Federation.CachePolicy
