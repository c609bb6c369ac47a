/-
# How long descriptions are kept

A description may state any number of seconds of 64 bits for which it may be cached. The number is
moved into the bounds of the policy only after it was made a span, and there is no span of that many
seconds if the number is too large. Apart from that nothing goes wrong in the next few thousand
years, as long as the bounds of the policy are no more than centuries: what is valid is kept for no
less than the policy says, no longer than the policy says, and not beyond its validity, except that
the end of the validity may be sooner than the policy has it.

## Main definitions

- `Metadata.Entity.InReach`: the cache duration that a description states is within reach.
- `CachePolicy.IsCentennial`: the durations of a policy are a hundred years or less.

## Main results

- `CachePolicy.expiration_eq_overflow_iff`: which descriptions cannot be kept.
- `CachePolicy.expiration_bounds`: when a description expires.
-/

import Federation.Proofs.Resolver.Expiration

namespace Federation

open Federation.Metadata Federation.Time

/-! ## Durations -/

namespace Time.Span

/-- What is moved into bounds of a hundred years stays within a hundred years, whether or not the
bounds are in order. -/
theorem IsCentennial.clamp {lower upper : Span} (least : lower.IsCentennial)
    (most : upper.IsCentennial) (d : Span) : (d.clamp lower upper).IsCentennial := by
  have seconds_mono {d d' : Span} (longer : ¬ d' < d) : d.seconds ≤ d'.seconds :=
    Int.tdiv_le_tdiv (by decide) (Int.not_lt.1 longer)
  rw [Span.clamp]
  split
  · exact least
  · rename_i not_below
    split
    · exact most
    · rename_i not_above
      exact ⟨Int.le_trans least.1 (seconds_mono not_below),
        Int.le_trans (seconds_mono not_above) most.2⟩

end Time.Span

namespace Metadata.Entity

variable {e : Entity} {now later : Instant}

/-- The cache duration that a description states, if it states one, is within the reach of spans. -/
def InReach (e : Entity) : Prop := ∀ n ∈ e.cacheSeconds, n ≤ 9223372036854775

theorem cacheDuration_eq_unrepresentable_iff : e.cacheDuration = .unrepresentable ↔ ¬ e.InReach := by
  rw [cacheDuration, InReach]
  cases e.cacheSeconds with
  | none => simp
  | some n =>
    have natural : -9223372036854775 ≤ (n : Int) := by omega
    have same : (n : Int) ≤ 9223372036854775 ↔ n ≤ 9223372036854775 := Int.ofNat_le
    by_cases fits : n ≤ 9223372036854775 <;> simp [Span.ofSeconds?, natural, same, fits]

theorem isValidAt_eq_false_iff :
    e.isValidAt now = false ↔ ∃ until_, e.validUntil = some until_ ∧ until_ ≤ now := by
  rw [isValidAt]
  cases e.validUntil with
  | none => simp
  | some until_ => simp [Instant.not_lt]

/-- What is valid later is valid before. -/
theorem isValidAt_of_le (earlier : now ≤ later) (valid : e.isValidAt later = true) :
    e.isValidAt now = true := by
  rw [← Bool.not_eq_false, isValidAt_eq_false_iff] at valid ⊢
  rintro ⟨until_, stated, passed⟩
  exact valid ⟨until_, stated, Instant.le_trans passed earlier⟩

end Metadata.Entity

namespace CachePolicy

variable {policy : CachePolicy} {now soonest latest expiration : Instant} {e : Entity}
  {requested : Span}

/-- The bounds of a policy are in order, and its durations are a hundred years or less. -/
structure IsCentennial (policy : CachePolicy) : Prop where
  ordered : policy.shortest ≤ policy.longest
  shortest : policy.shortest.IsCentennial
  longest : policy.longest.IsCentennial
  negative : ∀ d, policy.negative = some d → d.IsCentennial
  retained : ∀ d, policy.onFailure = .retain d → d.IsCentennial

theorem isCentennial_standard : CachePolicy.standard.IsCentennial where
  ordered := by decide
  shortest := ⟨by decide, by decide⟩
  longest := ⟨by decide, by decide⟩
  negative := by
    rintro _ ⟨⟩
    exact ⟨by decide, by decide⟩
  retained := by
    rintro _ ⟨⟩
    exact ⟨by decide, by decide⟩

/-! ## Ends of lifetimes -/

theorem endOf_ne_overflow (centennial : policy.IsCentennial) (near : now.IsNear) :
    policy.endOf e now requested ≠ .overflow := by
  obtain ⟨t, reached⟩ :=
    near.exists_add? (centennial.shortest.clamp centennial.longest requested)
  rw [endOf, reached]
  cases e.validUntil <;> simp

/-- When a lifetime ends that begins now. -/
theorem endOf_bounds (positive : .zero < policy.shortest) (ordered : policy.shortest ≤ policy.longest)
    (least : now.add? policy.shortest = some soonest) (most : now.add? policy.longest = some latest)
    (ends : policy.endOf e now requested = .ok expiration) :
    expiration ≤ latest ∧ (soonest ≤ expiration ∨ e.validUntil = some expiration) := by
  obtain ⟨lower, upper⟩ := Span.clamp_mem (d := requested) ordered
  have forward : Span.zero ≤ policy.shortest := Int.le_of_lt positive
  rw [endOf] at ends
  split at ends
  · cases ends
  rename_i t reached
  -- Longer spans lead no less far, and the span is between the bounds of the policy.
  have late : soonest ≤ t := Instant.add?_mono forward lower least reached
  have early : t ≤ latest := Instant.add?_mono (Int.le_trans forward lower) upper reached most
  cases states : e.validUntil with
  | none =>
    rw [states] at ends
    obtain rfl := Outcome.ok.inj ends
    exact ⟨early, .inl late⟩
  | some until_ =>
    rw [states] at ends
    obtain rfl := Outcome.ok.inj ends
    refine ⟨Instant.le_trans (Instant.earliest_le_left t until_) early, ?_⟩
    rw [Instant.earliest]
    split
    · exact .inr rfl
    · exact .inl late

/-! ## Expirations -/

theorem expiration_eq_none_iff :
    policy.expiration e now = .ok none ↔ e.isValidAt now = false := by
  refine ⟨fun none_ => ?_, expiration_of_not_valid⟩
  rw [← Bool.not_eq_true]
  intro valid
  rcases expiration_of_valid policy valid with overflowed | ⟨requested, same⟩
  · rw [overflowed] at none_
    cases none_
  · rw [same, Outcome.map_eq_ok] at none_
    obtain ⟨t, -, some_⟩ := none_
    cases some_

/-- Exactly what is valid and states a duration out of reach cannot be kept. -/
theorem expiration_eq_overflow_iff (centennial : policy.IsCentennial) (near : now.IsNear) :
    policy.expiration e now = .overflow ↔ e.isValidAt now = true ∧ ¬ e.InReach := by
  rw [← Entity.cacheDuration_eq_unrepresentable_iff, expiration]
  cases e.isValidAt now with
  | false => simp
  | true =>
    have ends (requested : Span) : (policy.endOf e now requested).map some ≠ .overflow := by
      rw [ne_eq, Outcome.map_eq_overflow]
      exact endOf_ne_overflow centennial near
    cases e.cacheDuration <;> simp [ends]

/-- Among what is valid, exactly what states a duration out of reach cannot be recorded. -/
theorem record_eq_overflow_iff (centennial : policy.IsCentennial) (near : now.IsNear)
    (valid : e.isValidAt now = true) : policy.record e now = .overflow ↔ ¬ e.InReach := by
  rw [record, Outcome.map_eq_overflow, expiration_eq_overflow_iff centennial near, valid]
  simp

/-- When a description expires. -/
theorem expiration_bounds (positive : .zero < policy.shortest)
    (ordered : policy.shortest ≤ policy.longest)
    (least : now.add? policy.shortest = some soonest) (most : now.add? policy.longest = some latest)
    (expires : policy.expiration e now = .ok (some expiration)) :
    now < expiration ∧ expiration ≤ latest ∧
      (∀ until_, e.validUntil = some until_ → expiration ≤ until_) ∧
      (soonest ≤ expiration ∨ e.validUntil = some expiration) := by
  have valid : e.isValidAt now = true := by
    rw [← Bool.not_eq_false]
    intro invalid
    rw [expiration_of_not_valid invalid] at expires
    cases expires
  rcases expiration_of_valid policy valid with overflowed | ⟨requested, same⟩
  · rw [overflowed] at expires
    cases expires
  · have ends := expires
    rw [same, Outcome.map_eq_ok] at ends
    obtain ⟨t, ends, some_⟩ := ends
    obtain rfl := Option.some_inj.1 some_
    obtain ⟨early, late⟩ := endOf_bounds positive ordered least most ends
    exact ⟨lt_endOf positive ordered valid ends, early,
      fun until_ => expiration_le_validUntil expires, late⟩

end CachePolicy

end Federation
