/-
# Settings that can be used

Durations are set in whole seconds of 64 bits and turned into spans. A number of seconds that does
not fit into 63 bits counts as the longest span, and so was meant to be one that fits but is out of
the reach of spans. It has no span: what turns it into one is cut short. Settings pass the check with
such a number nevertheless, unless it is that of the one duration that the check itself turns into a
span, and then the check is cut short.

Without such numbers, settings that pass the check can be used: the bounds of the rules of caching
are in order, a resolver with these rules and the ID that was set is accepted, jobs run at intervals
that are longer than none, and building the service does not meet a duration out of reach.

## Main definitions

- `Settings.HasSpan`: a number of seconds that can be turned into a span.
- `Settings.InReach`: all numbers of seconds of some settings can.
- `Settings.Usable`: what settings are turned into is there and makes sense.

## Main results

- `Settings.spanOfSeconds_eq`: the span of a number of seconds.
- `Settings.not_hasSpan_of_check`: by what the check is cut short.
- `Settings.build_ne_overflow`: building the service is not cut short within reach.
- `Settings.usable_iff_inReach`: which settings that pass the check can be used.
-/

import Federation.Service.Build
import Mathlib.Data.List.DropRight

namespace Federation

open Federation.Time

namespace Settings

variable {s : Settings} {n m : Nat}

/-! ## Spans of numbers of seconds -/

/-- A number of seconds can be turned into a span unless it is out of the reach of spans and fits
into 63 bits. -/
def HasSpan (n : Nat) : Prop := n ≤ 9223372036854775 ∨ 9223372036854775807 < n

instance (n : Nat) : Decidable (HasSpan n) := inferInstanceAs (Decidable (_ ∨ _))

/-- Within reach a number of seconds is a span of as many, and larger ones are the longest. -/
theorem spanOfSeconds_eq (n : Nat) :
    spanOfSeconds n
      = if HasSpan n then .ok (.ofSeconds (min n 9223372036854775 : Nat)) else .overflow := by
  rw [spanOfSeconds, Span.ofSeconds?]
  by_cases fits : n ≤ 9223372036854775807
  · rw [if_pos fits]
    by_cases near : n ≤ 9223372036854775
    · rw [if_pos (by omega), if_pos (.inl near), Nat.min_eq_left near]
      rfl
    · have outside : ¬ HasSpan n := by
        rintro (within | beyond) <;> omega
      rw [if_neg (by omega), if_neg outside]
      rfl
  · rw [if_neg fits, if_pos (by decide), if_pos (.inr (by omega)), Nat.min_eq_right (by omega)]
    rfl

theorem spanOfSeconds_eq_ok {d : Span} :
    spanOfSeconds n = .ok d ↔ HasSpan n ∧ d = .ofSeconds (min n 9223372036854775 : Nat) := by
  rw [spanOfSeconds_eq]
  by_cases reached : HasSpan n <;> simp [reached, eq_comm]

theorem spanOfSeconds_eq_overflow : spanOfSeconds n = .overflow ↔ ¬ HasSpan n := by
  rw [spanOfSeconds_eq]
  by_cases reached : HasSpan n <;> simp [reached]

theorem spanOfSeconds_ne_failed {failure : Failure} : spanOfSeconds n ≠ .failed failure := by
  rw [spanOfSeconds_eq]
  split <;> exact nofun

theorem hasSpan_zero : HasSpan 0 := .inl (Nat.zero_le _)

theorem spanUnlessZero_eq_overflow : spanUnlessZero n = .overflow ↔ ¬ HasSpan n := by
  rw [spanUnlessZero]
  by_cases zero : n = 0
  · simp [zero, hasSpan_zero]
  · simp [zero, bind, Outcome.bind_eq_overflow, spanOfSeconds_eq_overflow, pure]

theorem spanUnlessZero_ne_failed {failure : Failure} : spanUnlessZero n ≠ .failed failure := by
  rw [spanUnlessZero]
  by_cases zero : n = 0 <;>
    simp [zero, bind, Outcome.bind_eq_failed, spanOfSeconds_ne_failed, pure]

theorem exists_spanUnlessZero_iff : (∃ d, spanUnlessZero n = .ok d) ↔ HasSpan n := by
  cases converted : spanUnlessZero n with
  | ok d => simpa [converted] using spanUnlessZero_eq_overflow (n := n)
  | failed failure => exact absurd converted spanUnlessZero_ne_failed
  | overflow => simpa using spanUnlessZero_eq_overflow.1 converted

/-- The spans of numbers of seconds are in their order. -/
theorem ofSeconds_min_mono (h : n ≤ m) :
    Span.ofSeconds (min n 9223372036854775 : Nat) ≤ .ofSeconds (min m 9223372036854775 : Nat) := by
  show (min n 9223372036854775 : Nat) * (1000000000 : Int)
    ≤ (min m 9223372036854775 : Nat) * 1000000000
  omega

theorem zero_le_ofSeconds (n : Nat) : Span.zero ≤ .ofSeconds n := by
  show (0 : Int) ≤ n * 1000000000
  omega

/-! ## The check -/

/-- A step of the check that was passed. -/
theorem passed_step {α β : Type} {c : Prop} [Decidable c] {text : String} {x y : Outcome α}
    {next : β → Outcome α} (step : (if c then refuse text >>= next else x) = y)
    (unrefused : ∀ failure, y ≠ .failed failure) : ¬ c ∧ x = y := by
  by_cases refused : c
  · rw [if_pos refused] at step
    exact absurd step.symm (unrefused _)
  · rw [if_neg refused] at step
    exact ⟨refused, step⟩

/-- The check of the source meets no duration out of reach. -/
theorem checkSource_ne_overflow (source : SourceSettings) : checkSource source ≠ .overflow := by
  cases source with
  | file path =>
    rw [checkSource]
    split <;> exact nofun
  | document url shortest longest factor =>
    rw [checkSource]
    split
    · exact nofun
    split
    · exact nofun
    split <;> exact nofun
  | queries base template encoding idAsAddress isStrict =>
    rw [checkSource]
    split
    · exact nofun
    split
    · exact nofun
    split <;> exact nofun

/-- Neither does reading the names of roles. -/
theorem mapM_ne_overflow {α β : Type} {f : α → Outcome β} (each : ∀ a, f a ≠ .overflow)
    (items : List α) : items.mapM f ≠ .overflow := by
  have loop (done : List β) : List.mapM.loop f items done ≠ .overflow := by
    induction items generalizing done with
    | nil => exact nofun
    | cons a rest ih =>
      intro overflows
      rcases Outcome.bind_eq_overflow.1 overflows with first | ⟨b, -, later⟩
      · exact each a first
      · exact ih (b :: done) later
  exact loop []

theorem keptRoles_ne_overflow (s : Settings) : s.keptRoles ≠ .overflow := by
  refine mapM_ne_overflow (fun name => ?_) s.filters.keptRoles
  split
  · exact nofun
  · exact nofun

/-- The failure policy meets one at most where expired entities are served for a while longer. -/
theorem not_hasSpan_of_failurePolicy (overflows : s.failurePolicy = .overflow) :
    ¬ HasSpan s.resolver.failureRetry := by
  rw [failurePolicy] at overflows
  split at overflows
  · rcases Outcome.bind_eq_overflow.1 overflows with overflows | ⟨_, -, same⟩
    · exact spanOfSeconds_eq_overflow.1 overflows
    · cases same
  · split at overflows <;> cases overflows

/-- The check is cut short at most by the one duration that it turns into a span. -/
theorem not_hasSpan_of_check (overflows : s.check = .overflow) :
    ¬ HasSpan s.resolver.failureRetry := by
  have unrefused (failure : Failure) : (Outcome.overflow : Outcome Unit) ≠ .failed failure := nofun
  unfold check at overflows
  obtain ⟨-, overflows⟩ := passed_step overflows unrefused
  obtain ⟨-, overflows⟩ := passed_step overflows unrefused
  obtain ⟨-, overflows⟩ := passed_step overflows unrefused
  obtain ⟨-, overflows⟩ := passed_step overflows unrefused
  obtain ⟨-, overflows⟩ := passed_step overflows unrefused
  rcases Outcome.bind_eq_overflow.1 overflows with overflows | ⟨_, -, overflows⟩
  · exact not_hasSpan_of_failurePolicy overflows
  rcases Outcome.bind_eq_overflow.1 overflows with overflows | ⟨_, -, overflows⟩
  · exact absurd overflows (checkSource_ne_overflow _)
  obtain ⟨-, overflows⟩ := passed_step overflows unrefused
  rcases Outcome.bind_eq_overflow.1 overflows with overflows | ⟨_, -, overflows⟩
  · exact absurd overflows s.keptRoles_ne_overflow
  split at overflows <;> cases overflows

/-- What is known of settings that pass the check. -/
structure Passed (s : Settings) : Prop where
  identified : Text.isBlankText s.resolver.id = false
  ordered : s.resolver.shortestCache ≤ s.resolver.longestCache
  cleansUp : 0 < s.resolver.cleanupInterval
  failurePolicy : ∃ policy, s.failurePolicy = .ok policy
  sweeps : 0 < s.artifacts.sweepInterval

theorem passed_of_check (passed : s.check = .ok ()) : s.Passed := by
  have unrefused (failure : Failure) : Outcome.ok () ≠ .failed failure := nofun
  unfold check at passed
  obtain ⟨-, passed⟩ := passed_step passed unrefused
  obtain ⟨identified, passed⟩ := passed_step passed unrefused
  obtain ⟨ordered, passed⟩ := passed_step passed unrefused
  obtain ⟨-, passed⟩ := passed_step passed unrefused
  obtain ⟨cleansUp, passed⟩ := passed_step passed unrefused
  obtain ⟨policy, failurePolicy, passed⟩ := Outcome.bind_eq_ok.1 passed
  obtain ⟨-, -, passed⟩ := Outcome.bind_eq_ok.1 passed
  obtain ⟨-, passed⟩ := passed_step passed unrefused
  obtain ⟨kept, -, passed⟩ := Outcome.bind_eq_ok.1 passed
  split at passed
  · cases passed
  rename_i sweeps
  have positive : 0 < s.artifacts.lifetime ∧ 0 < s.artifacts.sweepInterval := by
    simpa [Nat.pos_iff_ne_zero] using sweeps
  exact ⟨Bool.eq_false_iff.2 identified, Nat.not_lt.1 ordered, Nat.pos_of_ne_zero cleansUp,
    ⟨policy, failurePolicy⟩, positive.2⟩

/-! ## Settings in reach -/

/-- All numbers of seconds that are turned into spans after the check can be. -/
structure InReach (s : Settings) : Prop where
  shortestCache : HasSpan s.resolver.shortestCache
  longestCache : HasSpan s.resolver.longestCache
  negativeCache : HasSpan s.resolver.negativeCache
  longestIdle : HasSpan s.resolver.longestIdle
  longestValidity : s.filters.requireValidUntil = true → HasSpan s.filters.longestValidity
  lifetime : HasSpan s.artifacts.lifetime

/-- What settings are turned into is there and makes sense. -/
structure Usable (s : Settings) : Prop where
  policy : ∃ policy, s.cachePolicy = .ok policy ∧ policy.shortest ≤ policy.longest ∧
    ∀ (ε : Type) (r : Resolver ε), r.id = s.resolver.id → r.policy = policy → r.check = .ok ()
  validity : ∃ chain, validityFilters s.filters = .ok chain
  lifetime : ∃ lifetime, spanOfSeconds s.artifacts.lifetime = .ok lifetime
  cleanup : .zero < s.jobIntervals.cleanup
  sweep : .zero < s.jobIntervals.sweep

/-- A text with something else than white space keeps it. -/
theorem isEmpty_trim {text : String} (inhabited : Text.isBlankText text = false) :
    (Text.trim text).isEmpty = false := by
  rw [Bool.eq_false_iff] at inhabited ⊢
  intro empty
  have nothing_left : Text.trimChars text.toList = [] := by
    simpa [Text.trim] using empty
  have all_blank : ∀ c ∈ text.toList.dropWhile Text.isBlank, Text.isBlank c = true := by
    simpa [Text.trimChars, Text.dropEndWhile, Text.trimStartChars, List.dropWhile_eq_nil_iff]
      using nothing_left
  have none_dropped : text.toList.dropWhile Text.isBlank = [] := by
    rw [← List.dropWhile_idempotent, List.dropWhile_eq_nil_iff]
    exact all_blank
  refine inhabited ?_
  rw [Text.isBlankText, List.all_eq_true]
  exact List.dropWhile_eq_nil_iff.1 none_dropped

theorem cachePolicy_eq_ok {policy : CachePolicy} :
    s.cachePolicy = .ok policy ↔ ∃ shortest longest negative onFailure longestIdle,
      spanOfSeconds s.resolver.shortestCache = .ok shortest ∧
      spanOfSeconds s.resolver.longestCache = .ok longest ∧
      spanUnlessZero s.resolver.negativeCache = .ok negative ∧
      s.failurePolicy = .ok onFailure ∧
      spanUnlessZero s.resolver.longestIdle = .ok longestIdle ∧
      ⟨shortest, longest, negative, onFailure, longestIdle, s.resolver.singleFlight,
        s.resolver.secondaryLookup⟩ = policy := by
  simp [cachePolicy, bind, Outcome.bind_eq_ok, pure]

/-- The bounds of the rules are in order, and not negative. -/
theorem bounds_of_cachePolicy {policy : CachePolicy} (passed : s.Passed)
    (made : s.cachePolicy = .ok policy) :
    .zero ≤ policy.shortest ∧ policy.shortest ≤ policy.longest := by
  obtain ⟨shortest, longest, _, _, _, least, most, -, -, -, rfl⟩ := cachePolicy_eq_ok.1 made
  obtain ⟨-, rfl⟩ := spanOfSeconds_eq_ok.1 least
  obtain ⟨-, rfl⟩ := spanOfSeconds_eq_ok.1 most
  exact ⟨zero_le_ofSeconds _, ofSeconds_min_mono passed.ordered⟩

/-- A resolver with the rules and the ID that were set is accepted. -/
theorem check_resolver {policy : CachePolicy} {ε : Type} {r : Resolver ε} (passed : s.Passed)
    (made : s.cachePolicy = .ok policy) (id : r.id = s.resolver.id) (rules : r.policy = policy) :
    r.check = .ok () := by
  obtain ⟨positive, ordered⟩ := bounds_of_cachePolicy passed made
  have positive : ¬ policy.shortest < .zero := Int.not_lt.2 positive
  have ordered : ¬ policy.longest < policy.shortest := Int.not_lt.2 ordered
  rw [Resolver.check, id, rules, isEmpty_trim passed.identified, if_neg Bool.false_ne_true,
    if_neg positive, if_neg ordered]

/-- The rules of caching are cut short exactly by a number that has no span. -/
theorem cachePolicy_eq_overflow (passed : s.Passed) :
    s.cachePolicy = .overflow ↔
      ¬ (HasSpan s.resolver.shortestCache ∧ HasSpan s.resolver.longestCache ∧
        HasSpan s.resolver.negativeCache ∧ HasSpan s.resolver.longestIdle) := by
  obtain ⟨onFailure, known⟩ := passed.failurePolicy
  constructor
  · rintro overflows ⟨shortest, longest, negative, idle⟩
    obtain ⟨negative, hasNegative⟩ := exists_spanUnlessZero_iff.2 negative
    obtain ⟨idle, hasIdle⟩ := exists_spanUnlessZero_iff.2 idle
    have made := cachePolicy_eq_ok.2 ⟨_, _, _, _, _, spanOfSeconds_eq_ok.2 ⟨shortest, rfl⟩,
      spanOfSeconds_eq_ok.2 ⟨longest, rfl⟩, hasNegative, known, hasIdle, rfl⟩
    cases overflows.symm.trans made
  · intro outside
    cases made : s.cachePolicy with
    | overflow => rfl
    | ok policy =>
      obtain ⟨_, _, _, _, _, shortest, longest, negative, -, idle, -⟩ := cachePolicy_eq_ok.1 made
      refine absurd ⟨(spanOfSeconds_eq_ok.1 shortest).1, (spanOfSeconds_eq_ok.1 longest).1, ?_, ?_⟩
        outside
      · exact exists_spanUnlessZero_iff.1 ⟨_, negative⟩
      · exact exists_spanUnlessZero_iff.1 ⟨_, idle⟩
    | failed failure =>
      simp [cachePolicy, bind, Outcome.bind_eq_failed, spanOfSeconds_ne_failed,
        spanUnlessZero_ne_failed, known, pure] at made

theorem validityFilters_eq_overflow {f : FilterSettings} :
    validityFilters f = .overflow ↔ f.requireValidUntil = true ∧ ¬ HasSpan f.longestValidity := by
  rw [validityFilters]
  by_cases required : f.requireValidUntil = true
  · simp [required, bind, Outcome.bind_eq_overflow, spanUnlessZero_eq_overflow, pure]
  · simp [required, pure]

/-! ## Building the service -/

theorem signatureFilters_ne_overflow (f : FilterSettings) : signatureFilters f ≠ .overflow := by
  rw [signatureFilters]
  split
  · exact nofun
  · intro overflows
    rcases Outcome.bind_eq_overflow.1 overflows with overflows | ⟨_, -, same⟩
    · exact Outcome.ofExcept_ne_overflow _ overflows
    · cases same

theorem filterChain_ne_overflow (reached : s.InReach) (withSignatures : Bool) :
    s.filterChain withSignatures ≠ .overflow := by
  rw [filterChain]
  intro overflows
  rcases Outcome.bind_eq_overflow.1 overflows with overflows | ⟨_, -, overflows⟩
  · obtain ⟨required, outside⟩ := validityFilters_eq_overflow.1 overflows
    exact outside (reached.longestValidity required)
  have roles {α : Type} (made : List Metadata.Role → α) :
      s.keptRoles.bind (fun kept => .ok (made kept)) ≠ .overflow := by
    intro overflows
    rcases Outcome.bind_eq_overflow.1 overflows with overflows | ⟨_, -, same⟩
    · exact s.keptRoles_ne_overflow overflows
    · cases same
  cases withSignatures with
  | true =>
    rcases Outcome.bind_eq_overflow.1 overflows with overflows | ⟨_, -, overflows⟩
    · exact signatureFilters_ne_overflow _ overflows
    · exact roles _ overflows
  | false => exact roles _ overflows

variable {ν κ : Type}

theorem artifactMap_ne_overflow (around : Surroundings ν κ) {a : ArtifactSettings}
    (reached : HasSpan a.lifetime) :
    (artifactMap around a : Outcome (ArtifactMap (ArtifactContents κ))) ≠ .overflow := by
  rw [artifactMap]
  intro overflows
  rcases Outcome.bind_eq_overflow.1 overflows with overflows | ⟨_, -, overflows⟩
  · exact spanOfSeconds_eq_overflow.1 overflows reached
  split at overflows
  · cases overflows
  · rcases Outcome.bind_eq_overflow.1 overflows with overflows | ⟨_, -, same⟩
    · exact Outcome.ofExcept_ne_overflow _ overflows
    · cases same

/-- Within reach, building the service is not cut short, whatever is found around it. -/
theorem build_ne_overflow (around : Surroundings ν κ) (checked : s.check = .ok ())
    (reached : s.InReach) : Service.build around s ≠ .overflow := by
  rw [Service.build]
  -- The parts are made one after another, and only spans can be out of reach.
  intro overflows
  rcases Outcome.bind_eq_overflow.1 overflows with overflows | ⟨_, -, overflows⟩
  · cases checked.symm.trans overflows
  rcases Outcome.bind_eq_overflow.1 overflows with overflows | ⟨_, -, overflows⟩
  · exact filterChain_ne_overflow reached true overflows
  rcases Outcome.bind_eq_overflow.1 overflows with overflows | ⟨_, -, overflows⟩
  · exact filterChain_ne_overflow reached false overflows
  rcases Outcome.bind_eq_overflow.1 overflows with overflows | ⟨_, -, overflows⟩
  · exact Outcome.ofExcept_ne_overflow _ overflows
  rcases Outcome.bind_eq_overflow.1 overflows with overflows | ⟨_, -, overflows⟩
  · exact (cachePolicy_eq_overflow (passed_of_check checked)).1 overflows
      ⟨reached.shortestCache, reached.longestCache, reached.negativeCache, reached.longestIdle⟩
  rcases Outcome.bind_eq_overflow.1 overflows with overflows | ⟨_, -, overflows⟩
  · exact Outcome.ofExcept_ne_overflow _ overflows
  rcases Outcome.bind_eq_overflow.1 overflows with overflows | ⟨_, -, overflows⟩
  · exact Outcome.ofExcept_ne_overflow _ overflows
  rcases Outcome.bind_eq_overflow.1 overflows with overflows | ⟨_, -, same⟩
  · exact artifactMap_ne_overflow around reached.lifetime overflows
  · cases same

/-! ## Settings that pass the check -/

/-- Something that is turned into a span is out of reach. -/
def Overflows (s : Settings) : Prop :=
  s.cachePolicy = .overflow ∨ validityFilters s.filters = .overflow ∨
    spanOfSeconds s.artifacts.lifetime = .overflow

theorem overflows_iff (passed : s.Passed) : s.Overflows ↔ ¬ s.InReach := by
  rw [Overflows, cachePolicy_eq_overflow passed, validityFilters_eq_overflow,
    spanOfSeconds_eq_overflow]
  constructor
  · rintro (rules | ⟨required, outside⟩ | outside) reached
    · exact rules ⟨reached.shortestCache, reached.longestCache, reached.negativeCache,
        reached.longestIdle⟩
    · exact outside (reached.longestValidity required)
    · exact outside reached.lifetime
  · intro outside
    by_contra none_outside
    obtain ⟨rules, others⟩ := not_or.1 none_outside
    obtain ⟨validity, lifetime⟩ := not_or.1 others
    obtain ⟨shortest, longest, negative, idle⟩ := not_not.1 rules
    exact outside ⟨shortest, longest, negative, idle,
      fun required => not_not.1 fun far => validity ⟨required, far⟩, not_not.1 lifetime⟩

theorem validityFilters_ne_failed {f : FilterSettings} {failure : Failure} :
    validityFilters f ≠ .failed failure := by
  rw [validityFilters]
  split
  · simp [bind, Outcome.bind_eq_failed, spanUnlessZero_ne_failed, pure]
  · exact nofun

theorem zero_lt_ofSeconds (positive : 0 < n) : Delay.zero < .ofSeconds n :=
  Nat.mul_pos positive (by decide)

theorem usable_of_inReach (checked : s.check = .ok ()) (reached : s.InReach) : s.Usable := by
  have passed := passed_of_check checked
  have within : ¬ s.Overflows := fun overflows => (overflows_iff passed).1 overflows reached
  obtain ⟨onFailure, known⟩ := passed.failurePolicy
  obtain ⟨negative, hasNegative⟩ := exists_spanUnlessZero_iff.2 reached.negativeCache
  obtain ⟨idle, hasIdle⟩ := exists_spanUnlessZero_iff.2 reached.longestIdle
  have made := cachePolicy_eq_ok.2 ⟨_, _, _, _, _, spanOfSeconds_eq_ok.2 ⟨reached.shortestCache, rfl⟩,
    spanOfSeconds_eq_ok.2 ⟨reached.longestCache, rfl⟩, hasNegative, known, hasIdle, rfl⟩
  refine ⟨⟨_, made, (bounds_of_cachePolicy passed made).2, fun ε r => check_resolver passed made⟩, ?_,
    ⟨_, spanOfSeconds_eq_ok.2 ⟨reached.lifetime, rfl⟩⟩, zero_lt_ofSeconds passed.cleansUp,
    zero_lt_ofSeconds passed.sweeps⟩
  cases filters : validityFilters s.filters with
  | ok chain => exact ⟨chain, rfl⟩
  | failed failure => exact absurd filters validityFilters_ne_failed
  | overflow => exact absurd (.inr (.inl filters)) within

/-- **Which settings that pass the check can be used.** They can be used exactly if all that is
turned into spans is in reach, and are cut short otherwise. Within reach, building the service is
not cut short either. The check itself is cut short at most by the one duration that it turns into
a span. -/
theorem usable_iff_inReach (s : Settings) :
    (s.check = .overflow → ¬ HasSpan s.resolver.failureRetry) ∧
      (s.check = .ok () →
        (s.Usable ↔ s.InReach) ∧ (s.Overflows ↔ ¬ s.InReach) ∧
        (s.InReach → ∀ (ν κ : Type) (around : Surroundings ν κ),
          Service.build around s ≠ .overflow)) := by
  refine ⟨not_hasSpan_of_check, fun checked => ?_⟩
  have passed := passed_of_check checked
  refine ⟨⟨fun usable => ?_, usable_of_inReach checked⟩, overflows_iff passed,
    fun reached ν κ around => build_ne_overflow around checked reached⟩
  by_contra outside
  obtain ⟨⟨policy, made, -⟩, ⟨chain, filters⟩, ⟨lifetime, kept⟩, -, -⟩ := usable
  rcases (overflows_iff passed).2 outside with overflows | overflows | overflows
  · cases made.symm.trans overflows
  · cases filters.symm.trans overflows
  · cases kept.symm.trans overflows

/-- Settings by which nothing is cached for longer than the largest number of seconds in reach. -/
def farthest : Settings :=
  { standard with resolver := { standard.resolver with longestCache := 9223372036854775 } }

theorem usable_farthest : farthest.check = .ok () ∧ farthest.Usable := by
  have checked : farthest.check = .ok () := by decide
  have reached : farthest.InReach :=
    ⟨by decide, by decide, by decide, by decide, fun _ => by decide, by decide⟩
  exact ⟨checked, (((usable_iff_inReach farthest).2 checked).1).2 reached⟩

/-- Settings with one more second. -/
def tooFar : Settings :=
  { standard with resolver := { standard.resolver with longestCache := 9223372036854776 } }

/-- Settings by which an entity that cannot be fetched again is served for that long. -/
def tooPatient : Settings :=
  { standard with resolver := { standard.resolver with failureRetry := 9223372036854776 } }

/-- Settings pass the check that cannot be used, and the check itself may be cut short. -/
theorem not_always_usable :
    (¬ ∀ s : Settings, s.check = .ok () → s.Usable) ∧
      tooFar.check = .ok () ∧ tooFar.cachePolicy = .overflow ∧ tooPatient.check = .overflow := by
  have checked : tooFar.check = .ok () := by decide
  have overflows : tooFar.cachePolicy = .overflow := by decide
  refine ⟨fun always => ?_, checked, overflows, by decide⟩
  obtain ⟨policy, made, -⟩ := (always tooFar checked).policy
  cases made.symm.trans overflows

end Settings

end Federation
