/-
# What the end of the validity of the root says of its members

A document may be required to state until when it is valid, and to state an instant that is not
too far ahead. Only the root is looked at, wherever in a chain that is done. Members of groups are
bound by it nevertheless: no filter of this library changes what the root states, and flattening
gives no member an end of its validity that is after that of a group around it.

How far an end is ahead is told by spans, which count leap seconds when they lie within them.
A member that is valid until some moment of a leap second may be further ahead, by that count, than
a root that is valid until the second that follows. Outside leap seconds the bound on the root is a
bound on its members.

## Main results

- `Group.exists_validUntil_of_mem_flattenWithin`: members are bound by the groups around them.
- `FilterChain.validUntil_of_apply`: a chain leaves the end of the validity of the root as it is.
- `FilterChain.members_within_root`: how far the validity and the expiration of members reach.
-/

import Federation.Proofs.Filter.Lone
import Federation.Proofs.Resolver.Expiration
import Federation.Proofs.Time.Leaps

namespace Federation

open Federation.Metadata Federation.Time

/-! ## Members and the groups around them -/

namespace Metadata

variable {d : Entity}

/-- A bound may become tighter, but is not lost. -/
theorem exists_tighterInstant_left (bound : Instant) (other : Option Instant) :
    ∃ t, tighterInstant (some bound) other = some t ∧ t ≤ bound := by
  cases other with
  | none => exact ⟨bound, rfl, bound.le_refl⟩
  | some other => exact ⟨bound.earliest other, rfl, Instant.earliest_le_left bound other⟩

theorem exists_tighterInstant_right (bound : Instant) (other : Option Instant) :
    ∃ t, tighterInstant other (some bound) = some t ∧ t ≤ bound := by
  cases other with
  | none => exact ⟨bound, rfl, bound.le_refl⟩
  | some other => exact ⟨other.earliest bound, rfl, Instant.earliest_le_right other bound⟩

mutual

/-- An entity of a group is not valid beyond a bound that holds around the group. -/
theorem Group.exists_validUntil_of_mem_flattenWithin {bound : Instant} {cacheSeconds : Option Nat}
    {g : Group} (inside : d ∈ g.flattenWithin (some bound) cacheSeconds) :
    ∃ t, d.validUntil = some t ∧ t ≤ bound := by
  obtain ⟨name, validUntil, seconds, entities, groups, signature⟩ := g
  obtain ⟨tighter, combined, earlier⟩ := exists_tighterInstant_left bound validUntil
  rw [Group.flattenWithin, combined] at inside
  rcases List.mem_append.1 inside with own | below
  · obtain ⟨e, -, rfl⟩ := List.mem_map.1 own
    obtain ⟨t, stated, later⟩ := exists_tighterInstant_right tighter e.validUntil
    exact ⟨t, stated, Instant.le_trans later earlier⟩
  · obtain ⟨t, stated, later⟩ := Group.exists_validUntil_of_mem_flattenAll below
    exact ⟨t, stated, Instant.le_trans later earlier⟩

theorem Group.exists_validUntil_of_mem_flattenAll {bound : Instant} {cacheSeconds : Option Nat}
    {groups : List Group} (inside : d ∈ Group.flattenAll (some bound) cacheSeconds groups) :
    ∃ t, d.validUntil = some t ∧ t ≤ bound := by
  cases groups with
  | nil => cases inside
  | cons g rest =>
    rw [Group.flattenAll] at inside
    rcases List.mem_append.1 inside with first | others
    · exact Group.exists_validUntil_of_mem_flattenWithin first
    · exact Group.exists_validUntil_of_mem_flattenAll others

end

/-- No entity of a document is valid beyond the end that the root states. -/
theorem Document.exists_validUntil_of_mem_flatten {bound : Instant} {document : Document}
    (stated : document.validUntil = some bound) (inside : d ∈ document.flatten) :
    ∃ t, d.validUntil = some t ∧ t ≤ bound := by
  cases document with
  | entity e =>
    obtain rfl := List.mem_singleton.1 inside
    exact ⟨bound, stated, bound.le_refl⟩
  | group g =>
    obtain ⟨name, validUntil, seconds, entities, groups, signature⟩ := g
    obtain rfl : validUntil = some bound := stated
    -- What the root states may as well be said to hold around it.
    have inside : d ∈ Group.flatten ⟨name, some bound, seconds, entities, groups, signature⟩ :=
      inside
    have same : Group.flattenWithin (some bound) none
        ⟨name, some bound, seconds, entities, groups, signature⟩
        = Group.flatten ⟨name, some bound, seconds, entities, groups, signature⟩ := by
      have itself : bound.earliest bound = bound := ite_self bound
      rw [Group.flatten, Group.flattenWithin, Group.flattenWithin, tighterInstant, tighterInstant,
        itself]
      exact nofun
    exact Group.exists_validUntil_of_mem_flattenWithin (same.symm ▸ inside)

end Metadata

/-! ## The end that the root states -/

namespace Filter

/-- What works on entities one by one leaves the end that the root states as it is, unless the root
is an entity for which it is changed. -/
theorem validUntil_mapDocument {f : EntityMap} {document out : Document}
    (keeps : ∀ e kept, f e = .ok (some kept) → kept.validUntil = e.validUntil)
    (mapped : mapDocument f document = .ok (some out)) : out.validUntil = document.validUntil := by
  cases document with
  | entity e =>
    obtain ⟨kept, one, rfl⟩ := mapDocument_entity_eq_ok.1 mapped
    exact keeps e kept one
  | group g =>
    obtain ⟨name, validUntil, seconds, entities, groups, signature⟩ := g
    obtain ⟨left, one, rfl⟩ := mapDocument_group_eq_ok.1 mapped
    obtain ⟨_, _, -, -, rfl⟩ := mapGroup_eq_ok.1 one
    rfl

end Filter

namespace MetadataFilter

variable {filter : MetadataFilter} {context : Filter.Context} {document out : Document}

/-- No filter of this library changes the end that the root states. -/
theorem validUntil_of_run (known : ∀ name run, filter ≠ .custom name run)
    (ran : filter.run context document = .ok (some out)) :
    out.validUntil = document.validUntil := by
  rcases exists_trims_of_run known ran with rfl | ⟨f, trims, mapped⟩
  · rfl
  · exact Filter.validUntil_mapDocument (fun e kept one => (trims e kept one).validUntil) mapped

end MetadataFilter

/-! ## Chains -/

namespace FilterChain

variable {chain : FilterChain} {context : Filter.Context} {document out : Document}
  {longest : Option Span} {max : Span}

/-- A chain of filters of this library leaves the end that the root states as it is. -/
theorem validUntil_of_apply (builtIn : chain.IsBuiltIn)
    (applied : chain.apply context document = .ok (some out)) :
    out.validUntil = document.validUntil := by
  induction chain generalizing document with
  | nil =>
    cases applied
    rfl
  | cons filter rest ih =>
    obtain ⟨known, later⟩ := builtIn.cons
    obtain ⟨between, first, others⟩ := apply_cons_eq_ok.1 applied
    exact (ih later others).trans (MetadataFilter.validUntil_of_run known first)

/-- What a chain requires of the end of the validity, it requires of what the root stated at
first. -/
theorem exists_validUntil_of_apply (builtIn : chain.IsBuiltIn)
    (required : .validUntil longest ∈ chain)
    (applied : chain.apply context document = .ok (some out)) :
    ∃ until_, document.validUntil = some until_ ∧ context.now < until_ ∧
      ∀ most, longest = some most → until_.span context.now ≤ most := by
  induction chain generalizing document with
  | nil => cases required
  | cons filter rest ih =>
    obtain ⟨known, later⟩ := builtIn.cons
    obtain ⟨between, first, others⟩ := apply_cons_eq_ok.1 applied
    rcases List.mem_cons.1 required with rfl | required
    · exact (Filter.requireValidUntil_eq_ok.1 first).2
    · rw [← MetadataFilter.validUntil_of_run known first]
      exact ih later required others

/-- **What is required of the root binds its members.** If a chain of filters of this library
requires that the root is valid for a positive time, but for no more than that, and lets a document
through, then every description that is left states an end of its validity, which is not after that
of the root. Outside leap seconds it is no further ahead, and nothing is cached for longer. -/
theorem members_within_root (builtIn : chain.IsBuiltIn) (positive : .zero < max)
    (required : .validWithin (some max) ∈ chain)
    (applied : chain.apply context document = .ok (some out)) :
    ∃ root, document.validUntil = some root ∧ context.now < root ∧ root.span context.now ≤ max ∧
      ∀ d ∈ out.flatten, ∃ until_, d.validUntil = some until_ ∧ until_ ≤ root ∧
        (context.now.isLeap = false → root.isLeap = false →
          (until_.isLeap = false → until_.span context.now ≤ max) ∧
          ∀ (policy : CachePolicy) (expiration limit : Instant),
            policy.expiration d context.now = .ok (some expiration) →
              context.now.add? max = some limit → expiration ≤ limit) := by
  have same : MetadataFilter.validWithin (some max) = .validUntil (some max) := by
    simp [MetadataFilter.validWithin, Option.filter_some, positive]
  rw [same] at required
  obtain ⟨root, stated, valid, near⟩ := exists_validUntil_of_apply builtIn required applied
  have near := near max rfl
  refine ⟨root, stated, valid, near, fun d inside => ?_⟩
  have stated' : out.validUntil = some root := by rw [validUntil_of_apply builtIn applied, stated]
  obtain ⟨until_, ends, earlier⟩ := Document.exists_validUntil_of_mem_flatten stated' inside
  refine ⟨until_, ends, earlier, fun now plain => ⟨fun plain' => ?_, ?_⟩⟩
  · exact Int.le_trans (Instant.span_mono plain' plain now now earlier context.now.le_refl) near
  · intro policy expiration limit expires reached
    have within : expiration ≤ until_ := CachePolicy.expiration_le_validUntil expires ends
    exact Instant.le_trans within
      (Instant.le_trans earlier (Instant.le_of_span_le plain now near reached))

/-- A group that is valid for ten days, and a group in it with a member that is valid for longer. -/
def nestedGroup : Document :=
  .group ⟨none, some ⟨864000, 0⟩, none, [], [⟨none, none, none,
    [(Entity.ofId "https://idp.example.org").withValidUntil ⟨8640000, 0⟩], [], none⟩], none⟩

/-- The form is checked, and then a validity of no more than two weeks is required. -/
def formThenTwoWeeks : FilterChain := [.form, .validWithin (some (.ofSeconds 1209600))]

theorem members_within_root_nestedGroup :
    formThenTwoWeeks.IsBuiltIn ∧ Span.zero < .ofSeconds 1209600 ∧
      formThenTwoWeeks.apply ⟨⟨0, 0⟩, "file"⟩ nestedGroup = .ok (some nestedGroup) ∧
      ∀ d ∈ nestedGroup.flatten, d.validUntil = some ⟨864000, 0⟩ ∧
        Instant.span ⟨864000, 0⟩ ⟨0, 0⟩ ≤ .ofSeconds 1209600 := by
  have builtIn : formThenTwoWeeks.IsBuiltIn := by
    intro name run listed
    simp [formThenTwoWeeks, MetadataFilter.validWithin] at listed
  have positive : Span.zero < .ofSeconds 1209600 := by decide
  have applied : formThenTwoWeeks.apply ⟨⟨0, 0⟩, "file"⟩ nestedGroup = .ok (some nestedGroup) := rfl
  obtain ⟨root, stated, -, -, bounded⟩ :=
    members_within_root builtIn positive (List.mem_cons_of_mem _ List.mem_cons_self) applied
  obtain rfl : ⟨864000, 0⟩ = root := Option.some_inj.1 stated
  refine ⟨builtIn, positive, applied, fun d inside => ?_⟩
  obtain ⟨until_, ends, -, near⟩ := bounded d inside
  obtain rfl : d = (Entity.ofId "https://idp.example.org").withValidUntil ⟨864000, 0⟩ :=
    List.mem_singleton.1 inside
  obtain rfl : ⟨864000, 0⟩ = until_ := Option.some_inj.1 ends
  exact ⟨rfl, (near rfl rfl).1 rfl⟩

/-- A group that is valid until the new year of 2017, with a member that is valid until the middle
of the leap second before it. -/
def leapingGroup : Document :=
  .group ⟨none, some ⟨1483228800, 0⟩, none,
    [(Entity.ofId "https://idp.example.org").withValidUntil ⟨1483228799, 1500000000⟩], [], none⟩

/-- An entity that is valid until a leap second on the morning of the new year of 2017. -/
def leapingEntity : Entity :=
  { Entity.ofId "https://idp.example.org" with
    validUntil := some ⟨1483261199, 1000000000⟩, cacheSeconds := some 360000 }

/-- Within leap seconds, a bound on the root is a bound neither on its members nor on the time for
which something is cached. -/
theorem not_always_within_root :
    (¬ ∀ (chain : FilterChain) (max : Span) (context : Filter.Context) (document out : Document),
      chain.IsBuiltIn → .zero < max → .validWithin (some max) ∈ chain →
        chain.apply context document = .ok (some out) →
          ∀ d ∈ out.flatten, ∃ until_, d.validUntil = some until_ ∧
            until_.span context.now ≤ max) ∧
    ¬ ∀ (chain : FilterChain) (max : Span) (context : Filter.Context) (document out : Document)
      (policy : CachePolicy) (expiration limit : Instant),
      chain.IsBuiltIn → .zero < max → .validWithin (some max) ∈ chain →
        chain.apply context document = .ok (some out) →
          ∀ d ∈ out.flatten, policy.expiration d context.now = .ok (some expiration) →
            context.now.add? max = some limit → expiration ≤ limit := by
  have builtIn (max : Span) : FilterChain.IsBuiltIn [.validWithin (some max)] := by
    intro name run listed
    simp [MetadataFilter.validWithin] at listed
  constructor
  · intro always
    have bounded := always [.validWithin (some (.ofSeconds 1209600))] (.ofSeconds 1209600)
      ⟨⟨1482019200, 0⟩, "file"⟩ leapingGroup leapingGroup (builtIn _) (by decide)
      List.mem_cons_self rfl _ List.mem_cons_self
    obtain ⟨until_, ends, near⟩ := bounded
    obtain rfl : ⟨1483228799, 1500000000⟩ = until_ := Option.some_inj.1 ends
    exact absurd near (by decide)
  · intro always
    have bounded := always [.validWithin (some (.ofSeconds 82800))] (.ofSeconds 82800)
      ⟨⟨1483178399, 0⟩, "file"⟩ (.entity leapingEntity) (.entity leapingEntity)
      { CachePolicy.standard with longest := .ofSeconds 720000 }
      ⟨1483261199, 1000000000⟩ ⟨1483261199, 0⟩ (builtIn _) (by decide) List.mem_cons_self rfl
      leapingEntity List.mem_cons_self rfl rfl
    exact absurd bounded (by decide)

end FilterChain

end Federation
