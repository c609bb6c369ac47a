/-
# What was let through is let through at the start

The service has two chains of filters. One is for documents as they come, and checks signatures; the
other is for copies of single entities at the start, when the text that was signed is gone. Copies
come from documents that the first chain let through, so the second chain should let them through
as they are, as long as they are valid.

It does, save that a longest validity is compared with a span, and spans count leap seconds when
they lie within them: the root of a document may be valid for just long enough, and a member that
ends in the leap second before for too long.

## Main definitions

- `FilterChain.BoundsEnd`: the end of the validity of an entity is not too far ahead for a chain.

## Main results

- `Settings.filterChain_eq_ok`: what chains are made of.
- `Settings.warm_start_admits_iff`: when a member of a document that was let through is let through
  on its own.
-/

import Federation.Proofs.Filter.Members
import Federation.Service.Build

namespace Federation

open Federation.Metadata Federation.Time

/-- The end of the validity of an entity is not too far ahead for a chain. -/
def FilterChain.BoundsEnd (chain : FilterChain) (now : Instant) (e : Entity) : Prop :=
  ∀ longest until_, .validUntil (some longest) ∈ chain → e.validUntil = some until_ →
    until_.span now ≤ longest

namespace Settings

variable {s : Settings} {f : FilterSettings} {chain warm validity signatures : FilterChain}
  {kept : List Role} {context context' : Filter.Context} {document out : Document} {d : Entity}

/-! ## What chains are made of -/

/-- The filters by which the form of entities is checked, if it is. -/
def formFilters (s : Settings) : FilterChain := if s.filters.checkForm then [.form] else []

/-- The filters by which roles are kept. -/
def roleFilters (kept : List Role) : FilterChain := if kept.isEmpty then [] else [.roles kept false]

/-- The end of the validity comes first, then signatures, then the form, then roles. -/
theorem filterChain_eq_ok {withSignatures : Bool} :
    s.filterChain withSignatures = .ok chain ↔
      ∃ validity signatures kept, validityFilters s.filters = .ok validity ∧
        (if withSignatures then signatureFilters s.filters else .ok []) = .ok signatures ∧
        s.keptRoles = .ok kept ∧
        validity ++ signatures ++ s.formFilters ++ roleFilters kept = chain := by
  rw [filterChain]
  cases withSignatures <;>
    simp [bind, Outcome.bind_eq_ok, pure, formFilters, roleFilters]

/-- At most the end of the validity is required. -/
theorem mem_validityFilters (built : validityFilters f = .ok validity) {filter : MetadataFilter}
    (listed : filter ∈ validity) : ∃ longest, filter = .validUntil longest := by
  rw [validityFilters] at built
  split at built
  · obtain ⟨longest, -, same⟩ := Outcome.bind_eq_ok.1 built
    obtain rfl := Outcome.ok.inj same
    exact ⟨_, List.mem_singleton.1 listed⟩
  · obtain rfl := Outcome.ok.inj built
    cases listed

/-- At most signatures are checked. -/
theorem mem_signatureFilters (built : signatureFilters f = .ok signatures) {filter : MetadataFilter}
    (listed : filter ∈ signatures) :
    ∃ engine rootRequired, filter = .signature engine rootRequired := by
  rw [signatureFilters] at built
  split at built
  · obtain rfl := Outcome.ok.inj built
    cases listed
  · obtain ⟨ring, -, same⟩ := Outcome.bind_eq_ok.1 built
    obtain rfl := Outcome.ok.inj same
    exact ⟨_, _, List.mem_singleton.1 listed⟩

theorem mem_formFilters {filter : MetadataFilter} (listed : filter ∈ s.formFilters) :
    filter = .form := by
  rw [formFilters] at listed
  split at listed
  · exact List.mem_singleton.1 listed
  · cases listed

theorem mem_roleFilters {filter : MetadataFilter} (listed : filter ∈ roleFilters kept) :
    filter = .roles kept false := by
  rw [roleFilters] at listed
  split at listed
  · cases listed
  · exact List.mem_singleton.1 listed

/-- All filters of the service are filters of this library. -/
theorem isBuiltIn_filterChain {withSignatures : Bool}
    (built : s.filterChain withSignatures = .ok chain) : chain.IsBuiltIn := by
  obtain ⟨validity, signatures, kept, first, second, -, rfl⟩ := filterChain_eq_ok.1 built
  intro name run listed
  simp only [List.mem_append] at listed
  rcases listed with ((listed | listed) | listed) | listed
  · obtain ⟨longest, same⟩ := mem_validityFilters first listed
    cases same
  · cases withSignatures with
    | true =>
      obtain ⟨engine, rootRequired, same⟩ := mem_signatureFilters second listed
      cases same
    | false =>
      obtain rfl := Outcome.ok.inj second
      cases listed
  · cases mem_formFilters listed
  · cases mem_roleFilters listed

/-! ## Members that are let through on their own -/

/-- A member that came through the checks of form and roles is let through by them on its own. -/
theorem admits_of_mem_flatten (applied : FilterChain.apply context
      (s.formFilters ++ roleFilters kept) document = .ok (some out))
    (inside : d ∈ out.flatten) :
    ∀ filter ∈ s.formFilters ++ roleFilters kept, filter.Admits context' d := by
  obtain ⟨between, first, second⟩ := FilterChain.apply_append_eq_ok.1 applied
  -- What passes the check of form conforms at any instant.
  have of_form : .form ∈ s.formFilters → ∀ e ∈ between.flatten,
      MetadataFilter.form.Admits context' e := by
    intro listed e before
    rw [formFilters] at listed first
    split at listed
    · rename_i checked
      rw [if_pos checked] at first
      obtain ⟨_, ran, same⟩ := FilterChain.apply_cons_eq_ok.1 first
      cases same
      exact MetadataFilter.admits_form_of_mem_flatten ran before
    · cases listed
  intro filter listed
  rw [roleFilters] at listed second
  split at listed
  · -- All roles are kept, and there is no other filter.
    rename_i all
    rw [if_pos all] at second
    cases second
    rw [List.append_nil] at listed
    obtain rfl := mem_formFilters listed
    exact of_form listed d inside
  · -- The roles are taken out last, which leaves an entity that conforms conforming.
    rename_i some_role
    rw [if_neg some_role] at second
    obtain ⟨_, ran, same⟩ := FilterChain.apply_cons_eq_ok.1 second
    cases same
    obtain ⟨again, form⟩ : (MetadataFilter.roles kept false).Admits context' d ∧ _ :=
      MetadataFilter.admits_roles_of_mem_flatten ran inside
    rcases List.mem_append.1 listed with listed | listed
    · obtain rfl := mem_formFilters listed
      exact form (of_form listed)
    · obtain rfl := List.mem_singleton.1 listed
      exact again

/-- **A member of a document that was let through is let through at the start**, as it is, if and
only if the end of its validity is not too far ahead by then. Outside leap seconds it is not. -/
theorem warm_start_admits_iff (built : s.filterChain true = .ok chain)
    (applied : chain.apply context document = .ok (some out)) (inside : d ∈ out.flatten)
    (later : context.now ≤ context'.now) (valid : d.isValidAt context'.now = true) :
    ∃ warm, s.filterChain false = .ok warm ∧
      (warm.apply context' (.entity d) = .ok (some (.entity d)) ↔
        warm.BoundsEnd context'.now d) ∧
      (context.now.isLeap = false → context'.now.isLeap = false →
        (∀ t ∈ document.validUntil, t.isLeap = false) → (∀ t ∈ d.validUntil, t.isLeap = false) →
          warm.BoundsEnd context'.now d) := by
  have builtIn := isBuiltIn_filterChain built
  -- What is required of the end of the validity binds the member, and not only the root.
  have ends {longest : Option Span} (required : .validUntil longest ∈ chain) :
      ∃ root until_, document.validUntil = some root ∧ d.validUntil = some until_ ∧ until_ ≤ root ∧
        ∀ most, longest = some most → root.span context.now ≤ most := by
    obtain ⟨root, stated, -, near⟩ :=
      FilterChain.exists_validUntil_of_apply builtIn required applied
    have stated' := (FilterChain.validUntil_of_apply builtIn applied).trans stated
    obtain ⟨until_, ends, earlier⟩ := Document.exists_validUntil_of_mem_flatten stated' inside
    exact ⟨root, until_, stated, ends, earlier, near⟩
  obtain ⟨validity, signatures, kept, first, -, roles, rfl⟩ := filterChain_eq_ok.1 built
  have warmed : s.filterChain false = .ok (validity ++ [] ++ s.formFilters ++ roleFilters kept) :=
    filterChain_eq_ok.2 ⟨validity, [], kept, first, rfl, roles, rfl⟩
  have fewer : validity ++ [] ++ s.formFilters ++ roleFilters kept
      ⊆ validity ++ signatures ++ s.formFilters ++ roleFilters kept := by
    intro filter listed
    simp only [List.mem_append, List.not_mem_nil, or_false] at listed ⊢
    rcases listed with (listed | listed) | listed
    · exact .inl (.inl (.inl listed))
    · exact .inl (.inr listed)
    · exact .inr listed
  refine ⟨_, warmed, ⟨fun again => ?_, fun bounds => ?_⟩, ?_⟩
  · intro longest until_ listed stated
    obtain ⟨_, same, -, near⟩ :=
      FilterChain.exists_validUntil_of_apply (isBuiltIn_filterChain warmed) listed again
    obtain rfl := Option.some_inj.1 (stated.symm.trans same)
    exact near longest rfl
  · refine FilterChain.apply_of_admits fun filter listed => ?_
    have listed' := listed
    rw [List.append_nil, List.append_assoc] at listed'
    rcases List.mem_append.1 listed' with of_validity | others
    · obtain ⟨longest, rfl⟩ := mem_validityFilters first of_validity
      obtain ⟨-, until_, -, stated, -⟩ := ends (fewer listed)
      have lasts : context'.now < until_ := by simpa [Entity.isValidAt, stated] using valid
      refine MetadataFilter.admits_validUntil_iff.2 ⟨until_, stated, lasts, ?_⟩
      rintro most rfl
      exact bounds most until_ listed stated
    · rw [List.append_assoc] at applied
      obtain ⟨between, -, applied⟩ := FilterChain.apply_append_eq_ok.1 applied
      exact admits_of_mem_flatten applied inside filter others
  · intro now now' rootPlain plain longest until_ listed stated
    obtain ⟨root, until_', stated', same, earlier, near⟩ := ends (fewer listed)
    obtain rfl := Option.some_inj.1 (stated.symm.trans same)
    have closer := Instant.span_mono (plain until_ stated) (rootPlain root stated') now now' earlier
      later
    exact Int.le_trans closer (near longest rfl)

/-- Settings by which documents have to be valid, but for no more than two weeks. -/
def twoWeeks : Settings :=
  { standard with filters := ⟨true, 1209600, [], false, true, []⟩ }

/-- The chain of filters of these settings. -/
def twoWeeksChain : FilterChain := [.validWithin (some (.ofSeconds 1209600)), .form]

/-- The member of the nested group, with the end of the validity of the root. -/
def nestedMember : Entity := (Entity.ofId "https://idp.example.org").withValidUntil ⟨864000, 0⟩

theorem warm_start_admits_iff_twoWeeks :
    nestedMember ∈ FilterChain.nestedGroup.flatten ∧
      ∃ warm, twoWeeks.filterChain false = .ok warm ∧
        warm.apply ⟨⟨3600, 0⟩, "cache"⟩ (.entity nestedMember)
          = .ok (some (.entity nestedMember)) := by
  have inside : nestedMember ∈ FilterChain.nestedGroup.flatten := List.mem_cons_self
  have built : twoWeeks.filterChain true = .ok twoWeeksChain := rfl
  have applied : twoWeeksChain.apply ⟨⟨0, 0⟩, "file"⟩ FilterChain.nestedGroup
      = .ok (some FilterChain.nestedGroup) := rfl
  have later : (Filter.Context.mk ⟨0, 0⟩ "file").now ≤ (Filter.Context.mk ⟨3600, 0⟩ "cache").now :=
    by decide
  obtain ⟨warm, warmed, again, bounds⟩ :=
    warm_start_admits_iff built applied inside later (by decide)
  refine ⟨inside, warm, warmed, again.2 (bounds rfl rfl ?_ ?_)⟩
  · rintro t ⟨⟩
    rfl
  · rintro t ⟨⟩
    rfl

/-- A member that ends within a leap second may not be let through at the start, even at the instant
at which it was let through before. -/
theorem not_always_warm_start_admits : ¬ ∀ (s : Settings) (chain warm : FilterChain)
    (context context' : Filter.Context) (document out : Document) (d : Entity),
    s.filterChain true = .ok chain → s.filterChain false = .ok warm →
      chain.apply context document = .ok (some out) → d ∈ out.flatten →
        context.now ≤ context'.now → d.isValidAt context'.now = true →
          warm.apply context' (.entity d) = .ok (some (.entity d)) := by
  intro always
  have again := always twoWeeks twoWeeksChain twoWeeksChain ⟨⟨1482019200, 0⟩, "file"⟩
    ⟨⟨1482019200, 0⟩, "cache"⟩ FilterChain.leapingGroup FilterChain.leapingGroup _ rfl rfl rfl
    List.mem_cons_self (by decide) (by decide)
  have built : twoWeeks.filterChain true = .ok twoWeeksChain := rfl
  obtain ⟨until_, stated, -, near⟩ :=
    FilterChain.exists_validUntil_of_apply (isBuiltIn_filterChain built) List.mem_cons_self again
  obtain rfl : ⟨1483228799, 1500000000⟩ = until_ := Option.some_inj.1 stated
  exact absurd (near _ rfl) (by decide)

end Settings

end Federation
