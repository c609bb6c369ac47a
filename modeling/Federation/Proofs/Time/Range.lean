/-
# Dates in range

The calendar ends far away. From a date of the first few thousand years after 1970, a span of
a century in either direction does not leave it, and leads about as far as it is long. Wherever it
leads, a span that is longer than none leads to a later instant, and a longer span does not lead to
an earlier one.
-/

import Federation.Time.Instant

namespace Federation.Time

/-- A century of 365 days a year, in nanoseconds. -/
def Span.century : Int := 3153600000 * 1000000000

/-- A century, or less, in either direction. -/
def Span.IsModest (d : Span) : Prop := -century ≤ d.nanos ∧ d.nanos ≤ century

/-- A hundred years, or less, in either direction. None of them is longer than 366 days. -/
def Span.IsCentennial (d : Span) : Prop := -3162240000 ≤ d.seconds ∧ d.seconds ≤ 3162240000

theorem Span.IsModest.seconds {d : Span} (modest : d.IsModest) :
    -3153600000 ≤ d.seconds ∧ d.seconds ≤ 3153600000 := by
  obtain ⟨lower, upper⟩ := modest
  rw [Span.century] at lower upper
  have parts := Int.mul_tdiv_add_tmod d.nanos 1000000000
  have part_lt := Int.tmod_lt_of_pos d.nanos (show (0 : Int) < 1000000000 by decide)
  have lt_part := Int.lt_tmod_of_pos d.nanos (show (0 : Int) < 1000000000 by decide)
  rw [Span.seconds]
  omega

/-- What is moved into modest bounds is modest, whether or not the bounds are in order. -/
theorem Span.IsModest.clamp {lower upper : Span} (least : lower.IsModest) (most : upper.IsModest)
    (d : Span) : (d.clamp lower upper).IsModest := by
  rw [Span.clamp]
  split
  · exact least
  · rename_i not_below
    split
    · exact most
    · rename_i not_above
      exact ⟨Int.le_trans least.1 (Int.not_lt.1 not_below),
        Int.le_trans (Int.not_lt.1 not_above) most.2⟩

namespace Instant

/-- Adding seconds and a part of a second leads to within a second of the sum of the
seconds. -/
theorem second_addParts (second nano secs part : Int) :
    second + secs - 1 ≤ (addParts second nano secs part).second ∧
      (addParts second nano secs part).second ≤ second + secs + 1 := by
  rw [addParts]
  split
  · dsimp only
    omega
  · split
    · dsimp only
      omega
    · dsimp only
      omega

/-- A span that is not too long leads to a date in range. -/
theorem exists_add?_of_seconds {t : Instant} {d : Span} {reach : Int} (after : 0 ≤ t.second)
    (before : t.second ≤ 1000000000000) (near : reach ≤ 1000000000000)
    (secs : -reach ≤ d.seconds ∧ d.seconds ≤ reach) :
    ∃ t', t.add? d = some t' ∧ t.second - reach - 1 ≤ t'.second ∧
      t'.second ≤ t.second + reach + 2 := by
  have shifted : t.second - reach - 1 ≤ (t.shift d).second ∧
      (t.shift d).second ≤ t.second + reach + 2 := by
    rw [shift]
    split
    · split
      · have near := second_addParts t.second (t.nano - 1000000000) d.seconds d.subsecondNanos
        omega
      · split
        · have near := second_addParts (t.second + 1) (t.nano - 1000000000) d.seconds
            d.subsecondNanos
          omega
        · dsimp only
          omega
    · have near := second_addParts t.second t.nano d.seconds d.subsecondNanos
      omega
  have first : firstSecond ≤ -2000000000000 := by decide
  have last : 3000000000000 ≤ lastSecond := by decide
  refine ⟨t.shift d, ?_, shifted⟩
  rw [add?, inRange?, if_pos (by omega)]

/-- A modest span leads to a date in range. -/
theorem exists_add? {t : Instant} {d : Span} (after : 0 ≤ t.second)
    (before : t.second ≤ 1000000000000) (modest : d.IsModest) :
    ∃ t', t.add? d = some t' ∧ t.second - 3153600001 ≤ t'.second ∧
      t'.second ≤ t.second + 3153600002 := by
  obtain ⟨t', reached, below, above⟩ :=
    exists_add?_of_seconds after before (by decide) modest.seconds
  exact ⟨t', reached, by omega, by omega⟩

/-- A moment of the years from 1970 to 9000. -/
def IsNear (t : Instant) : Prop :=
  0 ≤ t.second ∧ t.second ≤ (CivilDate.mk 9000 12 31).toDays * 86400 + 86399

/-- From such a moment, a hundred years do not lead out of the calendar. -/
theorem IsNear.exists_add? {t : Instant} {d : Span} (near : t.IsNear)
    (centennial : d.IsCentennial) : ∃ t', t.add? d = some t' := by
  have last : (CivilDate.mk 9000 12 31).toDays * 86400 + 86399 ≤ 1000000000000 := by decide
  obtain ⟨t', reached, -⟩ := exists_add?_of_seconds near.1 (Int.le_trans near.2 last)
    (show (3162240000 : Int) ≤ 1000000000000 by decide) centennial
  exact ⟨t', reached⟩

/-- Going forward leads to a later second, unless the parts of a second do not make up one. -/
theorem forward_addParts (second nano : Int) {secs part : Int} (positive : 0 ≤ nano)
    (forward : 0 ≤ secs ∧ 0 ≤ part) :
    second < (addParts second nano secs part).second ∨
      secs = 0 ∧ nano + part < 1000000000 ∧
        addParts second nano secs part = ⟨second, (nano + part).toNat⟩ := by
  rw [addParts, if_neg (by omega)]
  by_cases full : 1000000000 ≤ nano + part
  · rw [if_pos full]
    exact .inl (by dsimp only; omega)
  · rw [if_neg full]
    by_cases whole : secs = 0
    · exact .inr ⟨whole, by omega, by rw [whole, Int.add_zero]⟩
    · exact .inl (by dsimp only; omega)

/-- A span that is longer than none leads to a later instant, within a leap second or not. -/
theorem lt_of_add? {t t' : Instant} {d : Span} (positive : .zero < d)
    (reached : t.add? d = some t') : t < t' := by
  have nanos : 0 < d.nanos := positive
  have parts := Int.mul_tdiv_add_tmod d.nanos 1000000000
  have forward : 0 ≤ d.seconds ∧ 0 ≤ d.subsecondNanos :=
    ⟨Int.tdiv_nonneg (by omega) (by decide), Int.tmod_nonneg _ (by omega)⟩
  -- Either whole seconds pass or a part of one does.
  have moves : 0 < d.seconds ∨ 0 < d.subsecondNanos := by
    rw [Span.seconds, Span.subsecondNanos] at *
    omega
  have shifted : t < t.shift d := by
    rw [lt_iff, shift]
    by_cases leap : t.isLeap = true
    · have late : 1000000000 ≤ t.nano := of_decide_eq_true leap
      rw [if_pos leap]
      by_cases leaves : 0 < d.seconds ∨
          (0 < d.subsecondNanos ∧ 2000000000 - d.subsecondNanos ≤ t.nano)
      · -- It leaves the leap second, which counts as part of the second that it follows.
        rw [if_pos leaves]
        rcases forward_addParts t.second (t.nano - 1000000000) (by omega) forward with
          later | ⟨none_whole, short, -⟩
        · exact .inl later
        · omega
      · -- It stays within the leap second, and moves the nanoseconds only.
        rw [if_neg leaves, if_neg (by omega)]
        exact .inr ⟨rfl, by dsimp only; omega⟩
    · rw [if_neg leap]
      rcases forward_addParts t.second t.nano (by omega) forward with
        later | ⟨none_whole, -, same⟩
      · exact .inl later
      · rw [same]
        exact .inr ⟨rfl, by dsimp only; omega⟩
  rw [add?, inRange?] at reached
  split at reached
  · exact Option.some_inj.1 reached ▸ shifted
  · cases reached

/-- Going further forward does not lead to an earlier instant. -/
theorem addParts_mono (second : Int) {nano secs part secs' part' : Int} (positive : 0 ≤ nano)
    (fraction : 0 ≤ part ∧ part < 1000000000) (fraction' : 0 ≤ part')
    (ordered : secs < secs' ∨ secs = secs' ∧ part ≤ part') :
    addParts second nano secs part ≤ addParts second nano secs' part' := by
  have above : ¬ nano + part < 0 := by omega
  have above' : ¬ nano + part' < 0 := by omega
  rw [le_iff, addParts, addParts, if_neg above, if_neg above']
  split <;> split <;> dsimp only <;> omega

/-- A longer span does not lead to an earlier instant, within a leap second or not, if neither leads
back. -/
theorem add?_mono {t near far : Instant} {d d' : Span} (forward : .zero ≤ d) (longer : d ≤ d')
    (reached : t.add? d = some near) (reached' : t.add? d' = some far) : near ≤ far := by
  have forward : 0 ≤ d.nanos := forward
  have longer : d.nanos ≤ d'.nanos := longer
  have parts := Int.mul_tdiv_add_tmod d.nanos 1000000000
  have parts' := Int.mul_tdiv_add_tmod d'.nanos 1000000000
  have part_lt := Int.tmod_lt_of_pos d.nanos (show (0 : Int) < 1000000000 by decide)
  have part_lt' := Int.tmod_lt_of_pos d'.nanos (show (0 : Int) < 1000000000 by decide)
  have secs : 0 ≤ d.seconds := Int.tdiv_nonneg forward (by decide)
  have part : 0 ≤ d.subsecondNanos := Int.tmod_nonneg _ forward
  have secs' : 0 ≤ d'.seconds := Int.tdiv_nonneg (by omega) (by decide)
  have part' : 0 ≤ d'.subsecondNanos := Int.tmod_nonneg _ (by omega)
  -- Spans are ordered by their whole seconds first.
  have ordered : d.seconds < d'.seconds ∨
      d.seconds = d'.seconds ∧ d.subsecondNanos ≤ d'.subsecondNanos := by
    simp only [Span.seconds, Span.subsecondNanos] at part part' ⊢
    omega
  have shifted : t.shift d ≤ t.shift d' := by
    rw [shift, shift]
    by_cases leap : t.isLeap = true
    · have late : 1000000000 ≤ t.nano := of_decide_eq_true leap
      rw [if_pos leap, if_pos leap]
      split
      · rw [if_pos (by omega)]
        exact addParts_mono t.second (by omega) ⟨part, part_lt⟩ part' ordered
      · rw [if_neg (show ¬ d.seconds < 0 by omega)]
        split
        · -- What leaves the leap second is in the second that follows, or later.
          rcases forward_addParts t.second (t.nano - 1000000000) (by omega) ⟨secs', part'⟩ with
            later | ⟨none_whole, short, -⟩
          · exact le_iff.2 (.inl later)
          · omega
        · rw [if_neg (by omega)]
          exact le_iff.2 (.inr ⟨rfl, by dsimp only; omega⟩)
    · rw [if_neg leap, if_neg leap]
      exact addParts_mono t.second (by omega) ⟨part, part_lt⟩ part' ordered
  rw [add?, inRange?] at reached reached'
  split at reached
  · split at reached'
    · exact Option.some_inj.1 reached ▸ Option.some_inj.1 reached' ▸ shifted
    · cases reached'
  · cases reached

end Instant

end Federation.Time
