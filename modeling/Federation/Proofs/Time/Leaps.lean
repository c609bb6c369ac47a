/-
# Instants outside leap seconds

Instants outside leap seconds are plain: they are numbers of nanoseconds since 1970, ordered like
these numbers, the span between two of them is a difference, and to add a span is to add. None of
this holds within leap seconds. An instant within a leap second comes before the second that
follows, yet the span from an earlier day to it can be longer than the span to that second.

## Main results

- `Instant.span_mono`: the earlier of two plain instants is not further ahead, and later on still
  less so.
- `Instant.le_of_span_le`: a plain instant that is no further ahead than a span is not after what
  the span leads to.
-/

import Federation.Time.Instant

namespace Federation.Time.Instant

variable {t t' since since' limit : Instant} {d : Span}

/-- Nanoseconds since 1970, without regard to leap seconds. -/
def toNanos (t : Instant) : Int := t.second * 1000000000 + t.nano

theorem nano_lt (plain : t.isLeap = false) : t.nano < 1000000000 := by
  simpa [isLeap] using plain

theorem le_iff_toNanos (plain : t.isLeap = false) (plain' : t'.isLeap = false) :
    t ≤ t' ↔ t.toNanos ≤ t'.toNanos := by
  have small := nano_lt plain
  have small' := nano_lt plain'
  rw [le_iff, toNanos, toNanos]
  omega

theorem nanos_span (plain : t.isLeap = false) (plain' : since.isLeap = false) :
    (t.span since).nanos = t.toNanos - since.toNanos := by
  simp only [span, plain, plain', Bool.false_eq_true, and_false, if_false, toNanos]
  omega

/-- The earlier of two plain instants is not further ahead, and later on still less so. -/
theorem span_mono (plain : t.isLeap = false) (plain' : t'.isLeap = false)
    (now : since.isLeap = false) (now' : since'.isLeap = false) (earlier : t ≤ t')
    (later : since ≤ since') : t.span since' ≤ t'.span since := by
  show (t.span since').nanos ≤ (t'.span since).nanos
  rw [nanos_span plain now', nanos_span plain' now]
  have earlier := (le_iff_toNanos plain plain').1 earlier
  have later := (le_iff_toNanos now now').1 later
  omega

/-- Parts that are added to a plain instant are carried over. -/
theorem addParts_plain (second secs : Int) {nano part : Int} (least : 0 ≤ nano)
    (most : nano < 1000000000) (above : -1000000000 < part) (below : part < 1000000000) :
    (addParts second nano secs part).isLeap = false ∧
      (addParts second nano secs part).toNanos
        = second * 1000000000 + nano + (secs * 1000000000 + part) := by
  simp only [addParts, isLeap, toNanos]
  split
  · simp only [decide_eq_false_iff_not]
    omega
  · split
    · simp only [decide_eq_false_iff_not]
      omega
    · simp only [decide_eq_false_iff_not]
      omega

/-- To add a span to a plain instant is to add, and the sum is plain. -/
theorem shift_plain (plain : t.isLeap = false) (d : Span) :
    (t.shift d).isLeap = false ∧ (t.shift d).toNanos = t.toNanos + d.nanos := by
  have parts := Int.mul_tdiv_add_tmod d.nanos 1000000000
  have below := Int.tmod_lt_of_pos d.nanos (show (0 : Int) < 1000000000 by decide)
  have above := Int.lt_tmod_of_pos d.nanos (show (0 : Int) < 1000000000 by decide)
  obtain ⟨plain', sum⟩ := addParts_plain t.second d.seconds
    (Int.natCast_nonneg t.nano) (Int.ofNat_lt.2 (nano_lt plain)) above below
  simp only [shift, plain, Bool.false_eq_true, if_false]
  refine ⟨plain', sum.trans ?_⟩
  rw [toNanos, Span.seconds]
  omega

/-- A plain instant that is no further ahead than a span is not after what the span leads to. -/
theorem le_of_span_le (plain : t.isLeap = false) (now : since.isLeap = false)
    (near : t.span since ≤ d) (reached : since.add? d = some limit) : t ≤ limit := by
  have near : (t.span since).nanos ≤ d.nanos := near
  rw [nanos_span plain now] at near
  rw [add?, inRange?] at reached
  split at reached
  · obtain rfl := Option.some_inj.1 reached
    obtain ⟨plain', sum⟩ := shift_plain now d
    rw [le_iff_toNanos plain plain', sum]
    omega
  · cases reached

end Federation.Time.Instant
