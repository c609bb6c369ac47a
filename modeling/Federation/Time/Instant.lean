/-
# Instants and spans

An instant counts seconds from 1970-01-01T00:00:00Z and nanoseconds within the second.
A nanosecond count of one thousand million or more lies in a leap second that follows
the counted one. Instants end at the last moment of the year 262142 and begin with the
year -262143; arithmetic that leaves this range has no result.

A span is a signed length of time in nanoseconds. Spans reach as far as a signed
64-bit number of milliseconds.
-/

import Federation.Time.Calendar

namespace Federation.Time

/-- A signed length of time. -/
structure Span where
  nanos : Int
deriving DecidableEq, Repr, Inhabited

namespace Span

/-- The longest span in either direction. -/
def limit : Int := 9223372036854775807 * 1000000

/-- The zero span. -/
def zero : Span := ⟨0⟩

/-- A span of milliseconds, without regard to the limit. -/
def ofMillis (n : Int) : Span := ⟨n * 1000000⟩

/-- A span of seconds, without regard to the limit. -/
def ofSeconds (n : Int) : Span := ⟨n * 1000000000⟩

/-- A span of seconds within the limit. -/
def ofSeconds? (n : Int) : Option Span :=
  if -9223372036854775 ≤ n ∧ n ≤ 9223372036854775 then some (ofSeconds n) else none

/-- Whole seconds, toward zero. -/
def seconds (d : Span) : Int := d.nanos.tdiv 1000000000

/-- Whole milliseconds, toward zero. -/
def millis (d : Span) : Int := d.nanos.tdiv 1000000

/-- The part of a second beyond the whole seconds, with the sign of the span. -/
def subsecondNanos (d : Span) : Int := d.nanos.tmod 1000000000

instance : LE Span := ⟨fun a b => a.nanos ≤ b.nanos⟩
instance : LT Span := ⟨fun a b => a.nanos < b.nanos⟩
instance (a b : Span) : Decidable (a ≤ b) := inferInstanceAs (Decidable (a.nanos ≤ b.nanos))
instance (a b : Span) : Decidable (a < b) := inferInstanceAs (Decidable (a.nanos < b.nanos))

/-- Moves a span into the bounds, which are in order. -/
def clamp (d lower upper : Span) : Span :=
  if d < lower then lower else if upper < d then upper else d

/-- A span that was moved into bounds lies between them. -/
theorem clamp_mem {d lower upper : Span} (h : lower ≤ upper) :
    lower ≤ d.clamp lower upper ∧ d.clamp lower upper ≤ upper := by
  simp only [clamp]
  split
  · exact ⟨Int.le_refl _, h⟩
  · split
    · exact ⟨h, Int.le_refl _⟩
    · rename_i notBelow notAbove
      exact ⟨Int.not_lt.1 notBelow, Int.not_lt.1 notAbove⟩

end Span

/-- A moment of Coordinated Universal Time. -/
structure Instant where
  second : Int
  nano : Nat
deriving DecidableEq, Repr, Inhabited

namespace Instant

/-- Instants are ordered by second, then by nanosecond. -/
def before (a b : Instant) : Bool :=
  a.second < b.second || (a.second == b.second && a.nano < b.nano)

instance : LT Instant := ⟨fun a b => a.before b = true⟩
instance : LE Instant := ⟨fun a b => b.before a = false⟩
instance (a b : Instant) : Decidable (a < b) := inferInstanceAs (Decidable (a.before b = true))
instance (a b : Instant) : Decidable (a ≤ b) := inferInstanceAs (Decidable (b.before a = false))

/-- The earlier of two instants. -/
def earliest (a b : Instant) : Instant := if b < a then b else a

/-- The later of two instants. -/
def latest (a b : Instant) : Instant := if a < b then b else a

theorem lt_iff {a b : Instant} :
    a < b ↔ a.second < b.second ∨ a.second = b.second ∧ a.nano < b.nano := by
  show a.before b = true ↔ _
  simp [before]

theorem not_lt {a b : Instant} : ¬ a < b ↔ b ≤ a := by
  show ¬ a.before b = true ↔ a.before b = false
  simp

theorem not_le {a b : Instant} : ¬ a ≤ b ↔ b < a := by
  rw [← not_lt, Classical.not_not]

theorem le_iff {a b : Instant} :
    a ≤ b ↔ a.second < b.second ∨ a.second = b.second ∧ a.nano ≤ b.nano := by
  rw [← not_lt, lt_iff]
  omega

theorem le_refl (a : Instant) : a ≤ a := le_iff.2 (.inr ⟨rfl, Nat.le_refl _⟩)

theorem le_trans {a b c : Instant} (h : a ≤ b) (h' : b ≤ c) : a ≤ c := by
  rw [le_iff] at *
  omega

theorem le_total (a b : Instant) : a ≤ b ∨ b ≤ a := by
  rw [le_iff, le_iff]
  omega

theorem le_antisymm {a b : Instant} (h : a ≤ b) (h' : b ≤ a) : a = b := by
  rw [le_iff] at *
  cases a
  cases b
  simp only [mk.injEq] at *
  omega

theorem le_of_lt {a b : Instant} (h : a < b) : a ≤ b := by
  rw [lt_iff] at h
  rw [le_iff]
  omega

theorem lt_of_lt_of_le {a b c : Instant} (h : a < b) (h' : b ≤ c) : a < c := by
  rw [lt_iff] at *
  rw [le_iff] at h'
  omega

theorem lt_of_le_of_lt {a b c : Instant} (h : a ≤ b) (h' : b < c) : a < c := by
  rw [lt_iff] at *
  rw [le_iff] at h
  omega

/-- The earlier of two instants is the greatest that is not after either. -/
theorem le_earliest_iff {t a b : Instant} : t ≤ a.earliest b ↔ t ≤ a ∧ t ≤ b := by
  simp only [earliest]
  split
  · rename_i h
    exact ⟨fun ht => ⟨le_trans ht (le_of_lt h), ht⟩, And.right⟩
  · rename_i h
    exact ⟨fun ht => ⟨ht, le_trans ht (not_lt.1 h)⟩, And.left⟩

theorem lt_earliest_iff {t a b : Instant} : t < a.earliest b ↔ t < a ∧ t < b := by
  simp only [earliest]
  split
  · rename_i h
    exact ⟨fun ht => ⟨lt_of_lt_of_le ht (le_of_lt h), ht⟩, And.right⟩
  · rename_i h
    exact ⟨fun ht => ⟨ht, lt_of_lt_of_le ht (not_lt.1 h)⟩, And.left⟩

theorem earliest_le_left (a b : Instant) : a.earliest b ≤ a :=
  (le_earliest_iff.1 (le_refl _)).1

theorem earliest_le_right (a b : Instant) : a.earliest b ≤ b :=
  (le_earliest_iff.1 (le_refl _)).2

/-- The later of two instants is the least that is not before either. -/
theorem latest_le_iff {t a b : Instant} : a.latest b ≤ t ↔ a ≤ t ∧ b ≤ t := by
  simp only [latest]
  split
  · rename_i h
    exact ⟨fun ht => ⟨le_trans (le_of_lt h) ht, ht⟩, And.right⟩
  · rename_i h
    exact ⟨fun ht => ⟨ht, le_trans (not_lt.1 h) ht⟩, And.left⟩

/-- First second of the year -262143. -/
def firstSecond : Int := (CivilDate.mk (-262143) 1 1).toDays * 86400

/-- Last second of the year 262142. -/
def lastSecond : Int := (CivilDate.mk 262142 12 31).toDays * 86400 + 86399

/-- An instant, if its second lies in the range of the calendar. -/
def inRange? (t : Instant) : Option Instant :=
  if firstSecond ≤ t.second ∧ t.second ≤ lastSecond then some t else none

/-- Is an instant within a leap second? -/
def isLeap (t : Instant) : Bool := 1000000000 ≤ t.nano

/-- Adds seconds and a part of a second of the same sign to an instant outside any
leap second. -/
def addParts (second : Int) (nano secs part : Int) : Instant :=
  let total := nano + part
  if total < 0 then ⟨second + secs - 1, (total + 1000000000).toNat⟩
  else if 1000000000 ≤ total then ⟨second + secs + 1, (total - 1000000000).toNat⟩
  else ⟨second + secs, total.toNat⟩

/-- The instant a span later, without regard to the range. A span that stays within a
leap second only moves the nanoseconds; one that leaves it forward counts from the
start of the second before, one that leaves it backward from the start of the second
after. -/
def shift (t : Instant) (d : Span) : Instant :=
  let secs := d.seconds
  let part := d.subsecondNanos
  if t.isLeap then
    if 0 < secs ∨ (0 < part ∧ 2000000000 - part ≤ t.nano) then
      -- The leap second counts as part of the second that it follows.
      addParts t.second (t.nano - 1000000000) secs part
    else if secs < 0 then
      addParts (t.second + 1) (t.nano - 1000000000) secs part
    else
      ⟨t.second, (t.nano + part).toNat⟩
  else
    addParts t.second t.nano secs part

/-- The instant a span later, if the calendar reaches it. -/
def add? (t : Instant) (d : Span) : Option Instant :=
  (t.shift d).inRange?

/-- The span from `since` to `t`. A leap second within the shorter of the two days
counts as a second of its own. -/
def span (t since : Instant) : Span :=
  let timeOfDay := t.second % 86400
  let sinceTimeOfDay := since.second % 86400
  let extra : Int :=
    if sinceTimeOfDay < timeOfDay ∧ since.isLeap then 1
    else if timeOfDay < sinceTimeOfDay ∧ t.isLeap then -1
    else 0
  ⟨(t.second - since.second + extra) * 1000000000 + ((t.nano : Int) - since.nano)⟩

/-- Milliseconds since 1970, rounded down. -/
def toMillis (t : Instant) : Int := t.second * 1000 + t.nano / 1000000

/-- The instant a number of milliseconds after 1970. -/
def ofMillis (n : Int) : Instant :=
  ⟨n / 1000, (n % 1000 * 1000000).toNat⟩

/-- Milliseconds lose nothing when they are made an instant. -/
theorem toMillis_ofMillis (n : Int) : (ofMillis n).toMillis = n := by
  simp only [ofMillis, toMillis]
  omega

end Instant

end Federation.Time
