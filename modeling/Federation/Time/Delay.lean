/-
# Delays

A delay is an unsigned length of time in whole seconds, at most the largest unsigned
64-bit number of them, and nanoseconds within a second. Delays schedule pulls and jobs;
spans (signed) bound the lifetime of what is cached.
-/

import Federation.Time.Instant

namespace Federation.Time

/-- An unsigned length of time, in nanoseconds. -/
structure Delay where
  nanos : Nat
deriving DecidableEq, Repr, Inhabited

namespace Delay

/-- The zero delay. -/
def zero : Delay := ⟨0⟩

/-- A delay of milliseconds. -/
def ofMillis (n : Nat) : Delay := ⟨n * 1000000⟩

/-- A delay of seconds. -/
def ofSeconds (n : Nat) : Delay := ⟨n * 1000000000⟩

/-- Whole seconds. -/
def seconds (d : Delay) : Nat := d.nanos / 1000000000

/-- Nanoseconds beyond the whole seconds. -/
def subsecondNanos (d : Delay) : Nat := d.nanos % 1000000000

instance : LE Delay := ⟨fun a b => a.nanos ≤ b.nanos⟩
instance : LT Delay := ⟨fun a b => a.nanos < b.nanos⟩
instance (a b : Delay) : Decidable (a ≤ b) := inferInstanceAs (Decidable (a.nanos ≤ b.nanos))
instance (a b : Delay) : Decidable (a < b) := inferInstanceAs (Decidable (a.nanos < b.nanos))

/-- The shorter of two delays. -/
def min (a b : Delay) : Delay := if b < a then b else a

/-- A span that is not negative, as a delay. -/
def ofSpan? (d : Span) : Option Delay :=
  if d.nanos < 0 then none else some ⟨d.nanos.toNat⟩

/-- A delay within the reach of spans, as a span. -/
def toSpan? (d : Delay) : Option Span :=
  if (d.nanos : Int) ≤ Span.limit then some ⟨d.nanos⟩ else none

end Delay

end Federation.Time
