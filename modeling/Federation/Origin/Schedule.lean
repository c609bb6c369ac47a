/-
# When to pull again

A document says how long it may be cached and until when it is valid; the shorter of the
two is its lifetime. The next pull comes after a fraction of the lifetime, within two
bounds. A document that states neither is pulled after the longest delay.
-/

import Federation.Decimal.Nearest
import Federation.Decimal.Shortest
import Federation.Time.Delay

namespace Federation.Origin

open Federation.Time

/-- The bounds of the delay between two pulls and the fraction of the lifetime to wait. -/
structure Schedule where
  shortest : Delay
  longest : Delay
  factor : Float

namespace Schedule

/-- Five minutes to four hours, after three quarters of the lifetime. -/
def standard : Schedule := ⟨.ofSeconds 300, .ofSeconds 14400, 0.75⟩

/-- A delay in seconds as a double. -/
def toDouble (d : Delay) : Float :=
  (UInt64.ofNat d.seconds).toFloat + (UInt64.ofNat d.subsecondNanos).toFloat / 1000000000.0

/-- The delay nearest to a number of seconds that is not negative; of two equally near ones
the even one. There is none for numbers that do not fit into 64 bits. -/
def ofDouble? (seconds : Float) : Option Delay :=
  if seconds.isNaN || 18446744073709551616.0 ≤ seconds then none
  else
    let b := Decimal.Binary.ofBits seconds.toBits
    let num := b.mantissa * 1000000000
    if 0 ≤ b.exponent then some ⟨num * Nat.pow 2 b.exponent.toNat⟩
    else some ⟨Decimal.roundQuotient num (Nat.pow 2 b.exponent.natAbs)⟩

/-- The fraction that is waited for; a negative one, or none, counts as zero. -/
def effectiveFactor (s : Schedule) : Float :=
  if 0.0 < s.factor then s.factor else 0.0

/-- The time for which a document may be used from now on. -/
def lifetime (cacheSeconds : Option Nat) (validUntil : Option Instant) (now : Instant) :
    Option Delay :=
  let cache := cacheSeconds.map Delay.ofSeconds
  -- What is over has no time left.
  let until_ := validUntil.map fun t => (Delay.ofSpan? (t.span now)).getD Delay.zero
  match cache, until_ with
  | some a, some b => some (a.min b)
  | some a, none => some a
  | none, b => b

/-- The delay until the next pull. There is none if the product does not fit into 64 bits,
or if the bounds are not in order. -/
def nextDelay (s : Schedule) (cacheSeconds : Option Nat) (validUntil : Option Instant)
    (now : Instant) : Option Delay :=
  match lifetime cacheSeconds validUntil now with
  | none => some s.longest
  | some d =>
    match ofDouble? (s.effectiveFactor * toDouble d) with
    | none => none
    | some product =>
      if s.longest < s.shortest then none
      else if product < s.shortest then some s.shortest
      else if s.longest < product then some s.longest
      else some product

end Schedule

end Federation.Origin
