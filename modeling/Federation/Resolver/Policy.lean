/-
# Rules of caching

For how long the resolver keeps what it fetched, what it does when an entity cannot be
fetched again, and which fetches it makes at all.
-/

import Federation.Time.Instant

namespace Federation

open Federation.Time

/-- What happens to an expired entity when it cannot be fetched again. -/
inductive FailurePolicy where
  /-- It is served for a while longer. -/
  | retain (interval : Span)
  /-- It is dropped and the failure reported. -/
  | evict
deriving DecidableEq, Repr

/-- The rules by which the resolver caches. -/
structure CachePolicy where
  /-- No entity is kept shorter, unless it becomes invalid. -/
  shortest : Span
  /-- No entity is kept longer; also for entities that state nothing. -/
  longest : Span
  /-- For how long an answer that there is no such entity is believed. -/
  negative : Option Span
  onFailure : FailurePolicy
  /-- For how long an entity is kept without being used. -/
  longestIdle : Option Span
  /-- Is an entity fetched once at a time only? -/
  singleFlight : Bool
  /-- Is the origin asked queries without an ID? -/
  secondaryLookup : Bool
deriving DecidableEq, Repr

/-- The rules that hold unless others are given. -/
def CachePolicy.standard : CachePolicy where
  shortest := .ofSeconds 600
  longest := .ofSeconds 28800
  negative := some (.ofSeconds 600)
  onFailure := .retain (.ofSeconds 600)
  longestIdle := some (.ofSeconds 28800)
  singleFlight := true
  secondaryLookup := true

end Federation
