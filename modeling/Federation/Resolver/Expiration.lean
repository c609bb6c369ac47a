/-
# Expiration

A description that was fetched at some instant is kept for the cache duration it states,
moved into the bounds of the policy, and in no case beyond the end of its validity. One that
states no duration is kept as long as the policy allows.
-/

import Federation.Outcome
import Federation.Resolver.Policy
import Federation.Store.Backing

namespace Federation

open Federation.Metadata Federation.Time

namespace CachePolicy

/-- The end of a lifetime that begins now, or of the validity if that is earlier. -/
def endOf (policy : CachePolicy) (e : Entity) (now : Instant) (requested : Span) :
    Outcome Instant :=
  match now.add? (requested.clamp policy.shortest policy.longest) with
  | none => .overflow
  | some expiration =>
    match e.validUntil with
    | some until_ => .ok (expiration.earliest until_)
    | none => .ok expiration

/-- The expiration of a description; none if it is not valid any longer. -/
def expiration (policy : CachePolicy) (e : Entity) (now : Instant) : Outcome (Option Instant) :=
  if !e.isValidAt now then .ok none
  else
    match e.cacheDuration with
    | .unrepresentable => .overflow
    | .unstated => (policy.endOf e now policy.longest).map some
    | .stated d => (policy.endOf e now d).map some

/-- The record that is cached of a description, without the text it was read from. -/
def record (policy : CachePolicy) (e : Entity) (now : Instant) : Outcome (Option CacheRecord) :=
  (policy.expiration e now).map fun expiration =>
    expiration.map fun t => ⟨e.withoutWireForm, t, now⟩

/-- The records of descriptions, of those that are valid. -/
def records (policy : CachePolicy) (now : Instant) : List Entity → Outcome (List CacheRecord)
  | [] => .ok []
  | e :: rest =>
    (policy.record e now).bind fun record => (records policy now rest).map (record.toList ++ ·)

end CachePolicy

end Federation
