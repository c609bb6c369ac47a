/-
# Origins

An origin is where metadata comes from. Some origins load everything they have when they are
refreshed, run the filters over it and answer queries from what they keep: a snapshot.
Others are asked query by query and have nothing to refresh.
-/

import Federation.Criteria
import Federation.Filter.Chain
import Federation.Metrics.Basic
import Federation.Task.Basic
import Federation.Time.Delay

namespace Federation

open Federation.Metadata Federation.Time

/-- What an origin works on: the metrics and a state of its own. -/
structure OriginScope (ε : Type) where
  metrics : Metrics
  state : ε

/-- What comes of refreshing an origin. -/
inductive RefreshOutcome where
  /-- Everything was loaded and filtered anew. -/
  | updated (entities : List Entity) (next : Option Delay)
  /-- Nothing has changed since the last time. -/
  | unchanged (next : Option Delay)
  /-- There is nothing to refresh. -/
  | notApplicable
deriving DecidableEq

/-- An origin with a state of some type. -/
structure Origin (ε : Type) where
  /-- The document that answers a query, if there is one. -/
  fetch : Criteria → Task (OriginScope ε) (Option Document)
  /-- Loads everything anew. -/
  refresh : FilterChain → Filter.Context → Task (OriginScope ε) RefreshOutcome
  /-- Have fetched documents been through the filters already? -/
  isPrefiltered : Bool
  /-- Can queries without an ID be fetched? -/
  isSecondary : Bool
  /-- The delay after which a refresh that failed is tried again. -/
  retryDelay : Option Delay

namespace OriginScope

/-- The scope of a part of the state. -/
def part {τ ε : Type} (place : Task.Place τ ε) : Task.Place (OriginScope τ) (OriginScope ε) where
  get s := ⟨s.metrics, place.get s.state⟩
  put s part := ⟨part.metrics, place.put s.state part.state⟩
  get_put s part := by simp [place.get_put]
  put_get s := by simp [place.put_get]
  put_put s _ _ := by simp [place.put_put]

/-- Counts a fetch, whose duration is not measured here. -/
def count {ε : Type} (source outcome : String) : Task (OriginScope ε) Unit :=
  .change fun s => { s with metrics := s.metrics.originFetch source outcome 0.0 }

end OriginScope

namespace Origin

/-- An origin with its state in a part of a whole. -/
def on {τ ε : Type} (place : Task.Place τ ε) (origin : Origin ε) : Origin τ where
  fetch query := (origin.fetch query).on (OriginScope.part place)
  refresh filters context := (origin.refresh filters context).on (OriginScope.part place)
  isPrefiltered := origin.isPrefiltered
  isSecondary := origin.isSecondary
  retryDelay := origin.retryDelay

end Origin

/-! ## Filtering what was loaded -/

/-- Filters documents one after another and flattens what is left of them. -/
def filterDocuments (filters : FilterChain) (context : Filter.Context) :
    List Document → Except Failure (List Entity)
  | [] => .ok []
  | document :: rest =>
    match FilterChain.apply context filters document with
    | .error failure => .error failure
    | .ok filtered =>
      match filterDocuments filters context rest with
      | .error failure => .error failure
      | .ok entities => .ok ((filtered.map Document.flatten).getD [] ++ entities)

end Federation
