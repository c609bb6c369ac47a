/-
# Documents that cut calls short

What a document says cuts a resolver short in one case only: a description that is valid states a
cache duration that is out of the reach of spans. Then there are resolvers with ordinary durations
that are cut short: when they are asked for the entity, when they are refreshed, and when a copy of
the description is found in the persistent cache. All other documents spare all calls of all such
resolvers, and what they say is kept for as long as the policies want it to be kept.

## Main definitions

- `Metadata.Document.Spares`: calls are not cut short where all that is known comes from a document.
- `Resolver.exposed`: a resolver that takes in what a document says as it is.

## Main results

- `Resolver.run_resolve_overflow`: what a query comes to when an answer cannot be recorded.
- `Resolver.spares_iff`: which documents spare all calls, and when what they say expires.
- `Resolver.oversized_duration_cuts_short`: a document that does not.
-/

import Federation.Proofs.Resolver.Offering
import Federation.Proofs.Resolver.Refreshing
import Federation.Proofs.Resolver.Withstanding

namespace Federation

open Federation.Metadata Federation.Time Federation.Task Federation.Resolver

/-- Where all that origins and persistent caches know comes from a document, from some instant on,
no call of a kind is cut short, however the state drifts as long as that stays so; and the call
leaves it so. -/
def Metadata.Document.Spares (document : Document) (start : Instant) (kind : Call → Prop) : Prop :=
  ∀ (ε : Type) (r : Resolver ε) (supply : ε → Prop) (drift : Drift (ResolverState ε)),
    r.Draws document supply →
    drift.Below (.keeping (ResolverState.IsBenign document start supply)) →
    ∀ (c : Call) (s : ResolverState ε), kind c → s.IsBenign document start supply →
      ∀ outcome s', (c.task r).Runs drift s outcome s' →
        outcome ≠ .overflow ∧ s'.IsBenign document start supply

namespace Resolver

variable {ε : Type} {r : Resolver ε} {s : ResolverState ε} {id : String} {query : Criteria}
  {document : Document} {start now : Instant} {entities : List Entity} {e : Entity}
  {kind : Call → Prop}

theorem spares_of_isKeepable (keepable : document.IsKeepable start) : document.Spares start kind := by
  intro ε r supply drift draws kept c s _ benign outcome s' ran
  obtain ⟨ends, benign', -⟩ := (Call.safe keepable draws c).runs kept benign ran
  exact ⟨ends, benign'⟩

/-! ## Calls that are cut short -/

theorem run_insertRecords_overflow (r : Resolver ε) (listed : e ∈ entities)
    (overflows : r.policy.record e now = .overflow) :
    ((r.insertRecords id entities now).run s).1 = .overflow := by
  rw [insertRecords, CachePolicy.records_eq_overflow_iff.2 ⟨e, listed, overflows⟩]
  rfl

/-- A query that comes to the origin is cut short when the answer cannot be recorded. -/
theorem run_resolve_overflow (r : Resolver ε) (ready : s.lifecycle = .initialized)
    (vacant : s.flights.AreVacant) (missing : Misses s id) (asked : query.entityId = some id)
    (answers : ∀ m, IsAsking r s id m → r.answer query m = .ok (some entities))
    (listed : e ∈ entities) (own : e.entityId = id)
    (overflows : r.policy.record e s.now = .overflow) :
    ((r.resolve query).run s).1 = .overflow := by
  obtain ⟨metrics, resolved⟩ := exists_run_resolve r ready asked
  obtain ⟨m, asking, same, -⟩ := exists_isAsking r query vacant missing
  have among : e ∈ ownOf id entities := List.mem_filter.2 ⟨listed, beq_iff_eq.2 own⟩
  have taken : ((r.fetchEntity id query).run m).1 = .overflow := by
    rw [run_fetchEntity_answered, answers m asking]
    dsimp only
    rw [if_neg (List.ne_nil_of_mem among), acceptDescriptions, run_then]
    exact proceed_of_overflow (run_insertRecords_overflow r among (asking.now ▸ overflows))
  rw [resolved, same, taken]
  rfl

/-! ## A resolver that takes in everything -/

/-- A resolver that takes in what a document says as it is, whenever it asks. -/
def exposed (document : Document) : Resolver Unit where
  id := "r"
  policy := .standard
  origin :=
    { fetch _ := pure (some document)
      refresh _ _ := pure (.updated document.flatten none)
      isPrefiltered := true
      isSecondary := false
      retryDelay := none }
  filters := []
  warmFilters := []
  persistence := some ⟨standardKey, false, false⟩

/-- The state of a new resolver that is ready, with a copy of a description in its persistent
cache. -/
def exposure (e : Entity) (start : Instant) : ResolverState Unit :=
  { ResolverState.start []
      (.memory ⟨⟨some (Keyed.empty.insert "copy" e.canonical)⟩, false, []⟩) () start with
    lifecycle := .initialized }

theorem draws_exposed (document : Document) : (exposed document).Draws document fun _ => True where
  policy := CachePolicy.isCentennial_standard
  retry := nofun
  filters := FilterChain.isBuiltIn_nil.trims
  warmFilters := FilterChain.isBuiltIn_nil.trims
  offers :=
    { fetch _ := by
        refine safe_pure ?_
        rintro _ ⟨⟩ e inside
        exact Document.says_of_mem inside
      refresh _ _ := safe_pure ⟨fun e inside => Document.says_of_mem inside, nofun⟩ }

theorem works_exposure (e : Entity) (start : Instant) : (exposure e start).cache.Works :=
  .memory _ _

theorem isBenign_exposure (bounds : document.InBounds) (inside : e ∈ document.flatten)
    (near : start.IsNear) :
    (exposure e start).IsBenign document start fun _ => True where
  near := near
  later := start.le_refl
  supplied := trivial
  copies key copy kept := by
    obtain ⟨-, bytes, stands, loaded⟩ :=
      (PersistentCache.keeps_iff (works_exposure e start)).1 kept
    have stands : (TableCache.mk (some (Keyed.empty.insert "copy" e.canonical))).slot key
        = some (.file bytes) := stands
    rw [TableCache.slot_insert, Function.update_apply] at stands
    split at stands
    · rw [← DirectoryEntry.file.inj (Option.some_inj.1 stands), Entity.loadBytes_utf8] at loaded
      exact (Document.says_of_mem inside).of_load bounds loaded
    · cases stands

section Exposed

variable (overflows : (exposed document).policy.record e start = .overflow)
include overflows

/-- It is cut short when it is asked for the entity. -/
theorem resolve_exposed (inside : e ∈ document.flatten) :
    (((exposed document).resolve { entityId := some e.entityId }).run (exposure e start)).1
      = .overflow :=
  run_resolve_overflow (exposed document) rfl (Flights.areVacant_of_all_eq_nil rfl) ⟨nofun, nofun⟩
    rfl (fun _ _ => rfl) inside rfl overflows

/-- It is cut short when it is refreshed. -/
theorem refresh_exposed (inside : e ∈ document.flatten) :
    ((exposed document).refresh.run (exposure e start)).1 = .overflow := by
  have outside : ¬ (exposed document).InRange ⟨start, .ok (.updated document.flatten none)⟩ :=
    fun inRange => inRange.1 e inside overflows
  exact comesTo_acceptRefresh_overflow outside _ _ _ (runs_run .free _ _)

/-- It is cut short when it finds the copy. -/
theorem loadCache_exposed (bounds : e.InBounds) (valid : e.isValidAt start = true) :
    ((exposed document).loadCache.run (exposure e start)).1 = .overflow := by
  have works := works_exposure e start
  have kept : (exposure e start).cache.Keeps "copy" e.withoutWireForm :=
    PersistentCache.keeps_of_ofText works trivial rfl (Entity.load_canonical bounds)
  have alone (other : String) (foreign : other ≠ "copy") :
      (exposure e start).cache.slot other = none := by
    have empty : (TableCache.mk (some (Keyed.empty.insert "copy" e.canonical))).slot other = none := by
      rw [TableCache.slot_insert, Function.update_of_ne foreign]
      rfl
    exact empty
  have offer : (exposed document).offered start (exposure e start).cache "copy"
      = [e.withoutWireForm] := offered_of_keeps kept
  have loaded : (((exposed document).loadEntity ⟨standardKey, false, false⟩ start "copy"
      e.withoutWireForm).run (exposure e start)).1 = .overflow := by
    have enters : (!e.withoutWireForm.isValidAt start
        || (exposure e start).store.contains e.withoutWireForm.entityId) = false :=
      (Bool.or_false _).trans (congrArg not valid)
    rw [run_loadEntity]
    dsimp only
    rw [if_neg (by rw [enters]; decide)]
    -- The wire form has no part in how long a description is kept.
    exact proceed_of_overflow
      (run_insertRecords_overflow _ (List.mem_singleton_self e.withoutWireForm) overflows)
  -- The loop over the keys gets no further than the turn of the only one.
  rw [run_loadCache _ rfl works, sortedKeys_of_lone works kept alone]
  refine proceed_of_overflow ?_
  rw [run_loadKeys_cons _ _ _ (by simp [exposure])]
  refine proceed_of_overflow ?_
  rw [show (exposure e start).now = start from rfl, offer, Task.collect, run_bind]
  exact proceed_of_overflow loaded

end Exposed

/-- A document with a description that is valid and out of reach does not spare all calls, whichever
of the three kinds are among them. -/
theorem not_spares (bounds : document.InBounds) (near : start.IsNear) (inside : e ∈ document.flatten)
    (valid : e.isValidAt start = true) (unreachable : ¬ e.InReach)
    (kinds : (∀ query, kind (.resolve query)) ∨ kind .refresh ∨ kind .loadCache) :
    ¬ document.Spares start kind := by
  intro spares
  have overflows : (exposed document).policy.record e start = .overflow :=
    (CachePolicy.record_eq_overflow_iff CachePolicy.isCentennial_standard near valid).2 unreachable
  -- A call that nothing interrupts is one way for it to come to an end.
  have ends (c : Call) (among : kind c) :
      ((c.task (exposed document)).run (exposure e start)).1 ≠ .overflow :=
    (spares _ _ _ _ (draws_exposed document) (Drift.below_refl _) c _ among
      (isBenign_exposure bounds inside near) _ _ (runs_run _ _ _)).1
  -- The same resolver, in the same state, is cut short by each kind of call.
  rcases kinds with resolves | refreshes | loads
  · refine ends (.resolve { entityId := some e.entityId }) (resolves _) ?_
    rw [Call.task, run_then]
    exact proceed_of_overflow (resolve_exposed overflows inside)
  · refine ends .refresh refreshes ?_
    rw [Call.task, run_then]
    exact proceed_of_overflow (refresh_exposed overflows inside)
  · have own : e.InBounds := (Document.says_of_mem inside).inBounds bounds
    refine ends .loadCache loads ?_
    rw [Call.task, run_then]
    exact proceed_of_overflow (loadCache_exposed overflows own valid)

/-! ## The documents that do not cut calls short -/

/-- **Which documents spare all calls, and when what they say expires.** A document that was read
spares all calls that begin in the years from 1970 to 9000, unless a valid description states a
cache duration that is out of reach; then it spares neither all queries, nor all refreshes, nor all
warm starts. Where a description can be kept, it is not kept exactly if it is not valid, and it
expires later than now, within the bounds of the policy and no later than its validity, where only
the end of the validity comes before the lower bound. -/
theorem spares_iff {text : String} (parsed : Document.parse text = .ok document)
    (near : start.IsNear) :
    (∀ kind : Call → Prop, (∀ query, kind (.resolve query)) ∨ kind .refresh ∨ kind .loadCache →
      (document.Spares start kind ↔
        ∀ e ∈ document.flatten, e.isValidAt start = true → e.InReach)) ∧
      ∀ policy : CachePolicy, policy.IsCentennial → .zero < policy.shortest →
        ∀ now : Instant, now.IsNear → ∀ e : Entity,
          (policy.expiration e now = .overflow ↔ e.isValidAt now = true ∧ ¬ e.InReach) ∧
          (policy.expiration e now = .ok none ↔
            ∃ until_, e.validUntil = some until_ ∧ until_ ≤ now) ∧
          (e.isValidAt now = true → e.InReach → ∃ expiration soonest latest,
            policy.expiration e now = .ok (some expiration) ∧
              now.add? policy.shortest = some soonest ∧ now.add? policy.longest = some latest ∧
              now < expiration ∧ expiration ≤ latest ∧
              (∀ until_, e.validUntil = some until_ → expiration ≤ until_) ∧
              (soonest ≤ expiration ∨ e.validUntil = some expiration)) := by
  have bounds := Document.inBounds_of_parse parsed
  refine ⟨fun kind kinds => ⟨fun spares e inside valid => ?_, fun inReach => ?_⟩, ?_⟩
  -- A valid entity out of reach is one whose expiration overflows.
  · by_contra unreachable
    exact not_spares bounds near inside valid unreachable kinds spares
  · exact spares_of_isKeepable ⟨bounds, inReach⟩
  intro policy centennial positive now near e
  have cut := CachePolicy.expiration_eq_overflow_iff (e := e) centennial near
  have none_ : policy.expiration e now = .ok none ↔ _ := CachePolicy.expiration_eq_none_iff
  refine ⟨cut, none_.trans Entity.isValidAt_eq_false_iff, fun valid reach => ?_⟩
  obtain ⟨soonest, least⟩ := near.exists_add? centennial.shortest
  obtain ⟨latest, most⟩ := near.exists_add? centennial.longest
  cases expires : policy.expiration e now with
  | failed failure => exact absurd expires (CachePolicy.expiration_ne_failed failure)
  | overflow => exact absurd reach (cut.1 expires).2
  | ok kept =>
    cases kept with
    | none => exact absurd (none_.1 expires) (by simp [valid])
    | some expiration =>
      exact ⟨expiration, soonest, latest, rfl, least, most,
        CachePolicy.expiration_bounds positive centennial.ordered least most expires⟩

/-- A description of an entity that may be cached for some number of seconds, as it is read. -/
def keptFor (n : Nat) : Entity :=
  let e : Entity := { Entity.ofId "https://idp.example.org" with cacheSeconds := some n }
  { e with wireForm := some e.canonical }

theorem parse_keptFor {n : Nat} (fits : n ≤ maxSeconds) :
    Document.parse (keptFor n).canonical = .ok (.entity (keptFor n)) := by
  have bounds : (keptFor n).InBounds := by
    refine ⟨nofun, nofun, ?_⟩
    rintro _ ⟨⟩
    exact fits
  exact Document.parse_entity bounds

/-- The beginning of 2024. -/
def newYear : Instant := ⟨1704067200, 0⟩

/-- The longest duration within reach. -/
theorem spares_longest :
    Document.parse (keptFor 9223372036854775).canonical
        = .ok (.entity (keptFor 9223372036854775)) ∧
      (Document.entity (keptFor 9223372036854775)).Spares newYear (fun _ => True) ∧
      ∃ expiration, CachePolicy.standard.expiration (keptFor 9223372036854775) newYear
        = .ok (some expiration) ∧ newYear < expiration := by
  have parsed := parse_keptFor (n := 9223372036854775) (by decide)
  have near : newYear.IsNear := ⟨by decide, by decide⟩
  have reach : (keptFor 9223372036854775).InReach := by
    rintro _ ⟨⟩
    decide
  obtain ⟨spares, expires⟩ := spares_iff parsed near
  obtain ⟨-, -, kept⟩ := expires .standard CachePolicy.isCentennial_standard (by decide) newYear near
    (keptFor 9223372036854775)
  obtain ⟨expiration, -, -, expires, -, -, later, -⟩ := kept rfl reach
  refine ⟨parsed, (spares _ (.inr (.inl trivial))).2 fun e inside _ => ?_, expiration, expires, later⟩
  exact List.mem_singleton.1 inside ▸ reach

/-- **One second more cuts calls short**: the query, the refresh and the warm start. -/
theorem oversized_duration_cuts_short :
    Document.parse (keptFor 9223372036854776).canonical
        = .ok (.entity (keptFor 9223372036854776)) ∧
      (let r := exposed (.entity (keptFor 9223372036854776))
      let s := exposure (keptFor 9223372036854776) newYear
      ((r.resolve { entityId := some "https://idp.example.org" }).run s).1 = .overflow ∧
        (r.refresh.run s).1 = .overflow ∧ (r.loadCache.run s).1 = .overflow) ∧
      ¬ ∀ text document, Document.parse text = .ok document → ∀ start : Instant, start.IsNear →
        document.Spares start fun _ => True := by
  have parsed := parse_keptFor (n := 9223372036854776) (by decide)
  have near : newYear.IsNear := ⟨by decide, by decide⟩
  have bounds := Document.inBounds_of_parse parsed
  have inside := List.mem_singleton_self (keptFor 9223372036854776)
  have unreachable : ¬ (keptFor 9223372036854776).InReach :=
    fun reach => absurd (reach 9223372036854776 rfl) (by decide)
  have overflows : CachePolicy.standard.record (keptFor 9223372036854776) newYear = .overflow :=
    (CachePolicy.record_eq_overflow_iff CachePolicy.isCentennial_standard near rfl).2 unreachable
  refine ⟨parsed, ⟨resolve_exposed overflows inside, refresh_exposed overflows inside,
    loadCache_exposed overflows bounds rfl⟩, fun spares => ?_⟩
  exact not_spares bounds near inside rfl unreachable (.inr (.inl trivial))
    (spares _ _ parsed newYear near)

end Resolver

end Federation
