/-
# Withstanding what an origin says

An origin may say anything that can be read, with any number of seconds for which a description may
be cached and any end of its validity. Where no duration of a resolver is longer than a hundred
years, nothing cuts a call of the resolver short in the years from 1970 to 9000 as long as all valid
descriptions state cache durations within the reach of spans, whatever else goes on at the same time.
And what a call leaves in the persistent cache does not cut short any later call.

## Main definitions

- `Metadata.Document.Says`: a description is, or is left of, a member of a document.
- `Resolver.Draws`: a resolver has moderate durations, and an origin that offers what a document says.
- `ResolverState.IsBenign`: it is no later than 9000, and there are only copies of what a document
  says.

## Main results

- `Document.Says.inBounds`: what a document says that was read is within its bounds.
- `Call.safe`: a call is safe where whatever a document says can be kept.
-/

import Federation.Proofs.Cache.Copies
import Federation.Proofs.Filter.Members
import Federation.Proofs.Metadata.Bounds
import Federation.Proofs.Resolver.Fetching
import Federation.Proofs.Resolver.Lifetimes
import Federation.Proofs.Task.Safety

namespace Federation

open Federation.Metadata Federation.Time Federation.Task

/-! ## What a document says -/

namespace Metadata

variable {d e : Entity} {document : Document} {start now : Instant} {policy : CachePolicy}

/-- A description is a member of a document, or what filters may leave of one. -/
def Document.Says (document : Document) (d : Entity) : Prop := ∃ e ∈ document.flatten, d.IsTrimmed e

theorem Document.says_of_mem (inside : d ∈ document.flatten) : document.Says d :=
  ⟨d, inside, .refl d⟩

theorem Document.Says.trimmed (said : document.Says e) (trimmed : d.IsTrimmed e) :
    document.Says d := by
  obtain ⟨member, inside, trimmed'⟩ := said
  exact ⟨member, inside, trimmed.trans trimmed'⟩

theorem Entity.isTrimmed_withoutWireForm (e : Entity) : e.withoutWireForm.IsTrimmed e :=
  ⟨⟨rfl, rfl⟩, rfl, fun role listed => ⟨role, listed, rfl⟩⟩

/-! ### Bounds -/

theorem tighterInstant_inBounds {a b : Option Instant} (first : ∀ t ∈ a, t.IsCivil)
    (second : ∀ t ∈ b, t.IsCivil) : ∀ t ∈ tighterInstant a b, t.IsCivil := by
  cases a with
  | none =>
    cases b <;> exact second
  | some a =>
    cases b with
    | none => exact first
    | some b =>
      rintro _ ⟨⟩
      rw [Instant.earliest]
      split
      · exact second b rfl
      · exact first a rfl

theorem tighterSeconds_inBounds {a b : Option Nat} {most : Nat} (first : ∀ n ∈ a, n ≤ most)
    (second : ∀ n ∈ b, n ≤ most) : ∀ n ∈ tighterSeconds a b, n ≤ most := by
  cases a with
  | none =>
    cases b <;> exact second
  | some a =>
    cases b with
    | none => exact first
    | some b =>
      rintro _ ⟨⟩
      exact Nat.le_trans (Nat.min_le_left a b) (first a rfl)

mutual

theorem Group.inBounds_of_mem_flattenWithin {g : Group} {validUntil : Option Instant}
    {cacheSeconds : Option Nat} (bounds : g.InBounds) (ends : ∀ t ∈ validUntil, t.IsCivil)
    (seconds : ∀ n ∈ cacheSeconds, n ≤ maxSeconds)
    (inside : d ∈ g.flattenWithin validUntil cacheSeconds) : d.InBounds := by
  obtain ⟨name, until_, own, entities, groups, signature⟩ := g
  obtain ⟨until_bounds, own_bounds, members, below⟩ := bounds
  have ends := tighterInstant_inBounds ends until_bounds
  have seconds := tighterSeconds_inBounds seconds own_bounds
  rw [Group.flattenWithin] at inside
  rcases List.mem_append.1 inside with inside | inside
  · obtain ⟨e, listed, rfl⟩ := List.mem_map.1 inside
    have bounds := members e listed
    exact ⟨bounds.roles, tighterInstant_inBounds bounds.validUntil ends,
      tighterSeconds_inBounds bounds.cacheSeconds seconds⟩
  · exact Group.inBounds_of_mem_flattenAll below ends seconds inside

theorem Group.inBounds_of_mem_flattenAll {groups : List Group} {validUntil : Option Instant}
    {cacheSeconds : Option Nat} (bounds : ∀ g ∈ groups, g.InBounds)
    (ends : ∀ t ∈ validUntil, t.IsCivil) (seconds : ∀ n ∈ cacheSeconds, n ≤ maxSeconds)
    (inside : d ∈ Group.flattenAll validUntil cacheSeconds groups) : d.InBounds := by
  cases groups with
  | nil => cases inside
  | cons g rest =>
    obtain ⟨first, others⟩ := List.forall_mem_cons.1 bounds
    rw [Group.flattenAll] at inside
    rcases List.mem_append.1 inside with inside | inside
    · exact Group.inBounds_of_mem_flattenWithin first ends seconds inside
    · exact Group.inBounds_of_mem_flattenAll others ends seconds inside

end

/-- What a document says is within its bounds if the document is. -/
theorem Document.Says.inBounds (said : document.Says d) (bounds : document.InBounds) :
    d.InBounds := by
  obtain ⟨e, inside, trimmed⟩ := said
  have member : e.InBounds := by
    cases document with
    | entity e' => exact List.mem_singleton.1 inside ▸ bounds
    | group g =>
      exact Group.inBounds_of_mem_flattenWithin bounds (fun _ stated => by cases stated)
        (fun _ stated => by cases stated) inside
  -- Of a role only the endpoints have bounds, and filters leave them alone or drop the role.
  refine ⟨fun role listed => ?_, ?_, ?_⟩
  · obtain ⟨other, listed', same⟩ := trimmed.endpoints role listed
    rw [RoleDescriptor.InBounds, same]
    exact member.roles other listed'
  · rw [trimmed.validUntil]
    exact member.validUntil
  · rw [trimmed.cacheSeconds]
    exact member.cacheSeconds

/-- A copy of what a document says is what the document says. -/
theorem Document.Says.of_load (said : document.Says d) (bounds : document.InBounds)
    (loaded : Entity.load d.canonical = .ok e) : document.Says e := by
  rw [Entity.load_canonical (said.inBounds bounds)] at loaded
  exact Except.ok.inj loaded ▸ said.trimmed d.isTrimmed_withoutWireForm

/-! ### What can be kept -/

/-- What a document says is within its bounds, and from some instant on everything can be kept that
is valid. -/
structure Document.IsKeepable (document : Document) (start : Instant) : Prop where
  inBounds : document.InBounds
  inReach : ∀ e ∈ document.flatten, e.isValidAt start = true → e.InReach

theorem Document.IsKeepable.expiration_ne_overflow (keepable : document.IsKeepable start)
    (centennial : policy.IsCentennial) (near : now.IsNear) (later : start ≤ now)
    (said : document.Says d) : policy.expiration d now ≠ .overflow := by
  intro overflows
  obtain ⟨valid, unreachable⟩ := (CachePolicy.expiration_eq_overflow_iff centennial near).1 overflows
  obtain ⟨e, inside, trimmed⟩ := said
  -- What is valid when it is recorded was valid at the start.
  have valid : e.isValidAt now = true := by
    rw [← valid, Entity.isValidAt, Entity.isValidAt, trimmed.validUntil]
  have reach := keepable.inReach e inside (Entity.isValidAt_of_le later valid)
  rw [Entity.InReach, trimmed.cacheSeconds] at unreachable
  exact unreachable reach

end Metadata

/-- Of every member of a document a chain leaves at most what filters may leave. -/
def FilterChain.Trims (chain : FilterChain) : Prop :=
  ∀ context document out, chain.apply context document = .ok (some out) →
    ∀ d ∈ out.flatten, ∃ e ∈ document.flatten, d.IsTrimmed e

theorem FilterChain.IsBuiltIn.trims {chain : FilterChain} (builtIn : chain.IsBuiltIn) : chain.Trims :=
  fun _ _ _ applied _ inside => exists_trimmed_of_apply builtIn applied inside

theorem FilterChain.Trims.said {chain : FilterChain} {context : Filter.Context}
    {document between out : Document} (trims : chain.Trims)
    (said : ∀ e ∈ between.flatten, document.Says e)
    (applied : chain.apply context between = .ok (some out)) :
    ∀ d ∈ out.flatten, document.Says d := by
  intro d inside
  obtain ⟨e, inside', trimmed⟩ := trims context between out applied d inside
  exact (said e inside').trimmed trimmed

/-! ## Resolvers and their surroundings -/

/-- A hundred years or less. -/
def Time.Delay.IsCentennial (d : Delay) : Prop := d.seconds ≤ 3162240000

/-- What comes of refreshing an origin that offers what a document says. -/
def RefreshOutcome.Offers (document : Document) : RefreshOutcome → Prop
  | .updated entities next => (∀ e ∈ entities, document.Says e) ∧ ∀ d ∈ next, d.IsCentennial
  | .unchanged next => ∀ d ∈ next, d.IsCentennial
  | .notApplicable => True

/-- As long as the state of an origin is one of certain states, what it answers is what a document
says, it wants to be refreshed within a hundred years, and it is not cut short itself. -/
structure Origin.Offers {ε : Type} (origin : Origin ε) (document : Document) (supply : ε → Prop) :
    Prop where
  fetch : ∀ query, (origin.fetch query).Safe (fun s => supply s.state)
    fun found => ∀ answer ∈ found, ∀ e ∈ answer.flatten, document.Says e
  refresh : ∀ filters context, (origin.refresh filters context).Safe (fun s => supply s.state)
    (RefreshOutcome.Offers document)

/-- No duration of a resolver is longer than a hundred years, its filters leave what filters may
leave, and its origin offers what a document says. -/
structure Resolver.Draws {ε : Type} (r : Resolver ε) (document : Document) (supply : ε → Prop) :
    Prop where
  policy : r.policy.IsCentennial
  retry : ∀ d ∈ r.origin.retryDelay, d.IsCentennial
  filters : r.filters.Trims
  warmFilters : r.warmFilters.Trims
  offers : r.origin.Offers document supply

/-- A clock does not read a time before the start or after the year 9000, an origin is in one of
certain states, and a persistent cache has copies of nothing but what a document says. -/
structure Harmless {ε : Type} (document : Document) (start : Instant) (supply : ε → Prop)
    (now : Instant) (origin : ε) (cache : PersistentCache) : Prop where
  near : now.IsNear
  later : start ≤ now
  supplied : supply origin
  copies : ∀ key e, cache.Keeps key e → document.Says e

/-- Such are the surroundings of a resolver. -/
def ResolverState.IsBenign {ε : Type} (document : Document) (start : Instant) (supply : ε → Prop)
    (s : ResolverState ε) : Prop :=
  Harmless document start supply s.now s.origin s.cache

namespace Resolver

open ResolverState

variable {ε α : Type} {r : Resolver ε} {document : Document} {start now : Instant}
  {supply : ε → Prop} {id : String} {query : Criteria} {entities : List Entity}

/-! ## Parts of calls

All that matters of the surroundings is the clock, the state of the origin and the persistent cache.
Most parts leave them alone. -/

theorem safe_count (c : Counter) :
    (count c : Task (ResolverState ε) Unit).Safe (IsBenign document start supply) fun _ => True :=
  safe_change fun _ benign => benign

theorem safe_gaugeSize (r : Resolver ε) :
    r.gaugeSize.Safe (IsBenign document start supply) fun _ => True :=
  safe_change fun _ benign => benign

theorem safe_requireInitialized (r : Resolver ε) :
    r.requireInitialized.Safe (IsBenign document start supply) fun _ => True := by
  refine safe_read_bind fun lifecycle => ?_
  cases lifecycle with
  | fresh => exact safe_fail _
  | initialized => exact safe_pure trivial
  | destroyed => exact safe_fail _

/-- A reading of the clock. -/
theorem safe_now : (Task.read fun s : ResolverState ε => s.now).Safe (IsBenign document start supply)
    fun now => now.IsNear ∧ start ≤ now :=
  safe_read fun _ benign => ⟨benign.near, benign.later⟩

theorem safe_recordsOf (id : String) (now : Instant) :
    (recordsOf id now : Task (ResolverState ε) _).Safe (IsBenign document start supply)
      fun _ => True :=
  safe_perform fun _ benign => ⟨benign, trivial⟩

/-- What an origin does, which has its own part of the state. -/
theorem safe_atOrigin {t : Task (OriginScope ε) α} {result : α → Prop}
    (safe : t.Safe (fun s => supply s.state) result) :
    (t.on originPart).Safe (IsBenign document start supply) result :=
  safe.on originPart (fun _ benign => benign.supplied)
    fun _ _ benign supplied => ⟨benign.near, benign.later, supplied, benign.copies⟩

theorem safe_instant {d : Span} (near : now.IsNear) (centennial : d.IsCentennial) :
    (Task.ofOutcome (Outcome.ofOption (now.add? d)) : Task (ResolverState ε) Instant).Safe
      (IsBenign document start supply) fun _ => True := by
  obtain ⟨t, reached⟩ := near.exists_add? centennial
  rw [reached]
  exact trivial

/-- What can be kept is recorded, and what is recorded is what the document says. -/
theorem safe_insertRecords (keepable : document.IsKeepable start) (draws : r.Draws document supply)
    (near : now.IsNear) (later : start ≤ now) (said : ∀ e ∈ entities, document.Says e) :
    (r.insertRecords id entities now).Safe (IsBenign document start supply)
      fun stored => ∀ e ∈ stored, document.Says e := by
  have inRange : r.policy.records now entities ≠ .overflow := by
    rw [ne_eq, CachePolicy.records_eq_overflow_iff]
    rintro ⟨e, listed, overflows⟩
    rw [CachePolicy.record, Outcome.map_eq_overflow] at overflows
    exact keepable.expiration_ne_overflow draws.policy near later (said e listed) overflows
  refine Safe.bind (safe_ofOutcome inRange fun records made => made) fun records made => ?_
  split
  · exact safe_pure fun e listed => absurd listed List.not_mem_nil
  · refine safe_change_bind (fun _ benign => benign) (safe_pure fun e listed => ?_)
    rw [CachePolicy.map_entity_records made] at listed
    obtain ⟨e', inside, rfl⟩ := List.mem_map.1 listed
    exact (said e' (List.mem_filter.1 inside).1).trimmed e'.isTrimmed_withoutWireForm

/-! ### The persistent cache -/

/-- An operation on the persistent cache that makes no other copies than of what the document
says. -/
theorem safe_onCache {f : PersistentCache → Except Failure α × PersistentCache} {result : α → Prop}
    (copies : ∀ c : PersistentCache, (∀ key e, c.Keeps key e → document.Says e) →
      (∀ key e, (f c).2.Keeps key e → document.Says e) ∧ ∀ a, (f c).1 = .ok a → result a) :
    (onCache f : Task (ResolverState ε) α).Safe (IsBenign document start supply) result := by
  refine safe_read_bind fun pausing => ?_
  refine Safe.bind (safe_pauseIf pausing) fun _ _ => ?_
  refine Safe.bind (safe_perform fun s benign => ?_) fun answer found => safe_ofExcept found
  obtain ⟨kept, found⟩ := copies s.cache benign.copies
  exact ⟨⟨benign.near, benign.later, benign.supplied, kept⟩, found⟩

theorem safe_list : (onCache (·.list) : Task (ResolverState ε) (List String)).Safe
    (IsBenign document start supply) fun _ => True :=
  safe_onCache fun c kept => ⟨c.list_snd.symm ▸ kept, fun _ _ => trivial⟩

theorem safe_remove (key : String) : (onCache (·.remove key) : Task (ResolverState ε) Bool).Safe
    (IsBenign document start supply) fun _ => True := by
  refine safe_onCache fun c kept => ⟨fun other e copied => ?_, fun _ _ => trivial⟩
  exact kept other e (PersistentCache.keeps_of_keeps_remove copied)

theorem safe_load (key : String) :
    (onCache (·.load key) : Task (ResolverState ε) (Option Entity)).Safe
      (IsBenign document start supply) fun found => ∀ e ∈ found, document.Says e := by
  refine safe_onCache fun c kept => ⟨(c.load_snd key).symm ▸ kept, ?_⟩
  rintro found copied e rfl
  exact kept key e copied

theorem safe_rename (key newKey : String) :
    (onCache (·.rename key newKey) : Task (ResolverState ε) Bool).Safe
      (IsBenign document start supply) fun _ => True := by
  refine safe_onCache fun c kept => ⟨fun other e copied => ?_, fun _ _ => trivial⟩
  obtain ⟨before, copied⟩ := PersistentCache.exists_keeps_of_rename copied
  exact kept before e copied

/-- A later warm start may read what is saved now, without the wire form. -/
theorem safe_save (keepable : document.IsKeepable start) (key : String) {e : Entity}
    (said : document.Says e) (overwrite : Bool) :
    (onCache (·.save key e overwrite) : Task (ResolverState ε) Unit).Safe
      (IsBenign document start supply) fun _ => True := by
  refine safe_onCache fun c kept => ⟨fun other copy copied => ?_, fun _ _ => trivial⟩
  rcases PersistentCache.keeps_of_keeps_save copied with before | loaded
  · exact kept other copy before
  · exact said.of_load keepable.inBounds loaded

theorem safe_persist (keepable : document.IsKeepable start) (r : Resolver ε)
    (said : ∀ e ∈ entities, document.Says e) :
    (r.persist entities).Safe (IsBenign document start supply) fun _ => True := by
  rw [persist]
  split
  · exact safe_pure trivial
  · rename_i p _
    refine safe_forEach fun e listed => ?_
    refine (safe_save keepable (p.keyOf e) (said e listed) true).attempt.bind fun result _ => ?_
    cases result with
    | ok _ => exact safe_pure trivial
    | error _ => exact safe_count _

theorem safe_unpersist (r : Resolver ε) (records : List CacheRecord) :
    (r.unpersist id records).Safe (IsBenign document start supply) fun _ => True := by
  rw [unpersist]
  split
  · exact safe_pure trivial
  · exact safe_forEach fun key _ => (safe_remove key).attempt.bind fun _ _ => safe_pure trivial

/-! ## Queries -/

/-- What is fetched and left after the filters is what the document says. -/
theorem safe_fetchAndFilter (draws : r.Draws document supply) :
    (r.fetchAndFilter query now).Safe (IsBenign document start supply)
      fun answer => ∀ es ∈ answer, ∀ e ∈ es, document.Says e := by
  refine (safe_atOrigin (draws.offers.fetch query)).attempt.bind fun answer found => ?_
  split
  · exact safe_fail _
  · exact safe_pure nofun
  · rename_i document'
    have said := found _ rfl document' rfl
    split
    · refine safe_pure ?_
      rintro _ ⟨⟩
      exact said
    · split
      · exact safe_fail _
      · rename_i filtered applied
        refine safe_pure fun es left => ?_
        obtain ⟨out, rfl, rfl⟩ := Option.map_eq_some_iff.1 left
        exact draws.filters.said said applied

theorem safe_acceptAbsence (draws : r.Draws document supply) (near : now.IsNear)
    (stale : Option (List CacheRecord)) :
    (r.acceptAbsence id stale now).Safe (IsBenign document start supply) fun _ => True := by
  have marked : (r.acceptAbsence id none now).Safe (IsBenign document start supply)
      fun _ => True := by
    rw [acceptAbsence]
    cases believed : r.policy.negative with
    | none => exact safe_pure trivial
    | some duration =>
      refine (safe_instant near (draws.policy.negative duration believed)).bind fun _ _ => ?_
      exact safe_change_bind (fun _ benign => benign) (safe_pure trivial)
  cases stale with
  | none => exact marked
  | some records =>
    refine safe_change_bind (fun _ benign => benign) ?_
    refine (safe_gaugeSize r).bind fun _ _ => ?_
    exact (safe_unpersist r records).bind fun _ _ => marked

theorem safe_acceptFailure (draws : r.Draws document supply) (near : now.IsNear)
    (stale : Option (List CacheRecord)) (failure : Failure) :
    (r.acceptFailure id stale now failure).Safe (IsBenign document start supply)
      fun _ => True := by
  cases stale with
  | none => exact safe_fail _
  | some records =>
    rw [acceptFailure]
    cases retained : r.policy.onFailure with
    | retain interval =>
      refine (safe_instant near (draws.policy.retained interval retained)).bind fun _ _ => ?_
      exact safe_change_bind (fun _ benign => benign) (safe_pure trivial)
    | evict =>
      refine safe_change_bind (fun _ benign => benign) ?_
      refine (safe_gaugeSize r).bind fun _ _ => ?_
      exact (safe_unpersist r records).bind fun _ _ => safe_fail _

theorem safe_acceptDescriptions (keepable : document.IsKeepable start)
    (draws : r.Draws document supply) (near : now.IsNear) (later : start ≤ now)
    (said : ∀ e ∈ entities, document.Says e) :
    (r.acceptDescriptions id entities now).Safe (IsBenign document start supply) fun _ => True := by
  refine (safe_insertRecords keepable draws near later said).bind fun stored said => ?_
  refine (safe_persist keepable r said).bind fun _ _ => ?_
  exact (safe_gaugeSize r).bind fun _ _ => safe_pure trivial

theorem safe_fetchEntity (keepable : document.IsKeepable start) (draws : r.Draws document supply) :
    (r.fetchEntity id query).Safe (IsBenign document start supply) fun _ => True := by
  -- The answer is taken in at the time that is read here, however long the origin takes.
  refine safe_now.bind fun now reading => ?_
  obtain ⟨near, later⟩ := reading
  refine (safe_recordsOf id now).bind fun stale _ => ?_
  refine (safe_fetchAndFilter draws).attempt.bind fun answer found => ?_
  split
  · exact safe_acceptFailure draws near stale _
  · exact safe_acceptAbsence draws near stale
  · rename_i entities
    have said := found _ rfl entities rfl
    split
    · exact safe_acceptAbsence draws near stale
    · refine safe_acceptDescriptions keepable draws near later fun e listed => ?_
      exact said e (List.mem_filter.1 listed).1

theorem safe_liveDescriptions (id : String) (now : Instant) :
    (liveDescriptions id now : Task (ResolverState ε) _).Safe (IsBenign document start supply)
      fun _ => True := by
  refine (safe_recordsOf id now).bind fun found _ => ?_
  split
  · exact safe_pure trivial
  · split <;> exact safe_pure trivial

theorem safe_staleDescriptions (id : String) (now : Instant) :
    (staleDescriptions id now : Task (ResolverState ε) _).Safe (IsBenign document start supply)
      fun _ => True := by
  refine (safe_recordsOf id now).bind fun found _ => ?_
  split <;> exact safe_pure trivial

theorem safe_isAbsent (id : String) (now : Instant) :
    (isAbsent id now : Task (ResolverState ε) Bool).Safe (IsBenign document start supply)
      fun _ => True :=
  safe_read fun _ _ => trivial

theorem safe_fetchUnlessCached (keepable : document.IsKeepable start)
    (draws : r.Draws document supply) :
    (r.fetchUnlessCached id query).Safe (IsBenign document start supply) fun _ => True := by
  refine safe_now.bind fun now _ => (safe_liveDescriptions id now).bind fun live _ => ?_
  split
  · exact safe_pure trivial
  · refine (safe_isAbsent id now).bind fun absent _ => ?_
    split
    · exact safe_pure trivial
    · exact safe_fetchEntity keepable draws

theorem safe_fetchHolding (keepable : document.IsKeepable start) (draws : r.Draws document supply)
    (ticket : Ticket) :
    (r.fetchHolding ticket id query).Safe (IsBenign document start supply) fun _ => True := by
  refine (safe_fetchUnlessCached keepable draws).attempt.bind fun result _ => ?_
  exact safe_change_bind (fun _ benign => benign) (safe_ofExcept fun _ _ => trivial)

theorem safe_fly (keepable : document.IsKeepable start) (draws : r.Draws document supply)
    (ticket : Ticket) (now : Instant) :
    (r.fly ticket id query now).Safe (IsBenign document start supply) fun _ => True := by
  refine safe_perform_bind (fun _ benign => benign) fun isHolding => ?_
  split
  · exact safe_fetchHolding keepable draws ticket
  · refine (safe_staleDescriptions id now).bind fun stale _ => ?_
    split
    · exact safe_pure trivial
    · refine safe_change_bind (fun _ benign => benign) ?_
      exact (safe_waitFor _).bind fun _ _ => safe_fetchHolding keepable draws ticket

theorem safe_fetchInTurn (keepable : document.IsKeepable start) (draws : r.Draws document supply)
    (now : Instant) :
    (r.fetchInTurn id query now).Safe (IsBenign document start supply) fun _ => True := by
  refine safe_perform_bind (fun _ benign => benign) fun ticket => ?_
  refine (safe_fly keepable draws ticket now).attempt.bind fun result _ => ?_
  refine safe_change_bind (fun _ benign => benign) ?_
  exact safe_change_bind (fun _ benign => benign) (safe_ofExcept fun _ _ => trivial)

theorem safe_resolveEntityId (keepable : document.IsKeepable start)
    (draws : r.Draws document supply) :
    (r.resolveEntityId id query).Safe (IsBenign document start supply) fun _ => True := by
  refine safe_now.bind fun now _ => (safe_liveDescriptions id now).bind fun live _ => ?_
  split
  · exact (safe_count _).bind fun _ _ => safe_pure trivial
  · refine (safe_count _).bind fun _ _ => (safe_isAbsent id now).bind fun absent _ => ?_
    split
    · exact safe_pure trivial
    · split
      · exact safe_fetchInTurn keepable draws now
      · exact safe_fetchEntity keepable draws

theorem safe_acceptAnswer (keepable : document.IsKeepable start) (draws : r.Draws document supply)
    (near : now.IsNear) (later : start ≤ now) (said : ∀ e ∈ entities, document.Says e) :
    (r.acceptAnswer entities now).Safe (IsBenign document start supply) fun _ => True := by
  refine Safe.bind (safe_collect fun group listed => ?_) fun stored _ => ?_
  · have own (e : Entity) (inside : e ∈ group.2) : document.Says e :=
      said e (mem_of_mem_group listed inside).1
    refine (safe_insertRecords keepable draws near later own).bind fun stored said => ?_
    exact (safe_persist keepable r said).bind fun _ _ => safe_pure trivial
  · exact (safe_gaugeSize r).bind fun _ _ => safe_pure trivial

theorem safe_fetchSecondary (keepable : document.IsKeepable start)
    (draws : r.Draws document supply) :
    (r.fetchSecondary query).Safe (IsBenign document start supply) fun _ => True := by
  rw [fetchSecondary]
  split
  · exact safe_pure trivial
  · refine safe_now.bind fun now reading => ?_
    obtain ⟨near, later⟩ := reading
    refine (safe_fetchAndFilter draws).bind fun answer said => ?_
    split
    · exact safe_pure trivial
    · exact safe_acceptAnswer keepable draws near later (said _ rfl)

theorem safe_resolveSecondary (keepable : document.IsKeepable start)
    (draws : r.Draws document supply) :
    (r.resolveSecondary query).Safe (IsBenign document start supply) fun _ => True := by
  refine safe_read_bind fun found => ?_
  split
  · exact safe_fetchSecondary keepable draws
  · refine Safe.bind (safe_collect fun id _ => ?_) fun all _ => safe_pure trivial
    exact safe_resolveEntityId keepable draws

theorem safe_resolve (keepable : document.IsKeepable start) (draws : r.Draws document supply) :
    (r.resolve query).Safe (IsBenign document start supply) fun _ => True := by
  refine (safe_requireInitialized r).bind fun _ _ => ?_
  refine (?_ : Task.Safe _ (fun _ => True) _).attempt.bind fun answer _ => ?_
  · cases query.entityId with
    | some id => exact safe_resolveEntityId keepable draws
    | none => exact safe_resolveSecondary keepable draws
  · exact (safe_count _).bind fun _ _ => safe_ofExcept fun _ _ => trivial

/-! ## Refreshing -/

theorem safe_instantAfter {next : Option Delay} (near : now.IsNear)
    (centennial : ∀ d ∈ next, d.IsCentennial) :
    (Task.ofOutcome (instantAfter now next) : Task (ResolverState ε) _).Safe
      (IsBenign document start supply) fun _ => True := by
  refine safe_ofOutcome (fun overflows => ?_) fun _ _ => trivial
  rw [instantAfter] at overflows
  split at overflows
  · cases overflows
  · rename_i d found
    obtain ⟨delay, rfl, reaches⟩ := Option.bind_eq_some_iff.1 found
    have short := centennial delay rfl
    rw [Delay.IsCentennial, Delay.seconds] at short
    rw [Delay.toSpan?] at reaches
    -- A delay that is too long for a span counts as none.
    split at reaches
    · obtain rfl := Option.some_inj.1 reaches
      have within : Span.IsCentennial ⟨delay.nanos⟩ := by
        rw [Span.IsCentennial, Span.seconds, Int.tdiv_eq_ediv_of_nonneg (Int.natCast_nonneg _)]
        omega
      obtain ⟨t, reached⟩ := near.exists_add? within
      rw [reached] at overflows
      cases overflows
    · cases reaches

theorem safe_replaceAll (keepable : document.IsKeepable start) (draws : r.Draws document supply)
    (near : now.IsNear) (later : start ≤ now) (said : ∀ e ∈ entities, document.Says e) :
    (r.replaceAll entities now).Safe (IsBenign document start supply) fun _ => True := by
  refine safe_change_bind (fun _ benign => benign) ?_
  refine Safe.bind (safe_forEach fun group listed => ?_) fun _ _ => safe_gaugeSize r
  have own (e : Entity) (inside : e ∈ group.2) : document.Says e :=
    said e (mem_of_mem_group listed inside).1
  exact (safe_insertRecords keepable draws near later own).bind fun _ _ => safe_pure trivial

theorem safe_acceptRefresh (keepable : document.IsKeepable start) (draws : r.Draws document supply)
    (near : now.IsNear) (later : start ≤ now) {result : Except Failure RefreshOutcome}
    (offered : ∀ outcome, result = .ok outcome → outcome.Offers document) :
    (r.acceptRefresh now result).Safe (IsBenign document start supply) fun _ => True := by
  rcases result with failure | ⟨entities, next⟩ | next | _
  · refine safe_change_bind (fun _ benign => benign) ?_
    refine (safe_instantAfter near draws.retry).bind fun _ _ => ?_
    refine safe_change_bind (fun _ benign => benign) ?_
    refine safe_change_bind (fun _ benign => benign) ?_
    exact (safe_count _).bind fun _ _ => safe_fail _
  · obtain ⟨said, soon⟩ := offered _ rfl
    refine (safe_replaceAll keepable draws near later said).bind fun _ _ => ?_
    refine safe_change_bind (fun _ benign => benign) ?_
    refine (safe_instantAfter near soon).bind fun _ _ => ?_
    refine safe_change_bind (fun _ benign => benign) ?_
    refine safe_change_bind (fun _ benign => benign) ?_
    exact safe_change_bind (fun _ benign => benign) (safe_pure trivial)
  · refine safe_change_bind (fun _ benign => benign) ?_
    refine (safe_instantAfter near (offered _ rfl)).bind fun _ _ => ?_
    refine safe_change_bind (fun _ benign => benign) ?_
    exact safe_change_bind (fun _ benign => benign) (safe_pure trivial)
  · exact safe_pure trivial

theorem safe_runRefresh (keepable : document.IsKeepable start) (draws : r.Draws document supply) :
    r.runRefresh.Safe (IsBenign document start supply) fun _ => True := by
  refine safe_now.bind fun now reading => ?_
  obtain ⟨near, later⟩ := reading
  exact (safe_atOrigin (draws.offers.refresh r.filters ⟨now, r.id⟩)).attempt.bind
    fun result offered => safe_acceptRefresh keepable draws near later offered

/-! ## Warm starts -/

theorem safe_dropKey (key : String) :
    (dropKey key : Task (ResolverState ε) Unit).Safe (IsBenign document start supply)
      fun _ => True :=
  (safe_remove key).attempt.bind fun _ _ => safe_pure trivial

theorem safe_moveKey (key expected : String) :
    (moveKey key expected : Task (ResolverState ε) Unit).Safe (IsBenign document start supply)
      fun _ => True := by
  refine (safe_rename key expected).attempt.bind fun result _ => ?_
  split
  · exact safe_dropKey key
  · exact safe_pure trivial

/-- What is read and left after the filters is what the document says. -/
theorem safe_readKey (draws : r.Draws document supply) (key : String) :
    (r.readKey now key).Safe (IsBenign document start supply)
      fun es => ∀ e ∈ es, document.Says e := by
  refine (safe_load key).attempt.bind fun found said => ?_
  split
  · exact safe_pure nofun
  · exact safe_pure nofun
  · rename_i e
    split
    · rename_i out applied
      refine safe_pure (draws.warmFilters.said (fun e' inside => ?_) applied)
      exact List.mem_singleton.1 inside ▸ said _ rfl e rfl
    · exact safe_pure nofun

theorem safe_loadEntity (keepable : document.IsKeepable start) (draws : r.Draws document supply)
    (near : now.IsNear) (later : start ≤ now) (p : Persistence) (key : String) {e : Entity}
    (said : document.Says e) :
    (r.loadEntity p now key e).Safe (IsBenign document start supply) fun _ => True := by
  -- Whether the copy is moved before makes no difference to what comes after.
  have inserted : (do
      if ← Task.read fun (s : ResolverState ε) => s.store.contains e.entityId then return false
      else return !(← r.insertRecords e.entityId [e] now).isEmpty).Safe
        (IsBenign document start supply) fun _ => True := by
    refine safe_read_bind fun held => ?_
    split
    · exact safe_pure trivial
    · have own : ∀ e' ∈ [e], document.Says e' := by simpa using said
      exact (safe_insertRecords keepable draws near later own).bind fun _ _ => safe_pure trivial
  rw [loadEntity]
  split
  · exact (safe_dropKey key).bind fun _ _ => safe_pure trivial
  · dsimp only
    split
    · exact (safe_moveKey key _).bind fun _ _ => inserted
    · exact inserted

theorem safe_loadKeys (keepable : document.IsKeepable start) (draws : r.Draws document supply)
    (near : now.IsNear) (later : start ≤ now) (p : Persistence) (keys : List String) :
    (r.loadKeys p now keys).Safe (IsBenign document start supply) fun _ => True := by
  induction keys with
  | nil => exact safe_pure trivial
  | cons key rest ih =>
    refine safe_read_bind fun lifecycle => ?_
    split
    · exact safe_pure trivial
    · refine (safe_readKey draws key).bind fun entities said => ?_
      refine Safe.bind (safe_collect fun e listed => ?_) fun loaded _ => ?_
      · exact safe_loadEntity keepable draws near later p key (said e listed)
      · exact ih.bind fun others _ => safe_pure trivial

theorem safe_loadCache (keepable : document.IsKeepable start) (draws : r.Draws document supply) :
    r.loadCache.Safe (IsBenign document start supply) fun _ => True := by
  rw [loadCache]
  split
  · exact safe_pure trivial
  · rename_i p _
    refine safe_list.attempt.bind fun listed _ => ?_
    split
    · exact safe_pure trivial
    · refine safe_now.bind fun now reading => ?_
      obtain ⟨near, later⟩ := reading
      refine (safe_loadKeys keepable draws near later p _).bind fun loaded _ => ?_
      exact (safe_gaugeSize r).bind fun _ _ => safe_pure trivial

/-! ## Calls -/

theorem safe_warmStart (keepable : document.IsKeepable start) (draws : r.Draws document supply) :
    r.warmStart.Safe (IsBenign document start supply) fun _ => True := by
  rw [warmStart]
  split
  · exact safe_pure trivial
  · split
    · exact safe_pure trivial
    · split
      · exact safe_change fun _ benign => benign
      · exact (safe_loadCache keepable draws).bind fun _ _ => safe_pure trivial

theorem safe_prepare (keepable : document.IsKeepable start) (draws : r.Draws document supply) :
    r.prepare.Safe (IsBenign document start supply) fun _ => True := by
  refine safe_read_bind fun lifecycle => ?_
  cases lifecycle with
  | initialized => exact safe_pure trivial
  | destroyed => exact safe_requireInitialized r
  | fresh =>
    refine (safe_warmStart keepable draws).bind fun _ _ => ?_
    refine (safe_runRefresh keepable draws).attempt.bind fun _ _ => ?_
    exact safe_change fun _ benign => benign

theorem safe_removeAll (keys : List String) :
    (Task.forEach keys fun key => do
      let _ ← onCache (·.remove key) : Task (ResolverState ε) Unit).Safe
        (IsBenign document start supply) fun _ => True :=
  safe_forEach fun key _ => (safe_remove key).bind fun _ _ => safe_pure trivial

theorem safe_clear (r : Resolver ε) :
    r.clear.Safe (IsBenign document start supply) fun _ => True := by
  refine (safe_requireInitialized r).bind fun _ _ => ?_
  refine safe_change_bind (fun _ benign => benign) ?_
  refine (safe_gaugeSize r).bind fun _ _ => ?_
  split
  · exact safe_pure trivial
  · exact safe_list.bind fun keys _ => safe_removeAll keys

theorem safe_clearEntity (r : Resolver ε) :
    (r.clearEntity id).Safe (IsBenign document start supply) fun _ => True := by
  refine (safe_requireInitialized r).bind fun _ _ => ?_
  refine safe_read_bind fun removed => ?_
  refine safe_change_bind (fun _ benign => benign) ?_
  refine (safe_gaugeSize r).bind fun _ _ => ?_
  split
  · exact safe_pure trivial
  · exact safe_removeAll _

theorem safe_cleanup (r : Resolver ε) :
    r.cleanup.Safe (IsBenign document start supply) fun _ => True := by
  refine safe_read_bind fun lifecycle => ?_
  split
  · exact safe_pure trivial
  · refine safe_perform_bind (fun _ benign => benign) fun evicted => ?_
    exact (safe_gaugeSize r).bind fun _ _ => safe_pure trivial

theorem safe_destroy (r : Resolver ε) :
    r.destroy.Safe (IsBenign document start supply) fun _ => True := by
  refine safe_read_bind fun lifecycle => ?_
  split
  · exact safe_pure trivial
  · exact safe_change_bind (fun _ benign => benign) (safe_gaugeSize r)

/-- **A call is safe** where whatever the document says can be kept. -/
theorem Call.safe (keepable : document.IsKeepable start) (draws : r.Draws document supply)
    (c : Call) : (c.task r).Safe (IsBenign document start supply) fun _ => True := by
  cases c with
  | prepare => exact safe_prepare keepable draws
  | resolve query => exact (safe_resolve keepable draws).bind fun _ _ => safe_pure trivial
  | refresh =>
    have refreshed : r.refresh.Safe (IsBenign document start supply) fun _ => True :=
      (safe_requireInitialized r).bind fun _ _ => safe_runRefresh keepable draws
    exact refreshed.bind fun _ _ => safe_pure trivial
  | clear => exact safe_clear r
  | clearEntity id => exact safe_clearEntity r
  | cleanup => exact (safe_cleanup r).bind fun _ _ => safe_pure trivial
  | loadCache => exact (safe_loadCache keepable draws).bind fun _ _ => safe_pure trivial
  | destroy => exact safe_destroy r

end Resolver

end Federation
