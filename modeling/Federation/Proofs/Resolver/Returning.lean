/-
# What comes back after a restart

What a query fetched and cached of an entity was written through to the persistent cache. A fresh
resolver that starts from this cache at the same time holds one description of the entity: the one
that was written last, unless a copy under another key is offered before it. So all that was cached
comes back if it was a single description. Of several, which have the same key, all but the last
one are lost.

## Main definitions

- `ResolverState.restarted`: a fresh resolver with the cache that another one leaves.

## Main results

- `exists_firstOffer`: what is offered first of an entity of which a copy stands under its key.
- `returns_iff`: when all that was cached comes back.
- `last_returns`: what comes back if the cache was empty before.
- `first_of_two_is_lost`: a description that does not come back.
-/

import Federation.Proofs.Resolver.Agreement
import Federation.Proofs.Resolver.WritingThrough

namespace Federation

open Federation.Metadata Federation.Time Federation.Task ResolverState PersistentCache

/-- A resolver that has not done anything yet, with the cache that another one leaves. -/
def ResolverState.restarted {ε : Type} (s : ResolverState ε) (indexes : List EntityIndex)
    (origin : ε) : ResolverState ε :=
  .start indexes s.cache origin s.now

namespace Resolver

variable {ε : Type} {clock : Drift Instant} {r : Resolver ε} {p : Persistence}
  {s : ResolverState ε} {now : Instant} {id : String} {query : Criteria} {e : Entity}
  {L : List Entity} {ids : List String} {c : PersistentCache} {indexes : List EntityIndex}
  {origin : ε}

/-! ## What was written -/

/-- What a query delivers of an entity describes that entity and is recorded without its original
text. -/
theorem Delivers.own (delivers : r.Delivers query s id L ids) (listed : e ∈ L) :
    e.entityId = id ∧ e.withoutWireForm = e := by
  have recorded {entities : List Entity} {now : Instant} (valid : e ∈ validOf id entities now) :
      e.entityId = id ∧ e.withoutWireForm = e := by
    obtain ⟨d, kept, rfl⟩ := List.mem_map.1 valid
    exact ⟨(mem_ownOf.1 (List.mem_filter.1 kept).1).2, rfl⟩
  cases delivers <;> exact recorded listed

/-- The last description that was written can be read under the key of the entity. -/
theorem keeps_of_hasWritten (written : s.HasWritten id L) (last : L.getLast? = some e)
    (bounds : e.InBounds) (recorded : e.withoutWireForm = e) :
    s.cache.Keeps (standardKey (.ofId id)) e := by
  have read : Entity.load e.canonical = .ok e := by rw [Entity.load_canonical bounds, recorded]
  exact PersistentCache.keeps_of_ofText written.clear.works (s.cache.accepts_standardKey _)
    (written.written e last) read

/-! ## What comes back -/

/-- **What is offered first of an entity**, where a copy stands under its key: that copy, or one
under another key that comes before. -/
theorem exists_firstOffer (unfiltered : r.warmFilters = []) (works : c.Works)
    (kept : c.Keeps (standardKey (.ofId id)) e) (own : e.entityId = id)
    (valid : e.isValidAt now = true) :
    ∃ o, r.firstOffer now c c.sortedKeys id = some o ∧ o.target = standardKey (.ofId id) ∧
      (o.key < o.target ∨ o.entity = e) := by
  obtain ⟨past, rest, split⟩ := List.append_of_mem (mem_sortedKeys_of_keeps works kept)
  have sorted := pairwise_sortedKeys works
  rw [split] at sorted
  rw [split, List.append_cons, firstOffer_append, firstOffer_append]
  cases before : r.firstOffer now c past id with
  | some o =>
    have about := List.find?_some before
    have target : o.target = standardKey (.ofId id) := standardKey_of_id (by simpa using about)
    have among := (mem_offers.1 (List.mem_of_find?_eq_some before)).1
    refine ⟨o, rfl, target, .inl ?_⟩
    rw [target]
    exact (List.pairwise_append.1 sorted).2.2 o.key among _ List.mem_cons_self
  | none =>
    have itself : r.firstOffer now c [standardKey (.ofId id)] id
        = some ⟨standardKey (.ofId id), e⟩ := by
      rw [firstOffer, offers_of_keeps unfiltered kept valid]
      simp [own]
    rw [itself]
    exact ⟨_, rfl, standardKey_of_id own, .inr rfl⟩

section Restart

variable (r : Resolver ε) (persistent : r.persistence = some p) (standard : p.keyOf = standardKey)
  (unfiltered : r.warmFilters = []) (works : s.cache.Works) (indexes : List EntityIndex) (origin : ε)

include persistent standard unfiltered works

/-- What comes back of an entity is what is offered first. -/
theorem descriptionsOf_restarted
    (restarts : (r.loadCache.run (s.restarted indexes origin)).1 ≠ .overflow) (id : String) :
    (r.loadCache.run (s.restarted indexes origin)).2.store.descriptionsOf id
      = (r.firstOffer s.now s.cache s.cache.sortedKeys id).toList.map
          (·.entity.withoutWireForm) := by
  have builtIn : r.warmFilters.IsBuiltIn := unfiltered ▸ FilterChain.isBuiltIn_nil
  have works : (s.restarted indexes origin).cache.Works := works
  exact descriptionsOf_loadCache r persistent standard builtIn works nofun (fun _ => rfl) restarts id

theorem ends_restarted (inRange : ∀ o ∈ r.offers s.now s.cache s.cache.sortedKeys,
      r.policy.record o.entity s.now ≠ .overflow) :
    (r.loadCache.run (s.restarted indexes origin)).1 ≠ .overflow := by
  have builtIn : r.warmFilters.IsBuiltIn := unfiltered ▸ FilterChain.isBuiltIn_nil
  have works : (s.restarted indexes origin).cache.Works := works
  exact ends_loadCache r persistent standard builtIn works nofun inRange

end Restart

/-- **When all that was cached comes back.** Where a query delivered descriptions of an entity, they
are held. After a warm start from the cache that is left, at the same time, a fresh resolver without
filters holds the same if and only if it was a single description and no copy under another key that
has its turn before it says something else. -/
theorem returns_iff (r : Resolver ε) (reached : Reachable r clock s)
    (ready : s.lifecycle = .initialized) (persistent : r.persistence = some p)
    (standard : p.keyOf = standardKey) (unfiltered : r.warmFilters = []) (clear : s.cache.IsClear)
    (delivers : r.Delivers query s id L ids) (some_delivered : L ≠ [])
    (distinct : ∀ other ∈ ids, standardKey (.ofId other) = standardKey (.ofId id) → other = id)
    (bounds : ∀ e ∈ L, e.InBounds) (ends : ((r.resolve query).run s).1 ≠ .overflow)
    (indexes : List EntityIndex) (origin : ε)
    (restarts : (r.loadCache.run (((r.resolve query).run s).2.restarted indexes origin)).1
      ≠ .overflow) :
    let s' := ((r.resolve query).run s).2
    let fresh := (r.loadCache.run (s'.restarted indexes origin)).2
    s'.store.descriptionsOf id = L ∧
      (fresh.store.descriptionsOf id = L ↔
        L.length = 1 ∧ ∀ o, r.firstOffer s'.now s'.cache s'.cache.sortedKeys id = some o →
          o.key < o.target → o.entity.withoutWireForm ∈ L) := by
  intro s' fresh
  have orderly : s.IsOrderly := ⟨reached.vacant, reached.isSound, clear⟩
  have written : s'.HasWritten id L :=
    hasWritten_resolve r persistent standard orderly ready delivers some_delivered distinct ends
  have back := descriptionsOf_restarted r persistent standard unfiltered written.clear.works indexes
    origin restarts id
  -- The description that was written last comes back, or a copy that is offered before.
  obtain ⟨e, last⟩ := Option.ne_none_iff_exists'.1 (mt List.getLast?_eq_none_iff.1 some_delivered)
  have listed : e ∈ L := List.mem_of_getLast? last
  obtain ⟨own, recorded⟩ := delivers.own listed
  obtain ⟨o, first, -, which⟩ := exists_firstOffer unfiltered written.clear.works
    (keeps_of_hasWritten written last (bounds e listed) recorded) own (written.valid e listed)
  rw [first] at back
  refine ⟨written.held, ?_⟩
  rw [show fresh.store.descriptionsOf id = [o.entity.withoutWireForm] from back]
  constructor
  · intro same
    have same : [o.entity.withoutWireForm] = L := same
    rw [← same]
    refine ⟨rfl, fun o' first' _ => ?_⟩
    obtain rfl := Option.some_inj.1 (first.symm.trans first')
    exact List.mem_singleton_self _
  · rintro ⟨single, alike⟩
    obtain ⟨d, rfl⟩ := List.length_eq_one_iff.1 single
    have among : o.entity.withoutWireForm ∈ [d] := by
      rcases which with before | itself
      · exact alike o first before
      · rwa [itself, recorded]
    rw [← List.mem_singleton.1 among]

section Empty

variable {entities : List Entity} {records : List CacheRecord} (r : Resolver ε)
  (reached : Reachable r clock s) (ready : s.lifecycle = .initialized)
  (persistent : r.persistence = some p) (standard : p.keyOf = standardKey) (clear : s.cache.IsClear)
  (asked : query.entityId = some id) (fetches : r.Fetches query id s entities)

include reached ready persistent standard clear asked fetches

/-- A query for an entity comes to an end if what the origin answers can be recorded. -/
theorem ends_resolve (recorded : r.policy.records s.now (ownOf id entities) = .ok records)
    (some_made : records ≠ []) : ((r.resolve query).run s).1 ≠ .overflow := by
  obtain ⟨m, ran, -⟩ := exists_stored_resolveEntityId r persistent standard reached.vacant clear
    fetches.missing fetches.answered recorded some_made
  rw [(run_resolve r ready asked).1, ran]
  simp [Outcome.map_eq_overflow]

theorem hasWritten_of_asked (ends : ((r.resolve query).run s).1 ≠ .overflow)
    (some_valid : validOf id entities s.now ≠ []) :
    ((r.resolve query).run s).2.HasWritten id (validOf id entities s.now) :=
  hasWritten_resolve r persistent standard ⟨reached.vacant, reached.isSound, clear⟩ ready
    (.asked asked fetches) some_valid (fun _ among _ => List.mem_singleton.1 among) ends

/-- Where the cache was empty before, nothing is offered after it but what was written last. -/
theorem offers_resolve_of_empty (unfiltered : r.warmFilters = [])
    (ends : ((r.resolve query).run s).1 ≠ .overflow)
    (last : (validOf id entities s.now).getLast? = some e) (bounds : e.InBounds)
    (empty : ∀ key, s.cache.slot key = none) :
    let s' := ((r.resolve query).run s).2
    r.offers s'.now s'.cache s'.cache.sortedKeys = [⟨standardKey (.ofId id), e⟩] := by
  intro s'
  have listed := List.mem_of_getLast? last
  have delivers : r.Delivers query s id (validOf id entities s.now) [id] := .asked asked fetches
  have written := hasWritten_of_asked r reached ready persistent standard clear asked fetches ends
    (List.ne_nil_of_mem listed)
  have kept := keeps_of_hasWritten written last bounds (delivers.own listed).2
  have others (key : String) (foreign : key ≠ standardKey (.ofId id)) : s'.cache.slot key = none :=
    (slot_resolve_of_ne r persistent standard reached.vacant clear reached.isSound.own ready asked
      foreign).trans (empty key)
  rw [sortedKeys_of_lone written.clear.works kept others,
    offers_of_keeps unfiltered kept (written.valid e listed)]

/-- **The last description comes back**, and it alone, where the cache was empty before. -/
theorem last_returns (unfiltered : r.warmFilters = [])
    (ends : ((r.resolve query).run s).1 ≠ .overflow)
    (last : (validOf id entities s.now).getLast? = some e) (bounds : e.InBounds)
    (empty : ∀ key, s.cache.slot key = none) (inRange : r.policy.record e s.now ≠ .overflow)
    (indexes : List EntityIndex) (origin : ε) :
    let restart := r.loadCache.run (((r.resolve query).run s).2.restarted indexes origin)
    restart.1 ≠ .overflow ∧ restart.2.store.descriptionsOf id = [e] := by
  intro restart
  have offers := offers_resolve_of_empty r reached ready persistent standard clear asked fetches
    unfiltered ends last bounds empty
  have listed := List.mem_of_getLast? last
  have delivers : r.Delivers query s id (validOf id entities s.now) [id] := .asked asked fetches
  have works := (hasWritten_of_asked r reached ready persistent standard clear asked fetches ends
    (List.ne_nil_of_mem listed)).clear.works
  have still : s.now = ((r.resolve query).run s).2.now := (run_resolve_settled r query).now
  obtain ⟨own, recorded⟩ := delivers.own listed
  have restarts : restart.1 ≠ .overflow := by
    refine ends_restarted r persistent standard unfiltered works indexes origin fun o offered => ?_
    rw [offers, List.mem_singleton] at offered
    rw [offered, ← still]
    exact inRange
  refine ⟨restarts, ?_⟩
  have back := descriptionsOf_restarted r persistent standard unfiltered works indexes origin
    restarts id
  rw [firstOffer, offers] at back
  simpa [own, recorded] using back

end Empty

/-! ### At work -/

/-- The query for the entity that was published. -/
def asking : Criteria := { entityId := some "https://idp.example.org" }

/-- The rehearsal in which that query is answered with descriptions. -/
def beforeAnswer (entities : List Entity) : ResolverState Origin.Script :=
  rehearsal "https://idp.example.org" (.ok (some (.group (.ofEntities entities)))) ⟨0, 0⟩

variable {entities : List Entity}

theorem misses_beforeAnswer : Misses (beforeAnswer entities) id where
  expired record held := by cases held
  unmarked until_ marked := by cases marked

theorem isClear_beforeAnswer : (beforeAnswer entities).cache.IsClear where
  works := .memory _ false
  files key stands := by cases stands

/-- An answer with descriptions of the entity delivers those that are valid. -/
theorem delivers_beforeAnswer (entities : List Entity)
    (answered : persisting.answer asking (persisting.counted (beforeAnswer entities))
      = .ok (some entities)) :
    persisting.Fetches asking "https://idp.example.org" (beforeAnswer entities) entities ∧
      persisting.Delivers asking (beforeAnswer entities) "https://idp.example.org"
        (validOf "https://idp.example.org" entities ⟨0, 0⟩) ["https://idp.example.org"] := by
  have fetches : persisting.Fetches asking "https://idp.example.org" (beforeAnswer entities)
      entities := ⟨misses_beforeAnswer, answered⟩
  exact ⟨fetches, .asked rfl fetches⟩

/-- One description in the answer comes back. -/
theorem lone_description_returns :
    let s' := ((persisting.resolve asking).run (beforeAnswer [published])).2
    let fresh := (persisting.loadCache.run (s'.restarted [] .empty)).2
    persisting.Delivers asking (beforeAnswer [published]) "https://idp.example.org" [published]
        ["https://idp.example.org"] ∧
      s'.store.descriptionsOf "https://idp.example.org" = [published] ∧
      fresh.store.descriptionsOf "https://idp.example.org" = [published] := by
  dsimp only
  have reached : Reachable persisting .forward (beforeAnswer [published]) := reachable_persisting _
  have clear : (beforeAnswer [published]).cache.IsClear := isClear_beforeAnswer
  obtain ⟨fetches, delivers⟩ := delivers_beforeAnswer [published] (by decide +kernel)
  have recorded : persisting.policy.records ⟨0, 0⟩ (ownOf "https://idp.example.org" [published])
      = .ok [⟨published, ⟨28800, 0⟩, ⟨0, 0⟩⟩] := by decide
  have ends := ends_resolve persisting reached rfl rfl rfl clear rfl fetches recorded (by simp)
  have bounds : published.InBounds := ⟨nofun, nofun, nofun⟩
  have last : (validOf "https://idp.example.org" [published] ⟨0, 0⟩).getLast? = some published := by
    decide
  have offers := offers_resolve_of_empty persisting reached rfl rfl rfl clear rfl fetches rfl ends
    last bounds fun _ => rfl
  have restarts := (last_returns persisting reached rfl rfl rfl clear rfl fetches rfl ends last bounds
    (fun _ => rfl) (by decide) [] .empty).1
  have returns := returns_iff persisting reached rfl rfl rfl rfl clear delivers (by decide)
    (fun other among _ => List.mem_singleton.1 among)
    (fun e listed => List.mem_singleton.1 listed ▸ bounds) ends [] .empty restarts
  dsimp only at returns
  refine ⟨delivers, returns.1, returns.2.2 ⟨rfl, fun o first before => ?_⟩⟩
  -- Nothing is offered but the copy under the key of the entity.
  rw [firstOffer, offers] at first
  obtain rfl := List.mem_singleton.1 (List.mem_of_find?_eq_some first)
  exact absurd before (String.lt_irrefl (standardKey published))

/-- Of two descriptions in the answer only the second one comes back. -/
theorem first_of_two_is_lost :
    let s' := ((persisting.resolve asking).run (beforeAnswer [published, renewed])).2
    let restart := persisting.loadCache.run (s'.restarted [] .empty)
    Reachable persisting .forward (beforeAnswer [published, renewed]) ∧
      (beforeAnswer [published, renewed]).cache.IsClear ∧
      persisting.Delivers asking (beforeAnswer [published, renewed]) "https://idp.example.org"
        [published, renewed] ["https://idp.example.org"] ∧
      ((persisting.resolve asking).run (beforeAnswer [published, renewed])).1 ≠ .overflow ∧
      s'.store.descriptionsOf "https://idp.example.org" = [published, renewed] ∧
      restart.1 ≠ .overflow ∧
      restart.2.store.descriptionsOf "https://idp.example.org" = [renewed] := by
  dsimp only
  have reached : Reachable persisting .forward (beforeAnswer [published, renewed]) :=
    reachable_persisting _
  have clear : (beforeAnswer [published, renewed]).cache.IsClear := isClear_beforeAnswer
  obtain ⟨fetches, delivers⟩ := delivers_beforeAnswer [published, renewed] (by decide +kernel)
  have recorded :
      persisting.policy.records ⟨0, 0⟩ (ownOf "https://idp.example.org" [published, renewed])
        = .ok [⟨published, ⟨28800, 0⟩, ⟨0, 0⟩⟩, ⟨renewed, ⟨28800, 0⟩, ⟨0, 0⟩⟩] := by decide
  have ends := ends_resolve persisting reached rfl rfl rfl clear rfl fetches recorded (by simp)
  have bounds : renewed.InBounds := ⟨nofun, nofun, nofun⟩
  have last : (validOf "https://idp.example.org" [published, renewed] ⟨0, 0⟩).getLast?
      = some renewed := by decide
  have written := hasWritten_of_asked persisting reached rfl rfl rfl clear rfl fetches ends (by decide)
  exact ⟨reached, clear, delivers, ends, written.held, last_returns persisting reached rfl rfl rfl clear
    rfl fetches rfl ends last bounds (fun _ => rfl) (by decide) [] .empty⟩

end Resolver

end Federation
