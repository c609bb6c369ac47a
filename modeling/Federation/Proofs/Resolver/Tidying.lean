/-
# Warm starts tidy the cache up

After a warm start every entry of the persistent cache is where it belongs. What cannot be read or
is refused by the filters is where it was; anything else is valid and stands under the key of its
entity, as it was written. So there is nothing left to do: a second warm start at the same time
leaves the cache as it is.

All this is so if the warm start comes to an end. A valid copy with a cache duration out of reach
that would come into the store cuts it short, and the keys that come later are as they were.

## Main definitions

- `Resolver.IsTidied`: what a warm start makes of a cache.
- `Resolver.IsTidy`: a warm start has nothing to do.
- `Resolver.Tidies`: a warm start comes to an end, tidies up, and need not be repeated.

## Main results

- `slot_of_own`: a valid copy under its own key stays there.
- `cache_loadCache_of_isTidy`: a warm start leaves a tidy cache as it is.
- `loadCache_tidies_iff`: which warm starts make a cache tidy.
- `overlong_copy_stops_tidying`: one that does not.
-/

import Federation.Proofs.Resolver.Lifetimes
import Federation.Proofs.Resolver.Offering

namespace Federation

open Federation.Metadata Federation.Time Federation.Task

namespace Metadata.Entity.IsAlike

variable {e other : Entity}

theorem standardKey (alike : e.IsAlike other) : standardKey e = standardKey other := by
  rw [Federation.standardKey, Federation.standardKey, alike.entityId]

theorem isValidAt (alike : e.IsAlike other) (now : Instant) :
    e.isValidAt now = other.isValidAt now := by
  rw [Entity.isValidAt, Entity.isValidAt, alike.validUntil]

end Metadata.Entity.IsAlike

namespace Resolver

variable {ε α β : Type} {r : Resolver ε} {p : Persistence} {now : Instant} {c c' : PersistentCache}
  {key target : String} {keys : List String} {e copy : Entity} {o : Offer} {s : ResolverState ε}

/-- What a warm start makes of a cache. -/
structure IsTidied (r : Resolver ε) (now : Instant) (c c' : PersistentCache) : Prop where
  /-- A file is where it was, and either cannot be read or is refused, or it was there somewhere
  and stands under the key of its entity now. -/
  origin : ∀ key bytes, c'.slot key = some (.file bytes) →
    (c.slot key = some (.file bytes) ∧ ∀ copy, c.Keeps key copy → r.admitted now copy = []) ∨
      ∃ before copy, c.slot before = some (.file bytes) ∧ c.Keeps before copy ∧
        key = standardKey copy
  /-- Nothing that can be read and is accepted has ceased to be valid. -/
  current : ∀ key copy, c'.Keeps key copy → r.admitted now copy ≠ [] → copy.isValidAt now = true
  /-- What is valid and stood under its own key stands there. -/
  unmoved : ∀ key copy, c.Keeps key copy → key = standardKey copy → copy.isValidAt now = true →
    c'.slot key = c.slot key

/-- Everything that a cache offers is valid and stands under its own key. -/
def IsTidy (r : Resolver ε) (now : Instant) (c : PersistentCache) : Prop :=
  ∀ key, ∀ e ∈ r.offered now c key, e.isValidAt now = true ∧ standardKey e = key

/-! ## What stands under a key in the end -/

/-- The copy of an heir can be read and is valid, and its own key is the one it inherits. -/
theorem exists_keeps_of_heir (builtIn : r.warmFilters.IsBuiltIn)
    (found : r.heir now c keys target = some o) :
    ∃ copy, c.Keeps o.key copy ∧ r.admitted now copy = [o.entity] ∧ o.entity.IsAlike copy ∧
      copy.isValidAt now = true ∧ target = standardKey copy := by
  obtain ⟨⟨-, left, valid⟩, own, -⟩ := heir_spec found
  obtain ⟨copy, kept⟩ := exists_keeps_of_offered (List.ne_nil_of_mem left)
  rw [offered_of_keeps kept] at left
  rcases admitted_lone builtIn now copy with none_left | ⟨e, lone, alike⟩
  · rw [none_left] at left
    cases left
  · rw [lone, List.mem_singleton] at left
    obtain rfl := left
    exact ⟨copy, kept, lone, alike, alike.isValidAt now ▸ valid, own ▸ alike.standardKey⟩

/-- What stands under a key is what stood there, if nothing is offered of it, or the copy of an
heir. -/
theorem settledSlot_cases (works : c.Works) {entry : DirectoryEntry}
    (stands : r.settledSlot now c c.sortedKeys key = some entry) :
    (c.slot key = some entry ∧ r.offered now c key = []) ∨
      (¬ r.Stays now c c.sortedKeys key ∧
        ∃ o, r.heir now c c.sortedKeys key = some o ∧ c.slot o.key = some entry) := by
  by_cases stays : r.Stays now c c.sortedKeys key
  · rw [settledSlot_of_stays stays] at stands
    exact .inl ⟨stands, ((stays_sortedKeys_iff works).1 stays).2⟩
  · rw [settledSlot_of_goes stays] at stands
    exact .inr ⟨stays, Option.bind_eq_some_iff.1 stands⟩

/-- What is kept in the end is what was kept there, if nothing is offered of it, or what is kept of
an heir. -/
theorem keeps_settled_cases (builtIn : r.warmFilters.IsBuiltIn) (works : c.Works)
    (becomes : c.Becomes c' (r.settledSlot now c c.sortedKeys)) (kept : c'.Keeps key copy) :
    (c.Keeps key copy ∧ r.admitted now copy = []) ∨
      (¬ r.Stays now c c.sortedKeys key ∧
        ∃ o, r.heir now c c.sortedKeys key = some o ∧ c.Keeps o.key copy ∧
          r.admitted now copy = [o.entity] ∧ copy.isValidAt now = true ∧
          key = standardKey copy) := by
  obtain ⟨accepted, bytes, found, read⟩ := (PersistentCache.keeps_iff becomes.works).1 kept
  rw [becomes.slot] at found
  rcases settledSlot_cases works found with ⟨same, unoffered⟩ | ⟨goes, o, heir, before⟩
  · have kept : c.Keeps key copy :=
      (PersistentCache.keeps_iff works).2 ⟨(becomes.accepts key).1 accepted, bytes, same, read⟩
    exact .inl ⟨kept, offered_of_keeps kept ▸ unoffered⟩
  · obtain ⟨old, inherited, left, -, valid, own⟩ := exists_keeps_of_heir builtIn heir
    obtain ⟨-, bytes', found', read'⟩ := (PersistentCache.keeps_iff works).1 inherited
    obtain rfl : bytes' = bytes := by simpa [before] using found'.symm
    obtain rfl : old = copy := Except.ok.inj (read'.symm.trans read)
    exact .inr ⟨goes, o, heir, inherited, left, valid, own⟩

/-- A valid offer that stands under its own key is its own heir. -/
theorem heir_of_own (works : c.Works) (lone : r.offered now c key = [e])
    (valid : e.isValidAt now = true) (own : standardKey e = key) :
    r.heir now c c.sortedKeys key = some ⟨key, e⟩ := by
  have some_left : r.offered now c key ≠ [] := by simp [lone]
  obtain ⟨copy, kept⟩ := exists_keeps_of_offered some_left
  have listed := mem_sortedKeys_of_keeps works kept
  obtain ⟨bytes, found⟩ := exists_file_of_mem_sortedKeys works listed
  -- Copies under lower keys are no heirs, since something stands here until its own turn.
  obtain ⟨past, rest, split⟩ := List.append_of_mem listed
  have sorted := pairwise_sortedKeys works
  rw [split] at sorted
  have before : ∀ k ∈ past, k < key := fun k among =>
    (List.pairwise_append.1 sorted).2.2 k among key List.mem_cons_self
  have itself : r.heir now c [key] key = some ⟨key, e⟩ := by
    have room : c.slot (standardKey e) = none ∨ standardKey e ≤ key := .inr (own ▸ String.le_refl _)
    have heir := heir_singleton lone valid room
    rwa [own] at heir
  rw [split, List.append_cons, heir_append, heir_append,
    heir_past_eq_none before (by simp [found]), itself]
  rfl

/-- A valid copy under its own key stays there. -/
theorem slot_of_own (builtIn : r.warmFilters.IsBuiltIn) (works : c.Works)
    (kept : c.Keeps key copy) (own : key = standardKey copy) (valid : copy.isValidAt now = true) :
    r.settledSlot now c c.sortedKeys key = c.slot key := by
  obtain ⟨-, bytes, found, -⟩ := (PersistentCache.keeps_iff works).1 kept
  rcases admitted_lone builtIn now copy with none_left | ⟨e, lone, alike⟩
  -- What is refused is not touched, and what is accepted is its own heir.
  · refine settledSlot_of_stays ((stays_sortedKeys_iff works).2 ⟨by simp [found], ?_⟩)
    rw [offered_of_keeps kept, none_left]
  · rw [← offered_of_keeps kept] at lone
    have goes : ¬ r.Stays now c c.sortedKeys key := by
      intro stays
      have none_left := ((stays_sortedKeys_iff works).1 stays).2
      rw [lone] at none_left
      cases none_left
    have same : standardKey e = key := alike.standardKey.trans own.symm
    rw [settledSlot_of_goes goes, heir_of_own works lone (alike.isValidAt now ▸ valid) same]
    rfl

theorem isTidied_of_becomes (builtIn : r.warmFilters.IsBuiltIn) (works : c.Works)
    (becomes : c.Becomes c' (r.settledSlot now c c.sortedKeys)) : r.IsTidied now c c' where
  origin key bytes stands := by
    rw [becomes.slot] at stands
    rcases settledSlot_cases works stands with ⟨same, unoffered⟩ | ⟨-, o, heir, before⟩
    · refine .inl ⟨same, fun copy kept => ?_⟩
      rw [← offered_of_keeps kept, unoffered]
    · obtain ⟨copy, kept, -, -, -, own⟩ := exists_keeps_of_heir builtIn heir
      exact .inr ⟨o.key, copy, before, kept, own⟩
  current key copy kept some_left := by
    rcases keeps_settled_cases builtIn works becomes kept with
      ⟨-, none_left⟩ | ⟨-, o, -, -, -, valid, -⟩
    · exact absurd none_left some_left
    · exact valid
  unmoved key copy kept own valid := by
    rw [becomes.slot]
    exact slot_of_own builtIn works kept own valid

theorem isTidy_of_becomes (builtIn : r.warmFilters.IsBuiltIn) (works : c.Works)
    (becomes : c.Becomes c' (r.settledSlot now c c.sortedKeys)) : r.IsTidy now c' := by
  intro key e left
  obtain ⟨copy, kept⟩ := exists_keeps_of_offered (List.ne_nil_of_mem left)
  rw [offered_of_keeps kept] at left
  rcases keeps_settled_cases builtIn works becomes kept with
    ⟨-, none_left⟩ | ⟨-, o, heir, -, lone, -, -⟩
  · rw [none_left] at left
    cases left
  · rw [lone, List.mem_singleton] at left
    obtain ⟨⟨-, -, valid⟩, own, -⟩ := heir_spec heir
    exact left ▸ ⟨valid, own⟩

/-! ## Another warm start -/

section Again

/-- A cache is as it was after one task and another, if each of them leaves it so. -/
theorem cache_then {t : Task (ResolverState ε) α} {f : α → Task (ResolverState ε) β}
    (first : (t.run s).2.cache = c) (second : ∀ a m, m.cache = c → ((f a).run m).2.cache = c) :
    ((t >>= f).run s).2.cache = c := by
  rw [run_then]
  generalize t.run s = ran at first
  obtain ⟨outcome, m⟩ := ran
  cases outcome with
  | ok a => exact second a m first
  | failed failure => exact first
  | overflow => exact first

theorem cache_insertRecords (r : Resolver ε) (id : String) (entities : List Entity) (now : Instant)
    (same : s.cache = c) : ((r.insertRecords id entities now).run s).2.cache = c := by
  rw [insertRecords]
  refine cache_then (by rw [run_ofOutcome]; exact same) fun records m same => ?_
  split <;> exact same

theorem cache_loadEntity (r : Resolver ε) (key : String) (e : Entity) (s : ResolverState ε) :
    ((r.loadEntity p now key e).run s).2.cache = tidied p now key s.cache e := by
  rw [run_loadEntity]
  dsimp only
  split
  · rfl
  · rw [← run_then]
    exact cache_then (cache_insertRecords r _ _ _ rfl) fun _ _ same => same

/-- The turn of a key leaves a tidy cache as it is. -/
theorem cache_takeKey_of_isTidy (standard : p.keyOf = standardKey) (tidy : r.IsTidy now c)
    {entities : List Entity} (among : ∀ e ∈ entities, e ∈ r.offered now c key)
    (same : s.cache = c) :
    ((Task.collect entities (r.loadEntity p now key)).run s).2.cache = c := by
  induction entities generalizing s with
  | nil => exact same
  | cons e rest ih =>
    obtain ⟨valid, own⟩ := tidy key e (among e List.mem_cons_self)
    have untouched : tidied p now key c e = c := by simp [tidied, standard, valid, own]
    refine cache_then ?_ fun taken m same => ?_
    · rw [cache_loadEntity, same, untouched]
    · exact cache_then (ih (fun e later => among e (List.mem_cons_of_mem _ later)) same)
        fun _ _ same => same

theorem cache_loadKeys_of_isTidy (standard : p.keyOf = standardKey) (tidy : r.IsTidy now c)
    (same : s.cache = c) : ((r.loadKeys p now keys).run s).2.cache = c := by
  induction keys generalizing s with
  | nil => exact same
  | cons key rest ih =>
    by_cases dead : s.lifecycle = .destroyed
    · rw [loadKeys, run_then, run_read, proceed_ok, if_pos dead]
      exact same
    · rw [run_loadKeys_cons r p rest dead, ← run_then, same]
      refine cache_then (cache_takeKey_of_isTidy standard tidy (fun _ left => left) same)
        fun taken m same => ?_
      exact cache_then (ih same) fun _ _ same => same

/-- A warm start leaves a tidy cache as it is, whatever else the state is and comes of it. -/
theorem cache_loadCache_of_isTidy (persistent : r.persistence = some p)
    (standard : p.keyOf = standardKey) (tidy : r.IsTidy s.now s.cache) :
    (r.loadCache.run s).2.cache = s.cache := by
  rw [loadCache, persistent]
  dsimp only
  rw [run_then, run_onCache_attempt, proceed_ok, PersistentCache.list_snd]
  cases s.cache.list.1 with
  | error failure => rfl
  | ok keys =>
    dsimp only
    rw [run_then, run_read, proceed_ok]
    refine cache_then (cache_loadKeys_of_isTidy standard tidy rfl) fun loaded m same => ?_
    exact cache_then (by rw [gaugeSize, run_change]; exact same) fun _ _ same => same

end Again

/-- A warm start comes to an end, and what it makes of the cache is tidied up. Another one at the
same time leaves that as it is, whatever the state of the resolver is otherwise. -/
structure Tidies (r : Resolver ε) (s : ResolverState ε) : Prop where
  ends : ∃ loaded, (r.loadCache.run s).1 = .ok loaded
  tidied : r.IsTidied s.now s.cache (r.loadCache.run s).2.cache
  lasts : ∀ t : ResolverState ε, t.cache = (r.loadCache.run s).2.cache → t.now = s.now →
    (r.loadCache.run t).2.cache = (r.loadCache.run s).2.cache

section Filed

variable (r : Resolver ε) (persistent : r.persistence = some p) (standard : p.keyOf = standardKey)
  (builtIn : r.warmFilters.IsBuiltIn) (works : s.cache.Works) (alive : s.lifecycle ≠ .destroyed)

include persistent standard builtIn works alive

/-- A warm start tidies up if it comes to an end. -/
theorem tidies_of_ends (ends : (r.loadCache.run s).1 ≠ .overflow) : r.Tidies s := by
  obtain ⟨loaded, becomes, -⟩ := exists_run_loadCache r persistent standard builtIn works alive ends
  refine ⟨loaded, isTidied_of_becomes builtIn works becomes, fun t same still => ?_⟩
  have tidy : r.IsTidy t.now t.cache := by
    rw [same, still]
    exact isTidy_of_becomes builtIn works becomes
  rw [cache_loadCache_of_isTidy persistent standard tidy, same]

theorem tidies_iff_not_obstructed :
    r.Tidies s ↔ ¬ r.Obstructed s.now s.store s.cache s.cache.sortedKeys := by
  rw [← run_loadCache_eq_overflow_iff r persistent standard builtIn works alive]
  constructor
  · rintro ⟨⟨loaded, ran⟩, -, -⟩
    simp [ran]
  · exact tidies_of_ends r persistent standard builtIn works alive

/-- **Which warm starts tidy the cache up.** With standard keys, filters of this library and a cache
with which nothing is wrong, whatever it holds, a warm start tidies up if and only if of every
entity that is not in the store the first valid copy can be recorded. In the years from 1970 to 9000
and under a policy of a hundred years or less, this is so if and only if the cache durations of these
copies are in reach. -/
theorem loadCache_tidies_iff :
    (r.Tidies s ↔ ∀ id o, s.store.find? id = none →
      r.firstOffer s.now s.cache s.cache.sortedKeys id = some o →
        r.policy.record o.entity s.now ≠ .overflow) ∧
    (r.policy.IsCentennial → s.now.IsNear → (r.Tidies s ↔ ∀ id o, s.store.find? id = none →
      r.firstOffer s.now s.cache s.cache.sortedKeys id = some o → o.entity.InReach)) := by
  have exact_ : r.Tidies s ↔ ∀ id o, s.store.find? id = none →
      r.firstOffer s.now s.cache s.cache.sortedKeys id = some o →
        r.policy.record o.entity s.now ≠ .overflow := by
    rw [tidies_iff_not_obstructed r persistent standard builtIn works alive, Obstructed]
    simp only [BackingStore.held, Option.map_eq_none_iff, not_exists, not_and, ne_eq]
  refine ⟨exact_, fun centennial near => exact_.trans ?_⟩
  -- What is offered is valid, so that only its cache duration may be out of reach.
  have reaches (id : String) (o : Offer)
      (first : r.firstOffer s.now s.cache s.cache.sortedKeys id = some o) :
      r.policy.record o.entity s.now ≠ .overflow ↔ o.entity.InReach := by
    obtain ⟨-, -, valid⟩ := mem_offers.1 (mem_offers_of_firstOffer first)
    rw [ne_eq, CachePolicy.record_eq_overflow_iff centennial near valid, Classical.not_not]
  constructor
  · exact fun recorded id o absent first => (reaches id o first).1 (recorded id o absent first)
  · exact fun inReach id o absent first => (reaches id o first).2 (inReach id o absent first)

end Filed

/-- The same entity, whose description has ceased to be valid. -/
def outdated : Entity := { published with validUntil := some ⟨0, 0⟩ }

theorem load_outdated : Entity.load outdated.canonical = .ok outdated := by
  have civil : ∀ t ∈ outdated.validUntil, t.IsCivil := by
    intro t stated
    obtain rfl := Option.some_inj.1 stated
    exact ⟨by decide, by decide, by decide, by decide⟩
  exact Entity.load_canonical (e := outdated) ⟨nofun, civil, nofun⟩

/-- A cache in which one copy stands under an old key, another has ceased to be valid, and a third
was torn off. -/
def untidy : PersistentCache :=
  .memory ⟨⟨some (((Keyed.empty.insert "-legacy" published.canonical).insert "-outdated"
    outdated.canonical).insert "-torn" "\x7b")⟩, false, []⟩

/-- A resolver before it starts from that cache. -/
def beforeTidying : ResolverState Origin.Script :=
  .start [] untidy (answering "https://idp.example.org" (.ok none)) ⟨0, 0⟩

theorem sortedKeys_untidy : beforeTidying.cache.sortedKeys = ["-legacy", "-outdated", "-torn"] := by
  have listed : untidy.list = (.ok ["-legacy", "-outdated", "-torn"], untidy) := rfl
  show untidy.sortedKeys = _
  rw [sortedKeys_eq listed]
  exact List.mergeSort_of_pairwise (by decide)

/-- Only the copy under the old key is offered. -/
theorem offers_untidy : persisting.offers beforeTidying.now beforeTidying.cache
    ["-legacy", "-outdated", "-torn"] = [⟨"-legacy", published⟩] := by
  have works : untidy.Works := .memory _ false
  have legacy : untidy.Keeps "-legacy" published :=
    PersistentCache.keeps_of_ofText works trivial rfl load_published
  have late : untidy.Keeps "-outdated" outdated :=
    PersistentCache.keeps_of_ofText works trivial rfl load_outdated
  have torn : persisting.offered ⟨0, 0⟩ untidy "-torn" = [] := rfl
  have first : persisting.offers ⟨0, 0⟩ untidy ["-legacy"] = [⟨"-legacy", published⟩] :=
    offers_of_keeps rfl legacy rfl
  have second : persisting.offers ⟨0, 0⟩ untidy ["-outdated"] = [] := by
    rw [offers_singleton, offered_of_unfiltered rfl late]
    rfl
  have third : persisting.offers ⟨0, 0⟩ untidy ["-torn"] = [] := by
    rw [offers_singleton, torn]
    rfl
  show persisting.offers ⟨0, 0⟩ untidy (["-legacy"] ++ (["-outdated"] ++ ["-torn"])) = _
  rw [offers_append, offers_append, first, second, third]
  rfl

theorem ends_untidy : (persisting.loadCache.run beforeTidying).1 ≠ .overflow := by
  refine ends_loadCache persisting rfl rfl FilterChain.isBuiltIn_nil (.memory _ false)
    (by decide) ?_
  rw [sortedKeys_untidy, offers_untidy]
  decide

/-- What is offered first for any entity is the copy under the old key. -/
theorem firstOffer_untidy {id : String} {o : Offer} (first : persisting.firstOffer beforeTidying.now
      beforeTidying.cache beforeTidying.cache.sortedKeys id = some o) :
    o = ⟨"-legacy", published⟩ := by
  have offered := mem_offers_of_firstOffer first
  rw [sortedKeys_untidy, offers_untidy] at offered
  exact List.mem_singleton.1 offered

theorem untidy_is_tidied :
    untidy.Works ∧ persisting.Tidies beforeTidying ∧
      CachePolicy.standard.IsCentennial ∧ beforeTidying.now.IsNear ∧ published.InReach := by
  have works : untidy.Works := .memory _ false
  have near : beforeTidying.now.IsNear := ⟨by decide, by decide⟩
  have reaches : published.InReach := nofun
  have tidies := (loadCache_tidies_iff (s := beforeTidying) persisting rfl rfl
    FilterChain.isBuiltIn_nil works (by decide)).2 CachePolicy.isCentennial_standard near
  refine ⟨works, tidies.2 fun id o _ first => ?_, CachePolicy.isCentennial_standard, near, reaches⟩
  rw [firstOffer_untidy first]
  exact reaches

/-- A cache with a valid copy whose cache duration is out of reach. After it comes one that has
ceased to be valid. -/
def blocked : PersistentCache :=
  .memory ⟨⟨some ((Keyed.empty.insert "-endless" overlong.canonical).insert "-outdated"
    outdated.canonical)⟩, false, []⟩

/-- A resolver before it starts from that cache. -/
def beforeBlocked : ResolverState Origin.Script :=
  .start [] blocked (answering "https://idp.example.org" (.ok none)) ⟨0, 0⟩

theorem sortedKeys_blocked : beforeBlocked.cache.sortedKeys = ["-endless", "-outdated"] := by
  have listed : blocked.list = (.ok ["-endless", "-outdated"], blocked) := rfl
  show blocked.sortedKeys = _
  rw [sortedKeys_eq listed]
  exact List.mergeSort_of_pairwise (by decide)

theorem load_overlong : Entity.load overlong.canonical = .ok overlong := by
  have bounded : ∀ n ∈ overlong.cacheSeconds, n ≤ maxSeconds := by
    intro n stated
    obtain rfl := Option.some_inj.1 stated
    decide
  exact Entity.load_canonical (e := overlong) ⟨nofun, nofun, bounded⟩

/-- The copy that comes first cannot be recorded. -/
theorem obstructed_blocked :
    persisting.Obstructed ⟨0, 0⟩ beforeBlocked.store blocked ["-endless"] := by
  have works : blocked.Works := .memory _ false
  have kept : blocked.Keeps "-endless" overlong :=
    PersistentCache.keeps_of_ofText works trivial rfl load_overlong
  refine ⟨"https://idp.example.org", ⟨"-endless", overlong⟩, rfl, ?_, by decide⟩
  rw [firstOffer, offers_of_keeps rfl kept rfl]
  rfl

/-- The warm start stops at the copy that cannot be recorded. The outdated one is still there. -/
theorem overlong_copy_stops_tidying :
    let s' := (persisting.loadCache.run beforeBlocked).2
    blocked.Works ∧ persisting.warmFilters.IsBuiltIn ∧ beforeBlocked.lifecycle ≠ .destroyed ∧
      (persisting.loadCache.run beforeBlocked).1 = .overflow ∧ ¬ persisting.Tidies beforeBlocked ∧
      s'.cache.slot "-outdated" = blocked.slot "-outdated" ∧
      (persisting.offered ⟨0, 0⟩ s'.cache "-outdated").map (·.isValidAt ⟨0, 0⟩) = [false] := by
  intro s'
  have works : blocked.Works := .memory _ false
  have builtIn : persisting.warmFilters.IsBuiltIn := FilterChain.isBuiltIn_nil
  obtain ⟨overflowed, becomes⟩ := becomes_of_obstructed (s := beforeBlocked) persisting rfl rfl
    builtIn works (by decide) sortedKeys_blocked obstructed_blocked
  -- The later key has not had its turn.
  have stays : persisting.settledSlot ⟨0, 0⟩ blocked ["-endless"] "-outdated"
      = blocked.slot "-outdated" :=
    settledSlot_of_stays ⟨nofun, .inl (by decide)⟩
  have same : s'.cache.slot "-outdated" = blocked.slot "-outdated" := by
    rw [becomes.slot]
    exact stays
  have before : blocked.Keeps "-outdated" outdated :=
    PersistentCache.keeps_of_ofText works trivial rfl load_outdated
  have kept : s'.cache.Keeps "-outdated" outdated := (becomes.keeps_iff works stays).2 before
  refine ⟨works, builtIn, by decide, overflowed, ?_, same, ?_⟩
  · rintro ⟨⟨loaded, returned⟩, -, -⟩
    cases overflowed.symm.trans returned
  · rw [offered_of_unfiltered rfl kept]
    rfl

end Resolver

end Federation
