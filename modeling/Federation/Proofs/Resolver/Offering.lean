/-
# What a warm start makes of a cache

A warm start goes through the keys of the persistent cache in order. The copy under a key offers
what the filters leave of it. If that is valid, the entity comes in unless it is there already, and
the copy is moved to the key of the entity, if nothing stands there, or else is dropped. So what is
in the store in the end is the first offer for every entity, and what stands under the key of an
entity is the first offer for that key which finds it empty: if something stood there at first that
the filters pass over, no offer does, and if anything else stood there, it makes room when its own
turn comes.

The keys that are left and the keys that are done with are both among those of which the loop goes
on to move copies, so the state after some of the keys is told for every key at once.

## Main definitions

- `Resolver.offered`: what the filters leave of the copy under a key.
- `Resolver.offers`: what is valid of that, key by key.
- `Resolver.heir`: the offer whose copy comes to stand under a key.
- `Resolver.settledSlot`: what stands under a key once some keys are done with.
- `Resolver.Obstructed`: something that would come into the store is out of range.

## Main results

- `becomes_tidyKey`: what becomes of the cache when the turn of a key comes.
- `exists_run_loadCache`: the cache and the store after a warm start.
- `run_loadCache_eq_overflow_iff`: which warm starts are cut short.
-/

import Mathlib.Data.List.Sort
import Mathlib.Data.String.Basic
import Federation.Proofs.Cache.Working
import Federation.Proofs.Filter.Lone
import Federation.Proofs.Resolver.Absence

namespace Federation

open Federation.Metadata Federation.Time Federation.Task

/-- A description that a copy offers, and the key under which the copy is. -/
structure Offer where
  key : String
  entity : Entity
deriving DecidableEq

/-- The key that the copy should have. -/
def Offer.target (o : Offer) : String := standardKey o.entity

/-- The keys of a cache, in order. -/
def PersistentCache.sortedKeys (c : PersistentCache) : List String :=
  match c.list.1 with
  | .ok keys => keys.mergeSort fun a b => a ≤ b
  | .error _ => []

/-- What a store holds of an entity, if anything. -/
def BackingStore.held (store : BackingStore) (id : String) : Option (List Entity) :=
  (store.find? id).map (List.map (·.entity))

namespace Resolver

variable {ε : Type}

/-- The descriptions that the filters of a warm start leave of a copy. -/
def admitted (r : Resolver ε) (now : Instant) (copy : Entity) : List Entity :=
  match FilterChain.apply ⟨now, r.id⟩ r.warmFilters (.entity copy) with
  | .ok (some document) => document.flatten
  | _ => []

/-- The descriptions that they leave of the copy under a key, if it can be read. -/
def offered (r : Resolver ε) (now : Instant) (c : PersistentCache) (key : String) : List Entity :=
  match (c.load key).1 with
  | .ok (some copy) => r.admitted now copy
  | _ => []

/-- What the copies under keys offer that is valid. -/
def offers (r : Resolver ε) (now : Instant) (c : PersistentCache) (keys : List String) :
    List Offer :=
  keys.flatMap fun key => ((r.offered now c key).filter (·.isValidAt now)).map (Offer.mk key)

/-- The first offer for an entity. -/
def firstOffer (r : Resolver ε) (now : Instant) (c : PersistentCache) (keys : List String)
    (id : String) : Option Offer :=
  (r.offers now c keys).find? fun o => o.entity.entityId == id

/-- The first offer for a key that does not come before the turn of the key itself, if something
stands there. -/
def heir (r : Resolver ε) (now : Instant) (c : PersistentCache) (keys : List String)
    (target : String) : Option Offer :=
  (r.offers now c keys).find? fun o =>
    o.target == target && ((c.slot target).isNone || target ≤ o.key)

/-- What is offered first for an entity that a store does not hold cannot be recorded. -/
def Obstructed (r : Resolver ε) (now : Instant) (store : BackingStore) (c : PersistentCache)
    (keys : List String) : Prop :=
  ∃ id o, store.held id = none ∧ r.firstOffer now c keys id = some o ∧
    r.policy.record o.entity now = .overflow

/-- What is offered under a key obstructs the way, and nothing before it does. -/
structure ObstructedAt (r : Resolver ε) (now : Instant) (store : BackingStore) (c : PersistentCache)
    (before : List String) (key : String) : Prop where
  clear : ¬ r.Obstructed now store c before
  blocked : r.Obstructed now store c (before ++ [key])

/-- What stood under a key at first does so when some keys are done with: its turn has not come, or
nothing is offered there. -/
def Stays (r : Resolver ε) (now : Instant) (c : PersistentCache) (past : List String)
    (key : String) : Prop :=
  c.slot key ≠ none ∧ (key ∉ past ∨ r.offered now c key = [])

instance (r : Resolver ε) (now : Instant) (c : PersistentCache) (past : List String)
    (key : String) : Decidable (r.Stays now c past key) :=
  inferInstanceAs (Decidable (_ ∧ _))

/-- What stands under a key once some keys are done with. -/
def settledSlot (r : Resolver ε) (now : Instant) (c : PersistentCache) (past : List String)
    (key : String) : Option DirectoryEntry :=
  if r.Stays now c past key then c.slot key
  else (r.heir now c past key).bind fun o => c.slot o.key

/-- The cache after a copy was moved to the key it should have, or dropped. -/
def moved (key expected : String) (c : PersistentCache) : PersistentCache :=
  match c.rename key expected with
  | (.error (.alreadyExists _), c') => (c'.remove key).2
  | (_, c') => c'

/-- The cache after the copy under a key was found to describe an entity. -/
def tidied (p : Persistence) (now : Instant) (key : String) (c : PersistentCache) (e : Entity) :
    PersistentCache :=
  if !e.isValidAt now then (c.remove key).2
  else if p.keyOf e = key then c
  else moved key (p.keyOf e) c

/-- The cache after the turn of a key. -/
def tidyKey (r : Resolver ε) (p : Persistence) (now : Instant) (c : PersistentCache)
    (key : String) : PersistentCache :=
  (r.offered now c key).foldl (tidied p now key) c

variable {r : Resolver ε} {p : Persistence} {now : Instant} {c c' : PersistentCache}
  {key target id : String} {keys past : List String} {e copy : Entity} {o : Offer}
  {slots : String → Option DirectoryEntry} {s : ResolverState ε} {store store' : BackingStore}

/-! ## Offers -/

theorem offered_of_keeps (kept : c.Keeps key copy) :
    r.offered now c key = r.admitted now copy := by
  rw [offered, kept]

theorem exists_keeps_of_offered (some_left : r.offered now c key ≠ []) :
    ∃ copy, c.Keeps key copy := by
  rw [offered] at some_left
  split at some_left
  · rename_i copy loaded
    exact ⟨copy, loaded⟩
  · exact absurd rfl some_left

/-- The same is offered where the same is kept. -/
theorem offered_congr (same : ∀ e, c'.Keeps key e ↔ c.Keeps key e) :
    r.offered now c' key = r.offered now c key := by
  by_cases readable : ∃ copy, c.Keeps key copy
  · obtain ⟨copy, kept⟩ := readable
    rw [offered_of_keeps kept, offered_of_keeps ((same copy).2 kept)]
  · have none_left : r.offered now c key = [] := by
      by_contra some_left
      exact readable (exists_keeps_of_offered some_left)
    rw [none_left]
    by_contra some_left
    obtain ⟨copy, kept⟩ := exists_keeps_of_offered some_left
    exact readable ⟨copy, (same copy).1 kept⟩

/-- Filters of this library leave at most one description of a copy, which is alike. -/
theorem admitted_lone (builtIn : r.warmFilters.IsBuiltIn) (now : Instant) (copy : Entity) :
    r.admitted now copy = [] ∨ ∃ e, r.admitted now copy = [e] ∧ e.IsAlike copy := by
  rw [admitted]
  split
  · rename_i document applied
    obtain ⟨e, rfl, alike⟩ := FilterChain.lone_of_apply builtIn applied
    exact .inr ⟨e, rfl, alike⟩
  · exact .inl rfl

/-- Where there are no filters every copy is let through. -/
theorem admitted_of_unfiltered (unfiltered : r.warmFilters = []) (now : Instant) (copy : Entity) :
    r.admitted now copy = [copy] := by
  rw [admitted, unfiltered]
  rfl

theorem offered_of_unfiltered (unfiltered : r.warmFilters = []) (kept : c.Keeps key copy) :
    r.offered now c key = [copy] := by
  rw [offered_of_keeps kept, admitted_of_unfiltered unfiltered]

theorem offered_lone (builtIn : r.warmFilters.IsBuiltIn) (now : Instant) (c : PersistentCache)
    (key : String) : r.offered now c key = [] ∨ ∃ e, r.offered now c key = [e] := by
  rw [offered]
  split
  · rename_i copy _
    exact (admitted_lone builtIn now copy).imp_right fun ⟨e, left, _⟩ => ⟨e, left⟩
  · exact .inl rfl

theorem mem_offers : o ∈ r.offers now c keys ↔
    o.key ∈ keys ∧ o.entity ∈ r.offered now c o.key ∧ o.entity.isValidAt now = true := by
  rw [offers, List.mem_flatMap]
  constructor
  · rintro ⟨key, listed, made⟩
    obtain ⟨e, left, rfl⟩ := List.mem_map.1 made
    exact ⟨listed, List.mem_filter.1 left⟩
  · rintro ⟨listed, left⟩
    exact ⟨o.key, listed, List.mem_map.2 ⟨o.entity, List.mem_filter.2 left, rfl⟩⟩

theorem offers_append (others : List String) :
    r.offers now c (keys ++ others) = r.offers now c keys ++ r.offers now c others :=
  List.flatMap_append

theorem offers_singleton (key : String) :
    r.offers now c [key]
      = ((r.offered now c key).filter (·.isValidAt now)).map (Offer.mk key) := by
  simp [offers]

/-- Where there are no filters a valid copy is offered as it is. -/
theorem offers_of_keeps (unfiltered : r.warmFilters = []) (kept : c.Keeps key e)
    (valid : e.isValidAt now = true) : r.offers now c [key] = [⟨key, e⟩] := by
  rw [offers_singleton, offered_of_unfiltered unfiltered kept]
  simp [valid]

theorem heir_append (others : List String) (target : String) :
    r.heir now c (keys ++ others) target
      = (r.heir now c keys target).or (r.heir now c others target) := by
  rw [heir, offers_append, List.find?_append]
  rfl

theorem firstOffer_append (others : List String) (id : String) :
    r.firstOffer now c (keys ++ others) id
      = (r.firstOffer now c keys id).or (r.firstOffer now c others id) := by
  rw [firstOffer, offers_append, List.find?_append]
  rfl

theorem mem_offers_of_firstOffer (first : r.firstOffer now c keys id = some o) :
    o ∈ r.offers now c keys :=
  List.mem_of_find?_eq_some first

theorem not_obstructed_nil : ¬ r.Obstructed now store c [] := by
  rintro ⟨id, o, -, first, -⟩
  cases first

/-- What obstructs the way through some keys obstructs that through more. -/
theorem Obstructed.append (obstructed : r.Obstructed now store c keys) (others : List String) :
    r.Obstructed now store c (keys ++ others) := by
  obtain ⟨id, o, absent, first, overflows⟩ := obstructed
  refine ⟨id, o, absent, ?_, overflows⟩
  rw [firstOffer_append, first]
  rfl

theorem ObstructedAt.obstructed {before rest : List String}
    (halted : r.ObstructedAt now store c before key) :
    r.Obstructed now store c (before ++ key :: rest) := by
  simpa using halted.blocked.append rest

/-- What obstructs the way through several keys obstructs it at the first one, or later on, when
what is offered there has come into the store. -/
theorem obstructed_cons_iff {rest : List String}
    (holds : ∀ id, store'.held id = (store.held id).or
      ((r.firstOffer now c [key] id).map fun o => [o.entity.withoutWireForm])) :
    r.Obstructed now store c (key :: rest) ↔
      r.Obstructed now store c [key] ∨ r.Obstructed now store' c rest := by
  have split (id : String) : r.firstOffer now c (key :: rest) id
      = (r.firstOffer now c [key] id).or (r.firstOffer now c rest id) := by
    rw [← firstOffer_append, List.singleton_append]
  constructor
  · rintro ⟨id, o, absent, first, overflows⟩
    rw [split] at first
    cases offer : r.firstOffer now c [key] id with
    | some o' =>
      rw [offer] at first
      obtain rfl := Option.some_inj.1 first
      exact .inl ⟨id, o', absent, offer, overflows⟩
    | none =>
      rw [offer, Option.none_or] at first
      exact .inr ⟨id, o, by rw [holds, absent, offer]; rfl, first, overflows⟩
  · rintro (⟨id, o, absent, first, overflows⟩ | ⟨id, o, absent, first, overflows⟩)
    · exact ⟨id, o, absent, by rw [split, first]; rfl, overflows⟩
    · rw [holds, Option.or_eq_none_iff, Option.map_eq_none_iff] at absent
      exact ⟨id, o, absent.1, by rw [split, absent.2, first]; rfl, overflows⟩

/-- The heir of a key is offered for it. -/
theorem heir_spec (found : r.heir now c keys target = some o) :
    (o.key ∈ keys ∧ o.entity ∈ r.offered now c o.key ∧ o.entity.isValidAt now = true) ∧
      o.target = target ∧ (c.slot target = none ∨ target ≤ o.key) := by
  have fits := List.find?_some found
  simp only [Bool.and_eq_true, beq_iff_eq, Bool.or_eq_true, decide_eq_true_eq,
    Option.isNone_iff_eq_none] at fits
  exact ⟨mem_offers.1 (List.mem_of_find?_eq_some found), fits⟩

/-- A key at which nothing valid is offered for another is nobody's heir. -/
theorem heir_singleton_eq_none
    (unoffered : ∀ e ∈ r.offered now c key, e.isValidAt now = true → standardKey e ≠ target) :
    r.heir now c [key] target = none := by
  rw [heir, List.find?_eq_none]
  intro o offered fits
  obtain ⟨among, left, valid⟩ := mem_offers.1 offered
  rw [List.mem_singleton.1 among] at left
  simp only [Bool.and_eq_true, beq_iff_eq] at fits
  exact unoffered o.entity left valid fits.1

/-- What is offered at a key after the turn of its target finds the target empty. -/
theorem heir_singleton (lone : r.offered now c key = [e]) (valid : e.isValidAt now = true)
    (later : c.slot (standardKey e) = none ∨ standardKey e ≤ key) :
    r.heir now c [key] (standardKey e) = some ⟨key, e⟩ := by
  have room : ((c.slot (standardKey e)).isNone || decide (standardKey e ≤ key)) = true := by
    simpa using later
  have kept : [e].filter (·.isValidAt now) = [e] := by simp [valid]
  rw [heir, offers_singleton, lone, kept]
  simp [Offer.target, room]

/-! ## Moving a copy -/

section Moving

variable {newKey : String} {bytes : List UInt8}

/-- A copy is dropped if the key it should have is taken. -/
theorem moved_of_taken (works : c.Works) (accepted : c.Accepts key) (accepted' : c.Accepts newKey)
    (found : c.slot key = some (.file bytes)) (taken : c.slot newKey ≠ none) :
    moved key newKey c = (c.remove key).2 := by
  rw [moved, PersistentCache.rename_of_taken works accepted accepted' found taken]

/-- Otherwise it is moved. -/
theorem becomes_moved (works : c.Works) (accepted : c.Accepts key) (accepted' : c.Accepts newKey)
    (found : c.slot key = some (.file bytes)) (free : c.slot newKey = none) :
    c.Becomes (moved key newKey c)
      (Function.update (Function.update c.slot key none) newKey (some (.file bytes))) := by
  obtain ⟨answer, renamed⟩ :=
    PersistentCache.becomes_rename works accepted accepted' found free
  have same : moved key newKey c = (c.rename key newKey).2 := by
    rw [moved]
    generalize c.rename key newKey = ran at answer
    obtain ⟨_, c'⟩ := ran
    obtain rfl := answer
    rfl
  rwa [same]

end Moving

/-! ## The turn of a key -/

section Turn

/-- Nobody inherits the place of a copy before its turn. -/
theorem heir_past_eq_none (before : ∀ k ∈ past, k < key) (stands : c.slot key ≠ none) :
    r.heir now c past key = none := by
  cases found : r.heir now c past key with
  | none => rfl
  | some o =>
    obtain ⟨⟨among, -⟩, -, free | later⟩ := heir_spec found
    · exact absurd free stands
    · exact absurd (before o.key among) (String.not_lt.2 later)

theorem settledSlot_of_stays (stays : r.Stays now c past key) :
    r.settledSlot now c past key = c.slot key := if_pos stays

theorem settledSlot_of_goes (goes : ¬ r.Stays now c past key) :
    r.settledSlot now c past key = (r.heir now c past key).bind fun o => c.slot o.key :=
  if_neg goes

/-- The turn of one key does not decide whether the copy under another stays. -/
theorem stays_append_iff {other : String} (foreign : other ≠ key) :
    r.Stays now c (past ++ [key]) other ↔ r.Stays now c past other := by
  simp [Stays, foreign]

/-- At its turn a copy that offers something goes, unless it is its own heir. -/
theorem settledSlot_append_self (before : ∀ k ∈ past, k < key) (stands : c.slot key ≠ none)
    (some_left : r.offered now c key ≠ []) :
    r.settledSlot now c (past ++ [key]) key
      = (r.heir now c [key] key).bind fun o => c.slot o.key := by
  have goes : ¬ r.Stays now c (past ++ [key]) key := by simp [Stays, some_left]
  rw [settledSlot_of_goes goes, heir_append, heir_past_eq_none before stands, Option.none_or]

/-- The turn of a key is of no consequence for another for which nothing is offered there. -/
theorem settledSlot_append_of_unheired {other : String} (foreign : other ≠ key)
    (unheired : r.heir now c [key] other = none) :
    r.settledSlot now c (past ++ [key]) other = r.settledSlot now c past other := by
  by_cases stays : r.Stays now c past other
  · rw [settledSlot_of_stays stays, settledSlot_of_stays ((stays_append_iff foreign).2 stays)]
  · rw [settledSlot_of_goes stays, settledSlot_of_goes (mt (stays_append_iff foreign).1 stays),
      heir_append, unheired, Option.or_none]

/-- Nor is it for one that is taken. -/
theorem settledSlot_append_of_taken {other : String} (foreign : other ≠ key)
    (taken : r.settledSlot now c past other ≠ none) :
    r.settledSlot now c (past ++ [key]) other = r.settledSlot now c past other := by
  by_cases stays : r.Stays now c past other
  · rw [settledSlot_of_stays stays, settledSlot_of_stays ((stays_append_iff foreign).2 stays)]
  · rw [settledSlot_of_goes stays] at taken ⊢
    rw [settledSlot_of_goes (mt (stays_append_iff foreign).1 stays), heir_append]
    cases found : r.heir now c past other with
    | none =>
      rw [found] at taken
      exact absurd rfl taken
    | some o => rw [Option.some_or]

/-- A copy that is offered for a key which is free comes to stand there. -/
theorem settledSlot_append_of_free (lone : r.offered now c key = [e])
    (valid : e.isValidAt now = true) (foreign : standardKey e ≠ key)
    (before : ∀ k ∈ past, k < key) (stands : ∀ k ∈ past, c.slot k ≠ none)
    (free : r.settledSlot now c past (standardKey e) = none) :
    r.settledSlot now c (past ++ [key]) (standardKey e) = c.slot key := by
  have goes : ¬ r.Stays now c past (standardKey e) := by
    intro stays
    rw [settledSlot_of_stays stays] at free
    exact stays.1 free
  have unheired : r.heir now c past (standardKey e) = none := by
    rw [settledSlot_of_goes goes] at free
    cases found : r.heir now c past (standardKey e) with
    | none => rfl
    | some o =>
      rw [found] at free
      exact absurd free (stands o.key (heir_spec found).1.1)
  -- What stood there at first is gone, so its turn has come.
  have later : c.slot (standardKey e) = none ∨ standardKey e ≤ key := by
    by_cases nothing : c.slot (standardKey e) = none
    · exact .inl nothing
    · refine .inr (Std.le_of_lt (before _ ?_))
      by_contra ahead
      exact goes ⟨nothing, .inl ahead⟩
  rw [settledSlot_of_goes (mt (stays_append_iff foreign).1 goes), heir_append, unheired,
    Option.none_or, heir_singleton lone valid later]
  rfl

/-- What is elsewhere stays, if nothing valid is offered for it. -/
theorem settledSlot_append_of_ne (lone : r.offered now c key = [e]) {other : String}
    (foreign : other ≠ key) (unnamed : e.isValidAt now = true → standardKey e ≠ other) :
    r.settledSlot now c (past ++ [key]) other = r.settledSlot now c past other := by
  refine settledSlot_append_of_unheired foreign (heir_singleton_eq_none ?_)
  simpa [lone] using unnamed

/-- A cache can work with a key under which something is offered. -/
theorem accepts_of_lone (works : c.Works) (becomes : c.Becomes c' slots)
    (lone : r.offered now c key = [e]) : c'.Accepts key := by
  have some_left : r.offered now c key ≠ [] := by simp [lone]
  obtain ⟨copy, kept⟩ := exists_keeps_of_offered some_left
  exact (becomes.accepts key).2 ((PersistentCache.keeps_iff works).1 kept).1

end Turn

/-! ### What becomes of a copy

The cache is settled for the keys that come before, and the turn of the next one has come. -/

section Copy

variable {bytes : List UInt8} (works : c.Works) (becomes : c.Becomes c' (r.settledSlot now c past))
  (before : ∀ k ∈ past, k < key) (found : c.slot key = some (.file bytes))

include before found

/-- The copy has not been touched. -/
theorem settledSlot_past_self : r.settledSlot now c past key = c.slot key := by
  have ahead : key ∉ past := fun among => String.lt_irrefl key (before key among)
  exact settledSlot_of_stays ⟨by simp [found], .inl ahead⟩

include becomes

/-- If nothing is left of the copy, it stays. -/
theorem becomes_of_unoffered (unoffered : r.offered now c key = []) :
    c.Becomes c' (r.settledSlot now c (past ++ [key])) := by
  refine ⟨becomes.works, becomes.accepts, becomes.slot.trans (funext fun other => ?_)⟩
  by_cases own : other = key
  · rw [own, settledSlot_past_self before found,
      settledSlot_of_stays ⟨by simp [found], .inr unoffered⟩]
  · refine (settledSlot_append_of_unheired own (heir_singleton_eq_none ?_)).symm
    simp [unoffered]

/-- So does a valid copy that stands under its own key. -/
theorem becomes_of_own (lone : r.offered now c key = [e]) (valid : e.isValidAt now = true)
    (own : standardKey e = key) : c.Becomes c' (r.settledSlot now c (past ++ [key])) := by
  refine ⟨becomes.works, becomes.accepts, becomes.slot.trans (funext fun other => ?_)⟩
  by_cases mine : other = key
  · have heir := heir_singleton lone valid (.inr (own ▸ String.le_refl _))
    rw [own] at heir
    rw [mine, settledSlot_past_self before found,
      settledSlot_append_self before (by simp [found]) (by simp [lone]), heir]
    rfl
  · exact (settledSlot_append_of_ne lone mine fun _ => own ▸ Ne.symm mine).symm

include works

/-- If the copy goes and moves nowhere, its key is free and all others are as they were. -/
theorem becomes_of_gone (lone : r.offered now c key = [e])
    (unowned : e.isValidAt now = true → standardKey e ≠ key)
    (unmoved : ∀ other, other ≠ key →
      r.settledSlot now c (past ++ [key]) other = r.settledSlot now c past other) :
    c.Becomes (c'.remove key).2 (r.settledSlot now c (past ++ [key])) := by
  have file : c'.slot key ≠ some .folder := by
    rw [becomes.slot, settledSlot_past_self before found, found]
    simp
  have removed := PersistentCache.becomes_remove becomes.works
    (accepts_of_lone works becomes lone) file
  refine ⟨removed.works, (becomes.trans removed).accepts,
    removed.slot.trans (funext fun other => ?_)⟩
  rw [Function.update_apply, becomes.slot]
  split
  · rename_i own
    rw [own, settledSlot_append_self before (by simp [found]) (by simp [lone]),
      heir_singleton_eq_none]
    · rfl
    · simpa [lone] using unowned
  · rename_i foreign
    exact (unmoved other foreign).symm

/-- A valid copy under another key than its own is moved if its key is free. -/
theorem becomes_of_free (stands : ∀ k ∈ past, c.slot k ≠ none)
    (lone : r.offered now c key = [e]) (valid : e.isValidAt now = true)
    (foreign : standardKey e ≠ key) (free : r.settledSlot now c past (standardKey e) = none) :
    c.Becomes (moved key (standardKey e) c') (r.settledSlot now c (past ++ [key])) := by
  have found' : c'.slot key = some (.file bytes) := by
    rw [becomes.slot, settledSlot_past_self before found, found]
  have free' : c'.slot (standardKey e) = none := by rw [becomes.slot, free]
  have renamed := becomes_moved becomes.works (accepts_of_lone works becomes lone)
    (c'.accepts_standardKey e) found' free'
  refine ⟨renamed.works, (becomes.trans renamed).accepts,
    renamed.slot.trans (funext fun other => ?_)⟩
  rw [Function.update_apply, Function.update_apply, becomes.slot]
  split
  · rename_i named
    rw [named, settledSlot_append_of_free lone valid foreign before stands free, found]
  · rename_i unnamed
    split
    · rename_i mine
      rw [mine, settledSlot_append_self before (by simp [found]) (by simp [lone]),
        heir_singleton_eq_none]
      · rfl
      · simpa [lone, valid] using foreign
    · rename_i mine
      exact (settledSlot_append_of_ne lone mine fun _ => Ne.symm unnamed).symm

/-- It is dropped if its key is taken. -/
theorem becomes_of_taken (lone : r.offered now c key = [e]) (foreign : standardKey e ≠ key)
    (taken : r.settledSlot now c past (standardKey e) ≠ none) :
    c.Becomes (moved key (standardKey e) c') (r.settledSlot now c (past ++ [key])) := by
  have found' : c'.slot key = some (.file bytes) := by
    rw [becomes.slot, settledSlot_past_self before found, found]
  have taken' : c'.slot (standardKey e) ≠ none := by rwa [becomes.slot]
  rw [moved_of_taken becomes.works (accepts_of_lone works becomes lone)
    (c'.accepts_standardKey e) found' taken']
  refine becomes_of_gone works becomes before found lone (fun _ => foreign) fun other elsewhere => ?_
  by_cases named : other = standardKey e
  · rw [named]
    exact settledSlot_append_of_taken foreign taken
  · exact settledSlot_append_of_ne lone elsewhere fun _ => Ne.symm named

/-- **What becomes of the cache when the turn of a key comes**: what the key offers is what it
offered at first, and the cache is settled for one more key. -/
theorem becomes_tidyKey (standard : p.keyOf = standardKey) (builtIn : r.warmFilters.IsBuiltIn)
    (stands : ∀ k ∈ past, c.slot k ≠ none) :
    r.offered now c' key = r.offered now c key ∧
      c.Becomes (r.tidyKey p now c' key) (r.settledSlot now c (past ++ [key])) := by
  have same : r.offered now c' key = r.offered now c key :=
    offered_congr fun _ => becomes.keeps_iff works (settledSlot_past_self before found)
  refine ⟨same, ?_⟩
  rw [tidyKey, same]
  rcases offered_lone builtIn now c key with unoffered | ⟨e, lone⟩
  · rw [unoffered]
    exact becomes_of_unoffered becomes before found unoffered
  rw [lone, List.foldl_cons, List.foldl_nil, tidied, standard]
  cases valid : e.isValidAt now with
  | false =>
    refine becomes_of_gone works becomes before found lone (by simp [valid]) fun other foreign => ?_
    exact settledSlot_append_of_ne lone foreign (by simp [valid])
  | true =>
    simp only [Bool.not_true, Bool.false_eq_true, if_false]
    by_cases own : standardKey e = key
    · rw [if_pos own]
      exact becomes_of_own becomes before found lone valid own
    · rw [if_neg own]
      by_cases free : r.settledSlot now c past (standardKey e) = none
      · exact becomes_of_free works becomes before found stands lone valid own free
      · exact becomes_of_taken works becomes before found lone own free

end Copy

/-! ## The loop -/

theorem run_dropKey (key : String) (s : ResolverState ε) :
    (dropKey key).run s = (.ok (), { s with cache := (s.cache.remove key).2 }) := by
  rw [dropKey, run_then, run_onCache_attempt]
  rfl

theorem run_moveKey (key expected : String) (s : ResolverState ε) :
    (moveKey key expected).run s = (.ok (), { s with cache := moved key expected s.cache }) := by
  rw [moveKey, run_then, run_onCache_attempt, proceed_ok, moved]
  generalize s.cache.rename key expected = ran
  obtain ⟨answer, cache⟩ := ran
  cases answer with
  | ok found => rfl
  | error failure =>
    cases failure with
    | alreadyExists taken => exact run_dropKey key { s with cache := cache }
    | _ => rfl

theorem run_readKey (r : Resolver ε) (now : Instant) (key : String) (s : ResolverState ε) :
    (r.readKey now key).run s = (.ok (r.offered now s.cache key), s) := by
  rw [readKey, run_then, run_onCache_attempt, proceed_ok, offered, PersistentCache.load_snd]
  cases (s.cache.load key).1 with
  | error failure => rfl
  | ok found =>
    cases found with
    | none => rfl
    | some copy =>
      dsimp only
      rw [admitted]
      cases FilterChain.apply ⟨now, r.id⟩ r.warmFilters (.entity copy) with
      | error failure => rfl
      | ok left => cases left <;> rfl

/-- What is done with the copy under a key comes before what is done with the description that it
offers. -/
theorem run_loadEntity (r : Resolver ε) (p : Persistence) (now : Instant) (key : String)
    (e : Entity) (s : ResolverState ε) :
    (r.loadEntity p now key e).run s =
      let m := { s with cache := tidied p now key s.cache e }
      if !e.isValidAt now || s.store.contains e.entityId then (.ok false, m)
      else proceed (fun taken => pure !taken.isEmpty)
        ((r.insertRecords e.entityId [e] now).run m) := by
  rw [loadEntity, tidied]
  cases e.isValidAt now with
  | false =>
    simp only [Bool.not_false, if_true, run_then, run_dropKey, proceed_ok, Bool.true_or]
    rfl
  | true =>
    simp only [Bool.not_true, Bool.false_eq_true, if_false, Bool.false_or]
    by_cases own : p.keyOf e = key
    · simp only [own, ne_eq, not_true_eq_false, if_false, if_true, run_then, run_read, proceed_ok]
      cases s.store.contains e.entityId
      · exact run_then _ _ _
      · rfl
    · simp only [ne_eq, own, not_false_eq_true, if_true, if_false, run_then, run_moveKey, run_read,
        proceed_ok]
      cases s.store.contains e.entityId
      · exact run_then _ _ _
      · rfl

theorem isSome_held {store : BackingStore} :
    (store.held id).isSome = store.contains id := by
  rw [BackingStore.held, Option.isSome_map]
  rfl

theorem held_insert {store : BackingStore} {records : List CacheRecord} (some_made : records ≠ [])
    (other : String) : (store.insert id records).held other
      = if other = id then some (records.map (·.entity)) else store.held other := by
  rw [BackingStore.held, BackingStore.held, BackingStore.find?_insert]
  by_cases same : other = id <;> simp [same, some_made]

/-- Exactly a description that would come in and is out of range keeps the loop from going on. The
entity comes in unless it is there already. -/
theorem exists_run_loadEntity (r : Resolver ε) (p : Persistence) (now : Instant) (key : String)
    (e : Entity) (s : ResolverState ε) :
    (((r.loadEntity p now key e).run s).1 = .overflow ∧
        ((r.loadEntity p now key e).run s).2.cache = tidied p now key s.cache e ∧
        e.isValidAt now = true ∧ s.store.held e.entityId = none ∧
        r.policy.record e now = .overflow) ∨
      ∃ taken store negative, (r.loadEntity p now key e).run s
          = (.ok taken, { s with
              store := store
              negative := negative
              cache := tidied p now key s.cache e }) ∧
        (e.isValidAt now = true → s.store.held e.entityId = none →
          r.policy.record e now ≠ .overflow) ∧
        ∀ id, store.held id = (s.store.held id).or
          (if e.isValidAt now && e.entityId == id then some [e.withoutWireForm] else none) := by
  rw [run_loadEntity]
  dsimp only
  cases valid : e.isValidAt now with
  | false =>
    -- It is not valid at the time, and nothing is made of it.
    refine .inr ⟨false, s.store, s.negative, rfl, nofun, fun id => ?_⟩
    simp
  | true =>
    cases held : s.store.contains e.entityId with
    | true =>
      -- What the store holds takes precedence over a copy.
      have present : (s.store.held e.entityId).isSome = true := isSome_held.trans held
      refine .inr ⟨false, s.store, s.negative, rfl, fun _ absent => ?_, fun id => ?_⟩
      · rw [absent] at present
        cases present
      · by_cases same : e.entityId = id
        · rw [Option.or_of_isSome (same ▸ present)]
        · simp [same]
    | false =>
      have absent : s.store.held e.entityId = none := by
        rw [← Option.not_isSome_iff_eq_none, isSome_held, held]
        simp
      cases recorded : r.policy.records now [e] with
      | failed failure => exact absurd recorded (CachePolicy.records_ne_failed failure)
      | overflow =>
        have ran (m : ResolverState ε) :
            (r.insertRecords e.entityId [e] now).run m = (.overflow, m) := by
          rw [insertRecords, recorded]
          rfl
        obtain ⟨other, listed, overflows⟩ := CachePolicy.records_eq_overflow_iff.1 recorded
        obtain rfl := List.mem_singleton.1 listed
        rw [Bool.not_true, Bool.or_self, if_neg Bool.false_ne_true, ran]
        exact .inl ⟨rfl, rfl, rfl, absent, overflows⟩
      | ok records =>
        have made : records.map (·.entity) = [e.withoutWireForm] := by
          rw [CachePolicy.map_entity_records recorded]
          simp [valid]
        have some_made : records ≠ [] := by
          rintro rfl
          cases made
        refine .inr ⟨true, s.store.insert e.entityId records, s.negative.erase e.entityId, ?_,
          fun _ _ overflows => ?_, fun id => ?_⟩
        · rw [run_insertRecords r recorded, if_neg some_made, made]
          rfl
        · rw [CachePolicy.records_eq_overflow_iff.2 ⟨e, List.mem_singleton_self e, overflows⟩]
            at recorded
          cases recorded
        · rw [held_insert some_made]
          by_cases same : id = e.entityId
          · simp [same, absent, made]
          · simp [same, Ne.symm same]

/-- The turn of a key, for filters of this library. -/
theorem exists_run_takeKey (r : Resolver ε) (p : Persistence) (builtIn : r.warmFilters.IsBuiltIn)
    (now : Instant) (key : String) (s : ResolverState ε) :
    let turn := (Task.collect (r.offered now s.cache key) (r.loadEntity p now key)).run s
    (turn.1 = .overflow ∧ turn.2.cache = r.tidyKey p now s.cache key ∧
        r.Obstructed now s.store s.cache [key]) ∨
      ∃ taken store negative, turn = (.ok taken, { s with
            store := store
            negative := negative
            cache := r.tidyKey p now s.cache key }) ∧
        ¬ r.Obstructed now s.store s.cache [key] ∧
        ∀ id, store.held id = (s.store.held id).or
          ((r.firstOffer now s.cache [key] id).map fun o => [o.entity.withoutWireForm]) := by
  intro turn
  simp only [turn, tidyKey]
  rcases offered_lone builtIn now s.cache key with unoffered | ⟨e, lone⟩
  · -- Nothing is offered, and nothing happens.
    have none_first (id : String) : r.firstOffer now s.cache [key] id = none := by
      simp [firstOffer, offers_singleton, unoffered]
    rw [unoffered]
    refine .inr ⟨[], s.store, s.negative, rfl, ?_, fun id => ?_⟩
    · rintro ⟨id, o, -, first, -⟩
      cases (none_first id).symm.trans first
    · rw [none_first, Option.map_none, Option.or_none]
  · -- One description is offered. It is the first for its entity if it is valid, and for no other.
    have first (id : String) : r.firstOffer now s.cache [key] id
        = if e.isValidAt now && e.entityId == id then some ⟨key, e⟩ else none := by
      rw [firstOffer, offers_singleton, lone]
      cases valid : e.isValidAt now <;> cases same : e.entityId == id <;> simp [valid, same]
    rw [lone, Task.collect, run_bind]
    rcases exists_run_loadEntity r p now key e s with
      ⟨overflowed, turned, valid, absent, overflows⟩ | ⟨taken, store, negative, ran, clear, holds⟩
    · refine .inl ⟨proceed_of_overflow overflowed, ?_, e.entityId, ⟨key, e⟩, absent, ?_, overflows⟩
      · rw [proceed_snd_of_overflow overflowed, turned]
        rfl
      · rw [first, valid]
        simp
    · refine .inr ⟨[taken], store, negative, by rw [ran]; rfl, ?_, fun id => ?_⟩
      · rintro ⟨id, o, absent, offer, overflows⟩
        rw [first, Option.ite_none_right_eq_some, Bool.and_eq_true, beq_iff_eq] at offer
        obtain ⟨⟨valid, rfl⟩, same⟩ := offer
        obtain rfl := Option.some_inj.1 same
        exact clear valid absent overflows
      · rw [holds, first]
        split <;> rfl

theorem run_loadKeys_cons (r : Resolver ε) (p : Persistence) (rest : List String)
    (alive : s.lifecycle ≠ .destroyed) :
    (r.loadKeys p now (key :: rest)).run s =
      proceed (fun taken => r.loadKeys p now rest >>= fun others => pure (taken.count true + others))
        ((Task.collect (r.offered now s.cache key) (r.loadEntity p now key)).run s) := by
  rw [loadKeys, run_then, run_read, proceed_ok, if_neg alive, run_then, run_readKey, proceed_ok,
    run_then]

/-- **The loop over the keys.** Where the cache is settled for some keys, it is settled in the end
for those that follow as well, and what they offer first has come into the store. If the way is
obstructed, the loop ends there, with the cache settled for the keys up to that one. -/
theorem exists_run_loadKeys (standard : p.keyOf = standardKey) (builtIn : r.warmFilters.IsBuiltIn)
    (works : c.Works) {todo : List String} (sorted : (past ++ todo).Pairwise (· < ·))
    (files : ∀ k ∈ past ++ todo, ∃ bytes, c.slot k = some (.file bytes))
    (becomes : c.Becomes s.cache (r.settledSlot now c past)) (alive : s.lifecycle ≠ .destroyed) :
    (((r.loadKeys p now todo).run s).1 = .overflow ∧ ∃ before key rest,
        todo = before ++ key :: rest ∧ r.ObstructedAt now s.store c before key ∧
        c.Becomes ((r.loadKeys p now todo).run s).2.cache
          (r.settledSlot now c (past ++ (before ++ [key])))) ∨
      ∃ loaded store negative cache, (r.loadKeys p now todo).run s
          = (.ok loaded, { s with store := store, negative := negative, cache := cache }) ∧
        c.Becomes cache (r.settledSlot now c (past ++ todo)) ∧ ¬ r.Obstructed now s.store c todo ∧
        ∀ id, store.held id = (s.store.held id).or
          ((r.firstOffer now c todo id).map fun o => [o.entity.withoutWireForm]) := by
  induction todo generalizing past s with
  | nil =>
    refine .inr ⟨0, s.store, s.negative, s.cache, rfl, by rwa [List.append_nil],
      not_obstructed_nil, fun id => ?_⟩
    simp [firstOffer, offers]
  | cons key rest ih =>
    -- The keys come in order, so that those gone through are lower than this one.
    have before : ∀ k ∈ past, k < key := fun k among =>
      (List.pairwise_append.1 sorted).2.2 k among key List.mem_cons_self
    have stands : ∀ k ∈ past, c.slot k ≠ none := by
      intro k among
      obtain ⟨bytes, found⟩ := files k (List.mem_append_left _ among)
      simp [found]
    obtain ⟨bytes, found⟩ := files key (by simp)
    obtain ⟨same, tidy⟩ := becomes_tidyKey works becomes before found standard builtIn stands
    -- Tidying up has not touched this key, which offers what it did at the start.
    have turned : r.offers now s.cache [key] = r.offers now c [key] := by
      rw [offers_singleton, offers_singleton, same]
    have offer : r.firstOffer now s.cache [key] = r.firstOffer now c [key] := by
      funext id
      rw [firstOffer, firstOffer, turned]
    have blocks : r.Obstructed now s.store s.cache [key] ↔ r.Obstructed now s.store c [key] := by
      rw [Obstructed, Obstructed, offer]
    rw [run_loadKeys_cons r p rest alive]
    rcases exists_run_takeKey r p builtIn now key s with
      ⟨overflowed, turned, obstructed⟩ | ⟨taken, store, negative, ran, clear, holds⟩
    · refine .inl ⟨proceed_of_overflow overflowed, [], key, rest, rfl,
        ⟨not_obstructed_nil, blocks.1 obstructed⟩, ?_⟩
      rw [proceed_snd_of_overflow overflowed, turned]
      exact tidy
    rw [offer] at holds
    have whole (later : List String) : r.Obstructed now s.store c (key :: later) ↔
        r.Obstructed now s.store c [key] ∨ r.Obstructed now store c later :=
      obstructed_cons_iff holds
    have passed {later : List String} (further : ¬ r.Obstructed now store c later) :
        ¬ r.Obstructed now s.store c (key :: later) :=
      fun obstructed => ((whole later).1 obstructed).elim (clear ∘ blocks.2) further
    rw [ran, proceed_ok, run_then]
    have sorted' : ((past ++ [key]) ++ rest).Pairwise (· < ·) := by simpa using sorted
    have files' : ∀ k ∈ (past ++ [key]) ++ rest, ∃ bytes, c.slot k = some (.file bytes) := by
      simpa using files
    rcases ih (s := { s with
        store := store
        negative := negative
        cache := r.tidyKey p now s.cache key }) sorted' files' tidy alive with
      ⟨overflowed, earlier, last, later, rfl, halted, becomes'⟩ |
        ⟨others, store', negative', cache, ran', becomes', clear', holds'⟩
    · refine .inl ⟨proceed_of_overflow overflowed, key :: earlier, last, later, rfl,
        ⟨passed halted.clear, (whole _).2 (.inr halted.blocked)⟩, ?_⟩
      rw [proceed_snd_of_overflow overflowed]
      simpa using becomes'
    refine .inr ⟨taken.count true + others, store', negative', cache, by rw [ran']; rfl,
      by simpa using becomes', passed clear', fun id => ?_⟩
    -- The first offer wins: a key counts only where no lower one has offered anything.
    rw [holds', holds, Option.or_assoc, ← Option.map_or, ← firstOffer_append]
    rfl

/-! ## A warm start -/

section Keys

theorem sortedKeys_eq (listed : c.list = (.ok keys, c)) :
    c.sortedKeys = keys.mergeSort fun a b => a ≤ b := by
  rw [PersistentCache.sortedKeys, listed]

theorem mem_sortedKeys_iff (listed : c.list = (.ok keys, c)) :
    key ∈ c.sortedKeys ↔ key ∈ keys := by
  rw [sortedKeys_eq listed, List.mem_mergeSort]

theorem pairwise_sortedKeys (works : c.Works) : c.sortedKeys.Pairwise (· < ·) := by
  obtain ⟨keys, listed, distinct, -⟩ := PersistentCache.exists_list works
  have nodup : c.sortedKeys.Nodup := by
    rw [sortedKeys_eq listed, (List.mergeSort_perm _ _).nodup_iff]
    exact distinct
  have ordered : c.sortedKeys.Pairwise (· ≤ ·) := by
    rw [sortedKeys_eq listed]
    exact List.pairwise_mergeSort' (· ≤ ·) keys
  exact (ordered.and nodup).imp fun both => Std.lt_of_le_of_ne both.1 both.2

theorem exists_file_of_mem_sortedKeys (works : c.Works) (later : key ∈ c.sortedKeys) :
    ∃ bytes, c.slot key = some (.file bytes) := by
  obtain ⟨keys, listed, -, files, -⟩ := PersistentCache.exists_list works
  exact files key ((mem_sortedKeys_iff listed).1 later)

theorem mem_sortedKeys_of_keeps (works : c.Works) (kept : c.Keeps key e) : key ∈ c.sortedKeys := by
  obtain ⟨keys, listed, -, -, complete⟩ := PersistentCache.exists_list works
  obtain ⟨accepted, bytes, found, -⟩ := (PersistentCache.keeps_iff works).1 kept
  exact (mem_sortedKeys_iff listed).2 (complete key bytes accepted found)

/-- Where nothing stands but one copy, its key is the only one. -/
theorem sortedKeys_of_lone (works : c.Works) (kept : c.Keeps key e)
    (others : ∀ other, other ≠ key → c.slot other = none) : c.sortedKeys = [key] := by
  have same (other : String) (later : other ∈ c.sortedKeys) : other = key := by
    by_contra foreign
    obtain ⟨bytes, found⟩ := exists_file_of_mem_sortedKeys works later
    rw [others other foreign] at found
    cases found
  have listed := mem_sortedKeys_of_keeps works kept
  have sorted := pairwise_sortedKeys works
  rcases keys : c.sortedKeys with _ | ⟨first, _ | ⟨second, rest⟩⟩
  · rw [keys] at listed
    cases listed
  · rw [same first (by simp [keys])]
  · -- Of two keys the second one would come after the first, which is the same.
    rw [keys, same first (by simp [keys]), same second (by simp [keys])] at sorted
    exact absurd (List.rel_of_pairwise_cons sorted List.mem_cons_self) (String.lt_irrefl key)

end Keys

/-- Once all keys are done with, a copy is where it was if nothing is offered there. -/
theorem stays_sortedKeys_iff (works : c.Works) :
    r.Stays now c c.sortedKeys key ↔ c.slot key ≠ none ∧ r.offered now c key = [] := by
  constructor
  · rintro ⟨stands, unlisted | unoffered⟩
    · refine ⟨stands, ?_⟩
      by_contra some_left
      obtain ⟨copy, kept⟩ := exists_keeps_of_offered some_left
      exact unlisted (mem_sortedKeys_of_keeps works kept)
    · exact ⟨stands, unoffered⟩
  · rintro ⟨stands, unoffered⟩
    exact ⟨stands, .inr unoffered⟩

/-- A warm start goes through the keys in order. -/
theorem run_loadCache (r : Resolver ε) (persistent : r.persistence = some p)
    (works : s.cache.Works) :
    r.loadCache.run s = proceed (fun loaded => r.gaugeSize >>= fun _ => pure loaded)
      ((r.loadKeys p s.now s.cache.sortedKeys).run s) := by
  obtain ⟨keys, listed, -⟩ := PersistentCache.exists_list works
  rw [loadCache, persistent]
  dsimp only
  rw [run_then, run_onCache_attempt, proceed_ok, sortedKeys_eq listed, listed]
  dsimp only
  rw [run_then, run_read, proceed_ok, run_then]

/-- A warm start comes to an end unless its way is obstructed. Then the cache is settled for all its
keys, and what has come into the store is the first offer for every entity that was not there.
Otherwise it is settled for the keys up to the one where the way is obstructed, and the later ones
are as they were. -/
theorem exists_run_loadCache_or (r : Resolver ε) (persistent : r.persistence = some p)
    (standard : p.keyOf = standardKey) (builtIn : r.warmFilters.IsBuiltIn) (works : s.cache.Works)
    (alive : s.lifecycle ≠ .destroyed) :
    ((r.loadCache.run s).1 = .overflow ∧ ∃ before key rest,
        s.cache.sortedKeys = before ++ key :: rest ∧
        r.ObstructedAt s.now s.store s.cache before key ∧
        s.cache.Becomes (r.loadCache.run s).2.cache
          (r.settledSlot s.now s.cache (before ++ [key]))) ∨
      ((∃ loaded, (r.loadCache.run s).1 = .ok loaded) ∧
        s.cache.Becomes (r.loadCache.run s).2.cache
          (r.settledSlot s.now s.cache s.cache.sortedKeys) ∧
        ¬ r.Obstructed s.now s.store s.cache s.cache.sortedKeys ∧
        ∀ id, (r.loadCache.run s).2.store.held id = (s.store.held id).or
          ((r.firstOffer s.now s.cache s.cache.sortedKeys id).map fun o =>
            [o.entity.withoutWireForm])) := by
  rw [run_loadCache r persistent works]
  -- Before the first turn the cache is settled for no key: everything stands where it stood.
  have unturned : s.cache.slot = r.settledSlot s.now s.cache [] := by
    funext key
    by_cases stands : s.cache.slot key = none
    · have goes : ¬ r.Stays s.now s.cache [] key := fun stays => stays.1 stands
      rw [settledSlot_of_goes goes, stands]
      rfl
    · exact (settledSlot_of_stays ⟨stands, .inl List.not_mem_nil⟩).symm
  have begun : s.cache.Becomes s.cache (r.settledSlot s.now s.cache []) :=
    unturned ▸ PersistentCache.becomes_self works
  have sorted : ([] ++ s.cache.sortedKeys).Pairwise (· < ·) := pairwise_sortedKeys works
  have files : ∀ key ∈ [] ++ s.cache.sortedKeys, ∃ bytes, s.cache.slot key = some (.file bytes) :=
    fun key later => exists_file_of_mem_sortedKeys works later
  rcases exists_run_loadKeys standard builtIn works sorted files begun alive with
    ⟨overflowed, before, key, rest, split, halted, becomes⟩ |
      ⟨loaded, store, negative, cache, ran, becomes, clear, holds⟩
  · refine .inl ⟨proceed_of_overflow overflowed, before, key, rest, split, halted, ?_⟩
    rw [proceed_snd_of_overflow overflowed]
    exact becomes
  · rw [ran]
    exact .inr ⟨⟨loaded, rfl⟩, becomes, clear, holds⟩

/-- **The cache and the store after a warm start** that comes to an end. -/
theorem exists_run_loadCache (r : Resolver ε) (persistent : r.persistence = some p)
    (standard : p.keyOf = standardKey) (builtIn : r.warmFilters.IsBuiltIn) (works : s.cache.Works)
    (alive : s.lifecycle ≠ .destroyed) (ends : (r.loadCache.run s).1 ≠ .overflow) :
    (∃ loaded, (r.loadCache.run s).1 = .ok loaded) ∧
      s.cache.Becomes (r.loadCache.run s).2.cache
        (r.settledSlot s.now s.cache s.cache.sortedKeys) ∧
      ∀ id, (r.loadCache.run s).2.store.held id = (s.store.held id).or
        ((r.firstOffer s.now s.cache s.cache.sortedKeys id).map fun o =>
          [o.entity.withoutWireForm]) := by
  rcases exists_run_loadCache_or r persistent standard builtIn works alive with
    ⟨overflowed, -⟩ | ⟨loaded, becomes, -, holds⟩
  · exact absurd overflowed ends
  · exact ⟨loaded, becomes, holds⟩

/-- **Which warm starts are cut short.** -/
theorem run_loadCache_eq_overflow_iff (r : Resolver ε) (persistent : r.persistence = some p)
    (standard : p.keyOf = standardKey) (builtIn : r.warmFilters.IsBuiltIn) (works : s.cache.Works)
    (alive : s.lifecycle ≠ .destroyed) :
    (r.loadCache.run s).1 = .overflow ↔ r.Obstructed s.now s.store s.cache s.cache.sortedKeys := by
  rcases exists_run_loadCache_or r persistent standard builtIn works alive with
    ⟨overflowed, before, key, rest, split, halted, -⟩ | ⟨⟨loaded, ran⟩, -, clear, -⟩
  · exact iff_of_true overflowed (split ▸ halted.obstructed)
  · exact iff_of_false (by simp [ran]) clear

/-- Where the way is obstructed by the first key of all, the cache is settled for no other. -/
theorem becomes_of_obstructed (r : Resolver ε) (persistent : r.persistence = some p)
    (standard : p.keyOf = standardKey) (builtIn : r.warmFilters.IsBuiltIn) (works : s.cache.Works)
    (alive : s.lifecycle ≠ .destroyed) {rest : List String}
    (listed : s.cache.sortedKeys = key :: rest)
    (obstructed : r.Obstructed s.now s.store s.cache [key]) :
    (r.loadCache.run s).1 = .overflow ∧
      s.cache.Becomes (r.loadCache.run s).2.cache (r.settledSlot s.now s.cache [key]) := by
  rcases exists_run_loadCache_or r persistent standard builtIn works alive with
    ⟨overflowed, before, last, later, split, halted, becomes⟩ | ⟨-, -, clear, -⟩
  · -- The way cannot be clear for more keys than these.
    rw [listed] at split
    cases before with
    | nil =>
      obtain rfl : key = last := (List.cons.inj split).1
      exact ⟨overflowed, becomes⟩
    | cons first others =>
      obtain rfl : key = first := (List.cons.inj split).1
      exact absurd (obstructed.append others) halted.clear
  · rw [listed] at clear
    exact absurd (obstructed.append rest) clear

/-- A warm start comes to an end where everything that is offered is in range. -/
theorem ends_loadCache (r : Resolver ε) (persistent : r.persistence = some p)
    (standard : p.keyOf = standardKey) (builtIn : r.warmFilters.IsBuiltIn) (works : s.cache.Works)
    (alive : s.lifecycle ≠ .destroyed) (inRange : ∀ o ∈ r.offers s.now s.cache s.cache.sortedKeys,
      r.policy.record o.entity s.now ≠ .overflow) : (r.loadCache.run s).1 ≠ .overflow := by
  rw [ne_eq, run_loadCache_eq_overflow_iff r persistent standard builtIn works alive]
  rintro ⟨id, o, -, first, overflows⟩
  exact inRange o (mem_offers_of_firstOffer first) overflows

end Resolver

end Federation
