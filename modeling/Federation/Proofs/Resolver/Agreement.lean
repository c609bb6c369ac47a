/-
# Does the store agree with the cache after a warm start?

What comes in of an entity at a warm start is the first offer for it. What stands under its key in
the end is the copy of the first offer for the key which finds it empty. Where both describe the
entity alike the store agrees with the cache. They need not: if a copy under an old key has its turn
before the proper key, or what stands there is nothing that the filters let through, the entity
comes in from that copy, which is then dropped because the key is taken.

## Main definitions

- `Resolver.Agrees`: of what is stored of an entity there is a copy under its key.

## Main results

- `descriptionsOf_loadCache`: what is stored after a warm start from an empty store.
- `agrees_iff`: when the store agrees with the cache.
- `misfiled_copy_wins`: an old copy that is stored in place of the one under the proper key.
-/

import Federation.Proofs.Resolver.Tidying

namespace Federation.Resolver

open Federation.Metadata Federation.Time Federation.Task

variable {ε : Type} {r : Resolver ε} {p : Persistence} {now : Instant} {c c' : PersistentCache}
  {key id : String} {e copy : Entity} {o o' : Offer} {s : ResolverState ε}

/-- Every description that is stored of an entity has a copy under its key, of which the filters of
a warm start leave just that description. -/
def Agrees (r : Resolver ε) (now : Instant) (s : ResolverState ε) (id : String) : Prop :=
  ∀ e ∈ s.store.descriptionsOf id, ∃ copy, s.cache.Keeps (standardKey e) copy ∧
    (r.admitted now copy).map (·.withoutWireForm) = [e]

theorem descriptionsOf_eq_of_held {store : BackingStore} :
    store.descriptionsOf id = (store.held id).getD [] := by
  rw [BackingStore.descriptionsOf, BackingStore.recordsOf, BackingStore.held]
  cases store.find? id <;> rfl

/-- The copy of an heir is kept under the key that it inherits. -/
theorem keeps_of_heir (builtIn : r.warmFilters.IsBuiltIn) (works : c.Works)
    (becomes : c.Becomes c' (r.settledSlot now c c.sortedKeys))
    (goes : ¬ r.Stays now c c.sortedKeys key) (found : r.heir now c c.sortedKeys key = some o) :
    ∃ copy, c'.Keeps key copy ∧ r.admitted now copy = [o.entity] := by
  obtain ⟨copy, kept, lone, -, -, own⟩ := exists_keeps_of_heir builtIn found
  obtain ⟨-, text, stands, read⟩ := (PersistentCache.keeps_iff works).1 kept
  refine ⟨copy, (PersistentCache.keeps_iff becomes.works).2 ⟨?_, text, ?_, read⟩, lone⟩
  · rw [own]
    exact c'.accepts_standardKey copy
  · rw [becomes.slot, settledSlot_of_goes goes, found]
    exact stands

section Warm

variable (r : Resolver ε) (persistent : r.persistence = some p) (standard : p.keyOf = standardKey)
  (builtIn : r.warmFilters.IsBuiltIn) (works : s.cache.Works) (alive : s.lifecycle ≠ .destroyed)
  (empty : ∀ id, s.store.find? id = none) (ends : (r.loadCache.run s).1 ≠ .overflow) (id : String)

include persistent standard builtIn works alive empty ends

/-- What is stored of an entity after a warm start from an empty store is the first offer for it. -/
theorem descriptionsOf_loadCache :
    (r.loadCache.run s).2.store.descriptionsOf id
      = (r.firstOffer s.now s.cache s.cache.sortedKeys id).toList.map (·.entity.withoutWireForm) := by
  obtain ⟨-, -, holds⟩ := exists_run_loadCache r persistent standard builtIn works alive ends
  rw [descriptionsOf_eq_of_held, holds, BackingStore.held, empty]
  cases r.firstOffer s.now s.cache s.cache.sortedKeys id <;> rfl

/-- The store agrees with the cache where the copy that inherits the key of an entity offers the
same as the one that came in. -/
theorem agrees_of_heir (inherited : ∀ o, r.firstOffer s.now s.cache s.cache.sortedKeys id = some o →
      ¬ r.Stays s.now s.cache s.cache.sortedKeys o.target ∧
        ∃ o', r.heir s.now s.cache s.cache.sortedKeys o.target = some o' ∧
          o'.entity.withoutWireForm = o.entity.withoutWireForm) :
    r.Agrees s.now (r.loadCache.run s).2 id := by
  obtain ⟨-, becomes, -⟩ := exists_run_loadCache r persistent standard builtIn works alive ends
  intro e listed
  rw [descriptionsOf_loadCache r persistent standard builtIn works alive empty ends] at listed
  obtain ⟨o, first, rfl⟩ := List.mem_map.1 listed
  obtain ⟨goes, o', heir, same⟩ := inherited o (Option.mem_toList.1 first)
  obtain ⟨copy, kept, lone⟩ := keeps_of_heir builtIn works becomes goes heir
  exact ⟨copy, kept, by rw [lone, ← same]; rfl⟩

/-- **When the store agrees with the cache after a warm start** from an empty store, with standard
keys and filters of this library: the first offer for an entity is what is stored of it, so there
must be a copy under its key that offers the same. This is the copy of the first offer for the key
that finds it empty, unless something stands there of which nothing is offered. -/
theorem agrees_iff :
    r.Agrees s.now (r.loadCache.run s).2 id ↔
      ∀ o, r.firstOffer s.now s.cache s.cache.sortedKeys id = some o →
        (s.cache.slot o.target = none ∨ r.offered s.now s.cache o.target ≠ []) ∧
          ∃ o', r.heir s.now s.cache s.cache.sortedKeys o.target = some o' ∧
            o'.entity.withoutWireForm = o.entity.withoutWireForm := by
  have goes_iff (key : String) : (s.cache.slot key = none ∨ r.offered s.now s.cache key ≠ []) ↔
      ¬ r.Stays s.now s.cache s.cache.sortedKeys key := by
    rw [stays_sortedKeys_iff works]
    tauto
  simp only [goes_iff]
  refine ⟨fun agrees o first => ?_,
    agrees_of_heir r persistent standard builtIn works alive empty ends id⟩
  obtain ⟨-, becomes, -⟩ := exists_run_loadCache r persistent standard builtIn works alive ends
  have stored := descriptionsOf_loadCache r persistent standard builtIn works alive empty ends id
  obtain ⟨copy, kept, left⟩ := agrees o.entity.withoutWireForm (by simp [stored, first])
  rcases keeps_settled_cases builtIn works becomes kept with
    ⟨-, none_left⟩ | ⟨goes, o', heir, -, lone, -, -⟩
  · rw [none_left] at left
    cases left
  · rw [lone] at left
    exact ⟨goes, o', heir, (List.cons.inj left).1⟩

/-- So it agrees where every copy is under the key of its entity. -/
theorem agrees_of_isFiled (filed : s.cache.IsFiled) :
    r.Agrees s.now (r.loadCache.run s).2 id := by
  refine agrees_of_heir r persistent standard builtIn works alive empty ends id fun o first => ?_
  obtain ⟨-, left, valid⟩ := mem_offers.1 (List.mem_of_find?_eq_some first)
  obtain ⟨copy, kept⟩ := exists_keeps_of_offered (List.ne_nil_of_mem left)
  rw [offered_of_keeps kept] at left
  rcases admitted_lone builtIn s.now copy with none_left | ⟨e, lone, alike⟩
  · rw [none_left] at left
    cases left
  · rw [lone, List.mem_singleton] at left
    obtain rfl := left
    have own : o.target = o.key := alike.standardKey.trans (filed o.key copy kept).symm
    rw [← offered_of_keeps kept] at lone
    refine ⟨fun stays => ?_, o, own ▸ heir_of_own works lone valid own, rfl⟩
    have none_left := ((stays_sortedKeys_iff works).1 stays).2
    rw [own, lone] at none_left
    cases none_left

end Warm

/-! ### At work -/

/-- The key of the entity that was published. -/
def publishedKey : String := "65518ed0c570ec19bfd521e76f60ffb92c95b3ef772c88f8c7bf9c5025b6bf4a"

theorem standardKey_published : standardKey published = publishedKey := by decide +kernel

/-- Where the proper key is free, the copy under an old key comes to stand there. -/
theorem legacy_copy_agrees :
    (∀ id, beforeTidying.store.find? id = none) ∧
      persisting.Agrees ⟨0, 0⟩ (persisting.loadCache.run beforeTidying).2
        "https://idp.example.org" := by
  have empty : ∀ id, beforeTidying.store.find? id = none := fun _ => rfl
  refine ⟨empty, ?_⟩
  refine (agrees_iff (s := beforeTidying) persisting rfl rfl FilterChain.isBuiltIn_nil
    (.memory _ false) (by decide) empty ends_untidy _).2 fun o first => ?_
  rw [sortedKeys_untidy, firstOffer, offers_untidy] at first
  obtain rfl : (⟨"-legacy", published⟩ : Offer) = o := Option.some_inj.1 first
  have target : (⟨"-legacy", published⟩ : Offer).target = publishedKey := standardKey_published
  have free : beforeTidying.cache.slot publishedKey = none := rfl
  refine ⟨.inl (target ▸ free), ⟨"-legacy", published⟩, ?_, rfl⟩
  rw [sortedKeys_untidy, heir, offers_untidy, target, free]
  simp [target]

/-- A later description of the same entity, which states who registered it. -/
def renewed : Entity := { published with registrar := some "https://example.org" }

/-- One copy under an old key and a later one under the proper key. -/
def contestedRows : Keyed String String :=
  (Keyed.empty.insert "-legacy" published.canonical).insert publishedKey renewed.canonical

def contested : PersistentCache := .memory ⟨⟨some contestedRows⟩, false, []⟩

/-- A resolver before it starts from that cache. -/
def beforeContest : ResolverState Origin.Script :=
  .start [] contested (answering "https://idp.example.org" (.ok none)) ⟨0, 0⟩

theorem load_renewed : Entity.load renewed.canonical = .ok renewed :=
  Entity.load_canonical (e := renewed) ⟨nofun, nofun, nofun⟩

theorem sortedKeys_contested : beforeContest.cache.sortedKeys = ["-legacy", publishedKey] := by
  have keys : contestedRows.keys = ["-legacy", publishedKey] := by decide
  have listed : contested.list = (.ok contestedRows.keys, contested) := rfl
  show contested.sortedKeys = _
  rw [sortedKeys_eq listed, keys]
  exact List.mergeSort_of_pairwise (by decide)

theorem works_contested : contested.Works := .memory contestedRows false

theorem keeps_legacy : contested.Keeps "-legacy" published :=
  PersistentCache.keeps_of_ofText works_contested trivial rfl load_published

theorem keeps_renewed : contested.Keeps publishedKey renewed :=
  PersistentCache.keeps_of_ofText works_contested trivial rfl load_renewed

/-- Both copies are offered. -/
theorem offers_contested :
    persisting.offers beforeContest.now beforeContest.cache ["-legacy", publishedKey]
      = [⟨"-legacy", published⟩, ⟨publishedKey, renewed⟩] := by
  have legacy : persisting.offers ⟨0, 0⟩ contested ["-legacy"] = [⟨"-legacy", published⟩] :=
    offers_of_keeps rfl keeps_legacy rfl
  have proper : persisting.offers ⟨0, 0⟩ contested [publishedKey] = [⟨publishedKey, renewed⟩] :=
    offers_of_keeps rfl keeps_renewed rfl
  show persisting.offers ⟨0, 0⟩ contested (["-legacy"] ++ [publishedKey]) = _
  rw [offers_append, legacy, proper]
  rfl

/-- The copy under the old key comes first, so it is stored, and then it is dropped for the one
under the proper key, which is not stored. -/
theorem misfiled_copy_wins :
    let s' := (persisting.loadCache.run beforeContest).2
    contested.Works ∧ contested.Keeps "-legacy" published ∧
      contested.Keeps (standardKey renewed) renewed ∧
      (∀ id, beforeContest.store.find? id = none) ∧
      (persisting.loadCache.run beforeContest).1 ≠ .overflow ∧
      s'.store.descriptionsOf "https://idp.example.org" = [published] ∧
      s'.cache.Keeps (standardKey renewed) renewed ∧
      ¬ persisting.Agrees ⟨0, 0⟩ s' "https://idp.example.org" := by
  intro s'
  have works : contested.Works := works_contested
  have builtIn : persisting.warmFilters.IsBuiltIn := FilterChain.isBuiltIn_nil
  have ends : (persisting.loadCache.run beforeContest).1 ≠ .overflow := by
    refine ends_loadCache persisting rfl rfl builtIn works (by decide) ?_
    rw [sortedKeys_contested, offers_contested]
    decide
  have stored : s'.store.descriptionsOf "https://idp.example.org" = [published] := by
    have first := descriptionsOf_loadCache (s := beforeContest) persisting rfl rfl builtIn works
      (by decide) (fun _ => rfl) ends "https://idp.example.org"
    rw [sortedKeys_contested, firstOffer, offers_contested] at first
    exact first
  obtain ⟨-, becomes, -⟩ := exists_run_loadCache (s := beforeContest) persisting rfl rfl builtIn
    works (by decide) ends
  have kept : contested.Keeps (standardKey renewed) renewed := by
    show contested.Keeps (standardKey published) renewed
    rw [standardKey_published]
    exact keeps_renewed
  have stays : s'.cache.Keeps (standardKey renewed) renewed :=
    (becomes.keeps_iff works (slot_of_own builtIn works kept rfl rfl)).2 kept
  refine ⟨works, keeps_legacy, kept, fun _ => rfl, ends, stored, stays, fun agrees => ?_⟩
  -- What stands under the key of the entity is the copy that is not stored.
  obtain ⟨copy, kept', left⟩ := agrees published (by simp [stored])
  have same : some copy = some renewed := Except.ok.inj (kept'.symm.trans stays)
  obtain rfl := Option.some_inj.1 same
  have alike : renewed.withoutWireForm = published := (List.cons.inj left).1
  revert alike
  decide

end Federation.Resolver
