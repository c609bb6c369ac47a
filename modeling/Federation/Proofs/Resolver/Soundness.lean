/-
# What is held is sound

Descriptions come into the store when one entity is fetched, when a query without an ID is
answered, when everything is replaced and at a warm start; entities are marked as absent when
the origin does not know them. None of this files a description under the ID of another
entity, keeps the text it was read from, leaves an entity without records, or believes an
entity absent that is in the store.

## Main results

- `Holdings.IsSound.step`: what every step preserves.
- `answers_are_sound`: what is held, and what queries are answered with.
-/

import Federation.Origin.Scripted
import Federation.Proofs.Resolver.Calls
import Federation.Proofs.Store.Records

namespace Federation

open Federation.Metadata Federation.Time

/-- A record describes the entity under whose ID it is filed, without the text it was read
from. -/
def CacheRecord.IsOwn (id : String) (record : CacheRecord) : Prop :=
  record.entity.entityId = id ∧ record.entity.wireForm = none

/-- Entities in the store have records of their own, and are not believed absent. -/
structure Holdings.IsSound (h : Holdings) : Prop where
  inhabited : h.store.IsInhabited
  own : h.store.Satisfies CacheRecord.IsOwn
  apart : ∀ id, h.store.find? id = none ∨ h.negative.get? id = none

/-- Filtering puts nothing under a key under which there was nothing. -/
theorem Keyed.get?_filter_of_none {κ α : Type} [DecidableEq κ] {m : Keyed κ α} {key : κ}
    (absent : m.get? key = none) (keep : κ → α → Bool) : (m.filter keep).get? key = none := by
  have others := List.lookup_eq_none_iff.1 absent
  refine List.lookup_eq_none_iff.2 fun entry kept => ?_
  exact others entry (List.mem_filter.1 kept).1

namespace Holdings

variable {policy : CachePolicy} {now : Instant} {h h' : Holdings}

theorem isSound_empty (indexes : List EntityIndex) : IsSound ⟨.empty indexes, .empty⟩ where
  inhabited := BackingStore.isInhabited_empty indexes
  own := BackingStore.satisfies_empty indexes
  apart _ := .inr rfl

/-- Every step leaves sound what was sound. -/
theorem IsSound.step (sound : h.IsSound) (taken : CacheStep policy now h h') : h'.IsSound := by
  cases taken with
  | read id =>
    refine ⟨sound.inhabited.get, sound.own.get fun _ own => own, fun other => ?_⟩
    rw [BackingStore.find?_get]
    split
    · rename_i same
      rw [same]
      exact (sound.apart id).imp (fun absent => by rw [absent]; rfl) fun unmarked => unmarked
    · exact sound.apart other
  -- Filling is the one step that brings in records. It takes back a marker of the entity, and a
  -- marker is set on an entity only that is not in the store.
  | fill id entities records own recorded some_valid =>
    refine ⟨sound.inhabited.insert, sound.own.insert fun record made => ?_, fun other => ?_⟩
    · obtain ⟨e, listed, -, same, -⟩ := CachePolicy.mem_records recorded made
      rw [CacheRecord.IsOwn, same]
      exact ⟨own e listed, rfl⟩
    · rw [BackingStore.find?_insert, Keyed.get?_erase]
      split
      · exact .inr rfl
      · exact sound.apart other
  | drop id =>
    refine ⟨sound.inhabited.remove, sound.own.remove, fun other => ?_⟩
    rw [BackingStore.find?_remove]
    split
    · exact .inl rfl
    · exact sound.apart other
  | mark id duration until_ believed reached absent =>
    refine ⟨sound.inhabited, sound.own, fun other => ?_⟩
    rw [Keyed.get?_insert]
    split
    · rename_i same
      exact .inl (same ▸ absent)
    · exact sound.apart other
  | keep id interval until_ retained reached =>
    refine ⟨sound.inhabited.extendExpiration, sound.own.extendExpiration fun _ own => own,
      fun other => ?_⟩
    rw [BackingStore.find?_extendExpiration]
    split
    · rename_i same
      rw [same]
      exact (sound.apart id).imp (fun absent => by rw [absent]; rfl) fun unmarked => unmarked
    · exact sound.apart other
  | forget id =>
    refine ⟨sound.inhabited.remove, sound.own.remove, fun other => ?_⟩
    rw [BackingStore.find?_remove, Keyed.get?_erase]
    split
    · exact .inl rfl
    · exact sound.apart other
  | clear =>
    refine ⟨fun id => ?_, sound.own.clear, fun _ => .inr rfl⟩
    rw [BackingStore.find?_clear]
    simp
  | sweep =>
    refine ⟨sound.inhabited.cleanup, sound.own.cleanup, fun other => ?_⟩
    rcases sound.apart other with absent | unmarked
    · exact .inl (BackingStore.find?_cleanup_of_absent absent)
    · exact .inr (Keyed.get?_filter_of_none unmarked _)

theorem IsSound.course {reading : Instant → Prop} (sound : h.IsSound)
    (course : Course policy reading h h') : h'.IsSound :=
  course.preserves (fun _ _ _ _ taken sound => sound.step taken) sound

end Holdings

/-- Whatever is done to what is held is done by calls of the store, so the indexes follow. -/
theorem CacheStep.isFiled {policy : CachePolicy} {now : Instant} {h h' : Holdings}
    (taken : CacheStep policy now h h') (filed : h.store.IsFiled) : h'.store.IsFiled := by
  cases taken with
  | read id => exact filed.get id now
  | fill id entities records own recorded some_valid => exact filed.insert id records
  | drop id => exact filed.remove id
  | mark id duration until_ believed reached absent => exact filed
  | keep id interval until_ retained reached => exact filed.extendExpiration id until_
  | forget id => exact filed.remove id
  | clear => exact filed.apply .clear
  | sweep => exact filed.apply (.cleanup now policy.longestIdle)

namespace Resolver

open ResolverState

variable {ε : Type} {clock : Drift Instant} {s : ResolverState ε}

theorem Reachable.isSound {r : Resolver ε} (reached : Reachable r clock s) :
    s.holdings.IsSound := by
  obtain ⟨indexes, course⟩ := reached.course
  exact (Holdings.isSound_empty indexes).course course

theorem Reachable.isFiled {r : Resolver ε} (reached : Reachable r clock s) : s.store.IsFiled := by
  obtain ⟨indexes, course⟩ := reached.course
  refine course.preserves (I := fun h => h.store.IsFiled) ?_ (BackingStore.isFiled_empty indexes)
  intro now g g' read taken filed
  exact taken.isFiled filed

/-- What is held of an entity describes it. -/
theorem Reachable.entityId_of_held {r : Resolver ε} {id : String} {e : Entity}
    (reached : Reachable r clock s) (held : e ∈ s.store.descriptionsOf id) : e.entityId = id := by
  obtain ⟨record, listed, rfl⟩ := List.mem_map.1 held
  exact (reached.isSound.own id record listed).1

/-- **What is held is sound, and so is what is served.** Whatever the calls, the answers of
the origin, the filters, the contents of the persistent cache and the readings of the clock:
an entity in the store has records, all of them are descriptions of it without the text they
were read from, and it is not believed absent. So a query for an ID is answered with
descriptions of that entity only, and a query for a role with descriptions that have it. -/
theorem answers_are_sound (r : Resolver ε) (reached : Reachable r clock s) :
    (∀ id records, s.store.find? id = some records → records ≠ [] ∧
      ∀ record ∈ records, record.entity.entityId = id ∧ record.entity.wireForm = none) ∧
    (∀ id, s.store.find? id = none ∨ s.negative.get? id = none) ∧
    (∀ query es s', (r.resolve query).Runs (elsewhere clock) s (.ok es) s' → ∀ e ∈ es,
      (∀ id, query.entityId = some id → e.entityId = id) ∧
      (∀ role, query.role = some role → e.hasRole role = true)) := by
  have sound := reached.isSound
  refine ⟨fun id records found => ⟨?_, fun record listed => ?_⟩, sound.apart, ?_⟩
  · rintro rfl
    exact sound.inhabited id found
  · refine sound.own id record ?_
    rw [holdings, BackingStore.recordsOf_eq_of_find? found]
    exact listed
  · intro query es s' ran e listed
    have answered := ensures_resolve r reached.vacant _ s' ran
    obtain ⟨served, has⟩ := answered.2 es rfl e listed
    refine ⟨fun id asked => ?_, has⟩
    obtain ⟨now, h, filed, -, course, under, record, held, rfl, -⟩ := served
    rw [(sound.course course).own filed record held |>.1]
    exact under id asked

/-! ## A rehearsal

An origin that answers from a script shows a resolver at work. -/

/-- A resolver with neither filters nor persistence, whose origin answers from a script. -/
def rehearsed (policy : CachePolicy) : Resolver Origin.Script where
  id := "r"
  policy := policy
  origin := Origin.Script.origin false true none
  filters := []
  warmFilters := []
  persistence := none

/-- A script that answers queries for one entity. -/
def answering (id : String) (answer : Except Failure (Option Document)) : Origin.Script :=
  { Origin.Script.empty with answers := Keyed.empty.insert id answer }

/-- An initialized resolver of which nothing was asked yet. The origin knows one entity. -/
def rehearsal (id : String) (answer : Except Failure (Option Document)) (now : Instant) :
    ResolverState Origin.Script :=
  { ResolverState.start [] (.memory (.empty false)) (answering id answer) now with
    lifecycle := .initialized }

theorem reachable_rehearsal (clock : Drift Instant) (policy : CachePolicy) (id : String)
    (answer : Except Failure (Option Document)) (now : Instant) :
    Reachable (rehearsed policy) clock (rehearsal id answer now) := by
  have ran : (Call.prepare.task (rehearsed policy)).Runs (elsewhere clock)
      (.start [] (.memory (.empty false)) (answering id answer) now) (.ok ())
      (rehearsal id answer now) := Task.runs_of_run_eq rfl
  exact ⟨_, _, _, now, .single (.call .prepare _ ran (by simp))⟩

/-- The rehearsal after a query for the entity. -/
def afterQuery (policy : CachePolicy) (id : String) (answer : Except Failure (Option Document))
    (now : Instant) : ResolverState Origin.Script :=
  (((rehearsed policy).resolve { entityId := some id }).run (rehearsal id answer now)).2

/-- The same resolver later, when the origin answers anew. -/
def later (s : ResolverState Origin.Script) (id : String)
    (answer : Except Failure (Option Document)) (now : Instant) : ResolverState Origin.Script :=
  { s with now := now, origin := answering id answer }

theorem Reachable.later {policy : CachePolicy} {s : ResolverState Origin.Script} {now : Instant}
    (reached : Reachable (rehearsed policy) clock s) (ticked : clock.rel s.now now) (id : String)
    (answer : Except Failure (Option Document)) :
    Reachable (rehearsed policy) clock (later s id answer now) :=
  reached.next (.elsewhere ⟨ticked, rfl, rfl, rfl, rfl, rfl, rfl⟩)

/-- An answer that describes another entity besides the one that was asked for, and that one
twice. -/
def mixedAnswer : Document :=
  .group (.ofEntities
    [.ofId "https://other.example.org",
     { Entity.ofId "https://idp.example.org" with wireForm := some "text" },
     (Entity.ofId "https://idp.example.org").withRole (.speaking .identityProvider "saml")])

/-- The rehearsal after that answer. -/
def afterMixedAnswer : ResolverState Origin.Script :=
  afterQuery .standard "https://idp.example.org" (.ok (some mixedAnswer)) ⟨0, 0⟩

theorem answers_are_sound_after_mixedAnswer :
    ((afterMixedAnswer.store.find? "https://idp.example.org").getD []).length = 2 ∧
      ∀ id, afterMixedAnswer.store.find? id = none ∨ afterMixedAnswer.negative.get? id = none := by
  have reached : Reachable (rehearsed .standard) .anyhow afterMixedAnswer :=
    (reachable_rehearsal _ _ _ _ _).next (.resolve _ _ (by decide))
  exact ⟨by decide, (answers_are_sound _ reached).2.1⟩

end Resolver

end Federation
