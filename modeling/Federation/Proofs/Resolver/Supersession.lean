/-
# Answers supersede what was held

When the origin answers a query for an entity with a document, the valid descriptions of the
entity take the place of whatever was held of it, and what was held before is not served again
until the origin brings it again. There is one exception: an answer none of whose descriptions
is valid leaves in place what was held, which a later failure of the origin may revive.

## Main results

- `Unrenewed.lacks`: what is not held stays away until the origin brings it.
- `document_supersedes_iff`: when an answer supersedes what was held.
- `outdated_document_leaves_record`: the exception, at work.
-/

import Federation.Proofs.Resolver.Fetching
import Federation.Proofs.Resolver.Keeping
import Federation.Proofs.Resolver.Soundness

namespace Federation

open Federation.Metadata Federation.Time Federation.Task ResolverState

/-! ## What is not held -/

namespace ResolverState

variable {ε : Type} {clock : Drift Instant} {s s' : ResolverState ε}

/-- A description is not held of any entity. -/
def Lacks (s : ResolverState ε) (e : Entity) : Prop :=
  s.store.Satisfies fun _ record => record.entity ≠ e

theorem lacks_iff {e : Entity} : s.Lacks e ↔ ∀ id, e ∉ s.store.descriptionsOf id := by
  constructor
  · intro lacks id held
    obtain ⟨record, listed, same⟩ := List.mem_map.1 held
    exact lacks id record listed same
  · intro lacks id record listed same
    exact lacks id (List.mem_map.2 ⟨record, listed, same⟩)

/-- Whatever happens, a description that is not held does not come in. -/
def lacking (e : Entity) : Drift (ResolverState ε) where
  rel s s' := s.Lacks e → s'.Lacks e
  refl _ lacks := lacks
  trans first second lacks := second (first lacks)

variable {e : Entity}

theorem below_lacking : (elsewhere clock : Drift (ResolverState ε)).Below (lacking e) := by
  intro s s' moved lacks
  rw [Lacks, moved.store]
  exact lacks

end ResolverState

namespace Resolver

variable {ε α : Type} {clock : Drift Instant} {s s' : ResolverState ε} {now : Instant}
  {id : String} {query : Criteria} {e : Entity} {entities : List Entity}

/-! ### Parts that bring nothing in -/

theorem lacking_acceptAbsence (r : Resolver ε) (stale : Option (List CacheRecord)) :
    (r.acceptAbsence id stale now).Keeps (elsewhere clock) (lacking e) :=
  keeps_acceptAbsence below_lacking (fun _ lacks => lacks.remove) (fun _ _ lacks => lacks) r stale

theorem lacking_acceptFailure (r : Resolver ε) (stale : Option (List CacheRecord))
    (failure : Failure) :
    (r.acceptFailure id stale now failure).Keeps (elsewhere clock) (lacking e) :=
  keeps_acceptFailure below_lacking (fun _ lacks => lacks.remove)
    (fun _ _ lacks => lacks.extendExpiration fun _ other => other) r stale failure

/-- Descriptions that are taken in bring in no other. -/
theorem lacking_acceptDescriptions (r : Resolver ε)
    (others : ∀ e' ∈ entities, e'.withoutWireForm ≠ e) :
    (r.acceptDescriptions id entities now).Keeps (elsewhere clock) (lacking e) := by
  have inserted : (r.insertRecords id entities now).Keeps (elsewhere clock) (lacking e) := by
    rw [insertRecords]
    cases recorded : r.policy.records now entities with
    | failed failure => exact keeps_ended _
    | overflow => exact keeps_ended _
    | ok records =>
      -- Every record is of one of the descriptions, without its text.
      have absent : ∀ record ∈ records, record.entity ≠ e := by
        intro record made
        obtain ⟨e', listed, -, same, -⟩ := CachePolicy.mem_records recorded made
        rw [same]
        exact others e' listed
      cases records with
      | nil => exact keeps_pure []
      | cons record more =>
        have filed : (change fun (s : ResolverState ε) =>
            { s with
              store := s.store.insert id (record :: more)
              negative := s.negative.erase id }).Keeps (elsewhere clock) (lacking e) :=
          keeps_change below_lacking fun m lacks => lacks.insert absent
        exact filed.bind fun _ => keeps_pure _
  exact keeps_acceptDescriptions below_lacking r inserted

/-! ### Calls that bring nothing in -/

/-- Does a call do nothing but forget? -/
def Call.forgets : Call → Bool
  | clear | clearEntity _ | cleanup | destroy => true
  | prepare | resolve _ | refresh | loadCache => false

/-- What does nothing but forget brings nothing in. -/
theorem lacking_of_forgets (r : Resolver ε) {c : Call} (forgets : c.forgets = true) :
    (c.task r).Keeps (elsewhere clock) (lacking e) := by
  cases c with
  | clear => exact keeps_clear below_lacking (fun _ lacks => lacks.clear) r
  | clearEntity id => exact keeps_clearEntity below_lacking (fun _ lacks => lacks.remove) r
  | cleanup =>
    have swept : r.cleanup.Keeps (elsewhere clock) (lacking e) :=
      keeps_cleanup below_lacking (fun _ _ lacks => lacks.cleanup) r
    exact swept.bind fun _ => keeps_pure ()
  | destroy => exact keeps_destroy below_lacking (fun _ lacks => lacks.clear) r
  | prepare => cases forgets
  | resolve query => cases forgets
  | refresh => cases forgets
  | loadCache => cases forgets

/-! ### Queries that bring nothing in -/

/-- The origin brings a description if it is asked a query. -/
def Brings (r : Resolver ε) (query : Criteria) (s : ResolverState ε) (e : Entity) : Prop :=
  ∃ entities, r.answer query (r.counted s) = .ok (some entities) ∧
    ∃ e' ∈ entities, e'.withoutWireForm = e

theorem IsAsking.lacks {r : Resolver ε} {m : ResolverState ε} (asking : r.IsAsking s id m)
    (lacks : s.Lacks e) : m.Lacks e := by
  rw [lacks_iff] at lacks ⊢
  intro other
  by_cases same : other = id
  · rw [same, asking.descriptionsOf]
    exact lacks id
  · rw [BackingStore.descriptionsOf, BackingStore.recordsOf, asking.others other same]
    exact lacks other

theorem lacks_reading (lacks : s.Lacks e) : (reading s id).Lacks e :=
  BackingStore.Satisfies.get lacks fun _ other => other

/-- After a failure, what was not held is neither held nor served. -/
theorem ensures_lacks_acceptFailure (r : Resolver ε) {stale : Option (List CacheRecord)}
    {failure : Failure} (held : s.store.find? id = stale) (lacks : s.Lacks e) :
    (r.acceptFailure id stale now failure).Ensures (elsewhere .anyhow) s (·.Lacks e)
      fun es _ => e ∉ es := by
  intro outcome s' ran
  refine ⟨lacking_acceptFailure r stale failure s outcome s' ran lacks, fun es same => ?_⟩
  obtain ⟨records, -, found, -, rfl⟩ := (ensures_stale r outcome s' ran).2 es same
  have absent := lacks_iff.1 lacks id
  rw [BackingStore.descriptionsOf, BackingStore.recordsOf_eq_of_find? (held.trans found)] at absent
  exact absent

theorem ensures_lacks_acceptAbsence (r : Resolver ε) (now : Instant)
    {stale : Option (List CacheRecord)} (held : s.store.find? id = stale) (lacks : s.Lacks e) :
    (r.acceptAbsence id stale now).Ensures (elsewhere .anyhow) s (·.Lacks e)
      fun es _ => e ∉ es := by
  intro outcome s' ran
  refine ⟨lacking_acceptAbsence r stale s outcome s' ran lacks, fun es same => ?_⟩
  rw [((ensures_absent r held outcome s' ran).2 es same).1]
  exact List.not_mem_nil

theorem ensures_lacks_acceptDescriptions (r : Resolver ε)
    (others : ∀ e' ∈ entities, e'.withoutWireForm ≠ e) (lacks : s.Lacks e) :
    (r.acceptDescriptions id entities now).Ensures (elsewhere .anyhow) s (·.Lacks e)
      fun es _ => e ∉ es := by
  intro outcome s' ran
  refine ⟨lacking_acceptDescriptions r others s outcome s' ran lacks, fun es same => ?_⟩
  subst same
  cases recorded : r.policy.records now entities with
  | ok records =>
    rw [(ensures_cached r recorded (.ok es) s' ran).2 es rfl]
    intro listed
    obtain ⟨record, made, same⟩ := List.mem_map.1 listed
    obtain ⟨e', answered, -, as_recorded, -⟩ := CachePolicy.mem_records recorded made
    exact others e' answered (as_recorded.symm.trans same)
  | failed failure => exact absurd recorded (CachePolicy.records_ne_failed failure)
  | overflow =>
    rw [acceptDescriptions, insertRecords, recorded] at ran
    cases ran.1

/-- Fetching an entity brings in and serves only what the origin brings. -/
theorem lacks_fetchEntity (r : Resolver ε) (lacks : s.Lacks e)
    (others : ∀ entities, r.answer query s = .ok (some entities) →
      ∀ e' ∈ entities, e'.withoutWireForm ≠ e) :
    ((r.fetchEntity id query).run s).2.Lacks e ∧
      ∀ es, ((r.fetchEntity id query).run s).1 = .ok es → e ∉ es := by
  obtain ⟨m, aside, -, ran⟩ := run_fetchEntity r id query s
  rw [ran]
  -- Asking the origin leaves what is held, so that the entity is not there when the answer comes.
  have lacks : m.Lacks e := below_lacking _ _ aside (lacks_reading lacks)
  have held : m.store.find? id = (reading s id).store.find? id := by rw [aside.store]
  have absent := ensures_lacks_acceptAbsence r s.now held lacks _ _ (runs_run _ _ m)
  cases answered : r.answer query s with
  | overflow => exact ⟨lacks, fun es same => by cases same⟩
  | failed failure => exact ensures_lacks_acceptFailure r held lacks _ _ (runs_run _ _ m)
  | ok document =>
    cases document with
    | none => exact absent
    | some entities =>
      dsimp only
      split
      · exact absent
      · refine ensures_lacks_acceptDescriptions r ?_ lacks _ _ (runs_run _ _ m)
        exact fun e' listed => others entities answered e' (List.mem_filter.1 listed).1

/-- A query for an entity brings in and serves only what the origin brings. -/
theorem lacks_resolve (r : Resolver ε) (vacant : s.flights.AreVacant)
    (asked : query.entityId = some id) (lacks : s.Lacks e) (unbrought : ¬ r.Brings query s e) :
    ((r.resolve query).run s).2.Lacks e ∧
      ∀ es, ((r.resolve query).run s).1 = .ok es → e ∉ es := by
  by_cases ready : s.lifecycle = .initialized
  · obtain ⟨kept, store, -⟩ := run_resolve r ready asked
    have found : ((r.resolveEntityId id query).run s).2.Lacks e ∧
        ∀ es, ((r.resolveEntityId id query).run s).1 = .ok es → e ∉ es := by
      by_cases missing : Misses s id
      · obtain ⟨m, asking, outcome, fetched, -⟩ := exists_isAsking r query vacant missing
        rw [outcome, Lacks, fetched]
        refine lacks_fetchEntity r (asking.lacks lacks) ?_
        intro entities answered e' listed same
        exact unbrought ⟨entities, asking.answer.symm.trans answered, e', listed, same⟩
      · -- It is answered from the store, where the entity is not.
        obtain ⟨metrics, ran⟩ := run_resolveEntityId_of_held r query missing
        rw [ran]
        refine ⟨lacks_reading lacks, fun all same listed => ?_⟩
        obtain rfl := Outcome.ok.inj same
        exact lacks_iff.1 lacks id (mem_descriptionsOf_of_mem_liveOf listed)
    refine ⟨?_, fun es served listed => ?_⟩
    · rw [Lacks, store]
      exact found.1
    · rw [kept, Outcome.map_eq_ok] at served
      obtain ⟨all, ran, rfl⟩ := served
      exact found.2 all ran (mem_keepRole listed).1
  · obtain ⟨failure, ran⟩ := run_resolve_of_not_ready r query ready
    rw [ran]
    exact ⟨lacks, fun es served => by cases served⟩

/-! ## Until the origin brings it again -/

/-- What may happen next while a description is not brought again: the world around a resolver
moves, a call forgets, a query for an entity is asked to which the origin does not answer with
the description, also one that is cut short, or anything else happens that does not leave it
held. -/
inductive Unrenewed (r : Resolver ε) (clock : Drift Instant) (e : Entity) :
    ResolverState ε → ResolverState ε → Prop where
  | elsewhere {s s' : ResolverState ε} (moved : Elsewhere clock s s') : Unrenewed r clock e s s'
  | forget {s s' : ResolverState ε} (c : Call) (outcome : Outcome Unit)
      (forgets : c.forgets = true)
      (ran : (c.task r).Runs (ResolverState.elsewhere clock) s outcome s')
      (ends : outcome ≠ .overflow) : Unrenewed r clock e s s'
  | query {s : ResolverState ε} (query : Criteria) (id : String)
      (asked : query.entityId = some id) (unbrought : ¬ r.Brings query s e)
      (ends : ((r.resolve query).run s).1 ≠ .overflow) :
      Unrenewed r clock e s ((r.resolve query).run s).2
  | cut {s : ResolverState ε} (query : Criteria) (id : String)
      (asked : query.entityId = some id) (unbrought : ¬ r.Brings query s e)
      (overflowed : ((r.resolve query).run s).1 = .overflow) :
      Unrenewed r clock e s ((r.resolve query).run s).2.unwound
  | other {s s' : ResolverState ε} (next : Next r clock s s') (lacks : s'.Lacks e) :
      Unrenewed r clock e s s'

theorem Unrenewed.next {r : Resolver ε} (step : Unrenewed r clock e s s') :
    Next r clock s s' := by
  cases step with
  | elsewhere moved => exact .elsewhere moved
  | forget c outcome forgets ran ends => exact .call c outcome ran ends
  | query query id asked unbrought ends => exact .resolve r query ends
  | cut query id asked unbrought overflowed => exact .cut r query overflowed
  | other next lacks => exact next

/-- A description that is not held stays away while the origin does not bring it. -/
theorem Unrenewed.lacks {r : Resolver ε} (step : Unrenewed r clock e s s')
    (vacant : s.flights.AreVacant) (lacks : s.Lacks e) : s'.Lacks e := by
  cases step with
  | elsewhere moved => exact below_lacking s s' moved lacks
  | forget c outcome forgets ran ends =>
    exact lacking_of_forgets r forgets s outcome s' ran lacks
  | query query id asked unbrought ends => exact (lacks_resolve r vacant asked lacks unbrought).1
  | cut query id asked unbrought overflowed => exact (lacks_resolve r vacant asked lacks unbrought).1
  | other next lacks' => exact lacks'

/-- The same after any number of steps. -/
theorem lacks_of_unrenewed {r : Resolver ε} (vacant : s.flights.AreVacant) (lacks : s.Lacks e)
    (steps : Relation.ReflTransGen (Unrenewed r clock e) s s') :
    s'.flights.AreVacant ∧ s'.Lacks e := by
  induction steps with
  | refl => exact ⟨vacant, lacks⟩
  | tail _ step ih =>
    obtain ⟨vacant, lacks⟩ := ih
    exact ⟨step.next.vacant vacant, step.lacks vacant lacks⟩

/-! ## Answers -/

/-- The valid descriptions in an answer are all that is held of an entity after a query, and
what was held before is not served again until the origin brings it again. -/
structure Supersedes (r : Resolver ε) (clock : Drift Instant) (s : ResolverState ε) (id : String)
    (valid : List Entity) (s' : ResolverState ε) : Prop where
  held : s'.store.descriptionsOf id = valid
  nothing : valid = [] → s'.store.find? id = none
  never : ∀ e ∈ s.store.descriptionsOf id, e ∉ valid →
    ∀ m, Relation.ReflTransGen (Unrenewed r clock e) s' m →
      ∀ query other, query.entityId = some other → ¬ r.Brings query m e →
        ∀ es, ((r.resolve query).run m).1 = .ok es → e ∉ es

/-- **When an answer supersedes what was held.** After a query for an entity on which the
origin was asked, and answered with a document, exactly the valid descriptions of the entity
are held of it and what was held before is gone for good, unless something was held of the
entity and the document describes it without a description that is valid. -/
theorem document_supersedes_iff (r : Resolver ε) (reached : Reachable r clock s)
    (ready : s.lifecycle = .initialized) (asked : query.entityId = some id)
    (missing : Misses s id) (answered : r.answer query (r.counted s) = .ok (some entities))
    (ends : ((r.resolve query).run s).1 ≠ .overflow) :
    r.Supersedes clock s id (validOf id entities s.now) ((r.resolve query).run s).2 ↔
      ¬ (s.store.descriptionsOf id ≠ [] ∧ ownOf id entities ≠ [] ∧
        validOf id entities s.now = []) := by
  have reached' : Reachable r clock ((r.resolve query).run s).2 := reached.next (.resolve r query ends)
  have outcome := held_of_document r reached.vacant ready asked missing answered ends
  generalize ((r.resolve query).run s).2 = s' at reached' outcome
  -- No entity is in the store without a record.
  have gone (held : s'.store.descriptionsOf id = []) : s'.store.find? id = none := by
    cases found : s'.store.find? id with
    | none => rfl
    | some records =>
      rw [BackingStore.descriptionsOf, BackingStore.recordsOf_eq_of_find? found,
        List.map_eq_nil_iff] at held
      exact absurd (held ▸ found) (reached'.isSound.inhabited id)
  constructor
  · rintro superseded ⟨some_held, own, none_valid⟩
    rcases outcome with ⟨foreign, -⟩ | ⟨-, records, recorded, left⟩
    · exact own foreign
    -- Nothing was recorded, so what was held is still there.
    · have made := CachePolicy.map_entity_records recorded
      rw [← validOf, none_valid, List.map_eq_nil_iff] at made
      rw [if_pos made, superseded.held, none_valid] at left
      exact some_held left.symm
  · intro unexceptional
    have held : s'.store.descriptionsOf id = validOf id entities s.now := by
      rcases outcome with ⟨foreign, absent⟩ | ⟨own, records, recorded, left⟩
      · rw [BackingStore.descriptionsOf, BackingStore.recordsOf, absent, validOf, foreign]
        rfl
      · have made := CachePolicy.map_entity_records recorded
        rw [← validOf] at made
        split at left
        · rename_i none_made
          rw [none_made] at made
          rw [left, ← made]
          exact Classical.not_not.1 fun some_held => unexceptional ⟨some_held, own, made.symm⟩
        · rw [BackingStore.descriptionsOf, BackingStore.recordsOf_eq_of_find? left, made]
    refine ⟨held, fun none_valid => gone (held.trans none_valid), ?_⟩
    intro e before superseded m steps query other asked unbrought es served
    -- A description is held of its own entity only, and of that one only what is valid is held.
    have lacks : s'.Lacks e := by
      refine lacks_iff.2 fun holder listed => superseded ?_
      obtain rfl := (reached'.entityId_of_held listed).symm.trans (reached.entityId_of_held before)
      exact held ▸ listed
    obtain ⟨vacant, lacks⟩ := lacks_of_unrenewed reached'.vacant lacks steps
    exact (lacks_resolve r vacant asked lacks unbrought).2 es served

/-! ### At work -/

/-- A description of an entity. -/
def described : Entity := .ofId "https://idp.example.org"

/-- The rehearsal nine hours after the entity was fetched, when its record has expired and the
origin answers anew. -/
def nineHoursLater (answer : Except Failure (Option Document)) : ResolverState Origin.Script :=
  later (afterQuery .standard "https://idp.example.org" (.ok (some (.entity described))) ⟨0, 0⟩)
    "https://idp.example.org" answer ⟨32400, 0⟩

theorem reachable_nineHoursLater (answer : Except Failure (Option Document)) :
    Reachable (rehearsed .standard) .forward (nineHoursLater answer) := by
  have ticked : (⟨0, 0⟩ : Instant) ≤ ⟨32400, 0⟩ := by decide
  refine Reachable.later ?_ ticked _ answer
  exact (reachable_rehearsal _ _ _ _ _).next (.resolve _ _ (by decide))

theorem misses_nineHoursLater (answer : Except Failure (Option Document)) :
    Misses (nineHoursLater answer) "https://idp.example.org" := by
  refine ⟨?_, fun until_ marked => by cases marked⟩
  show ∀ record ∈ [CacheRecord.mk described ⟨28800, 0⟩ ⟨0, 0⟩], record.expiration ≤ ⟨32400, 0⟩
  decide

theorem document_supersedes_nineHoursLater :
    let r := rehearsed .standard
    let renewed := described.withValidUntil ⟨36000, 0⟩
    let s := nineHoursLater (.ok (some (.entity renewed)))
    r.Supersedes .forward s "https://idp.example.org" [renewed]
      ((r.resolve { entityId := some "https://idp.example.org" }).run s).2 := by
  intro r renewed s
  have answered : r.answer { entityId := some "https://idp.example.org" } (r.counted s)
      = .ok (some [renewed]) := by decide
  refine (document_supersedes_iff r (reachable_nineHoursLater _) rfl rfl (misses_nineHoursLater _)
    answered (by decide)).2 ?_
  rintro ⟨-, -, none_valid⟩
  exact absurd none_valid (by decide)

/-- An answer whose one description is not valid any longer leaves in place what was held,
and the next failure of the origin brings it back. -/
theorem outdated_document_leaves_record :
    let r := rehearsed .standard
    let query : Criteria := { entityId := some "https://idp.example.org" }
    let outdated := described.withValidUntil ⟨3600, 0⟩
    let s := nineHoursLater (.ok (some (.entity outdated)))
    let s' := ((r.resolve query).run s).2
    let failing := later s' "https://idp.example.org" (.error (.fetchFailed "down")) s'.now
    Reachable r .forward s ∧ s.lifecycle = .initialized ∧ Misses s "https://idp.example.org" ∧
      r.answer query (r.counted s) = .ok (some [outdated]) ∧
      ((r.resolve query).run s).1 = .ok [] ∧
      s'.store.descriptionsOf "https://idp.example.org" = [described] ∧
      ((r.resolve query).run failing).1 = .ok [described] :=
  ⟨reachable_nineHoursLater _, rfl, misses_nineHoursLater _, by decide, by decide, by decide,
    by decide⟩

end Resolver

end Federation
