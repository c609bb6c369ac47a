/-
# Asking the origin for an entity

A query for an entity comes to the origin when the entity has no live record and is not
believed absent. What the resolver then holds of the entity follows from the answer, whether
or not calls take turns: the lemmas follow a query alone, from the miss to the answer and from
the answer to the store.

## Main results

- `run_resolveEntityId_of_held`: a query that does not miss.
- `exists_isAsking`: a query that misses ends as fetching the entity ends.
- `held_of_document`: what is held of an entity after a document has come.
- `run_resolve_of_failure`: what is served after a failure, where the policy retains.
-/

import Federation.Proofs.Resolver.Calls
import Federation.Proofs.Store.Records

namespace Federation

open Federation.Metadata Federation.Time Federation.Task ResolverState

namespace Resolver

variable {ε : Type} {clock : Drift Instant} {s m : ResolverState ε} {now : Instant} {id : String}
  {query : Criteria} {entities : List Entity} {records : List CacheRecord}

/-! ## A miss -/

/-- An entity has no live record and is not believed absent. -/
structure Misses (s : ResolverState ε) (id : String) : Prop where
  expired : ∀ record ∈ s.store.recordsOf id, record.expiration ≤ s.now
  unmarked : ∀ until_, s.negative.get? id = some until_ → until_ ≤ s.now

/-- The state after the records of an entity have been read. -/
def reading (s : ResolverState ε) (id : String) : ResolverState ε :=
  { s with store := (s.store.get id s.now).2 }

theorem find?_reading :
    (reading s id).store.find? id = (s.store.find? id).map (List.map (.touch s.now)) := by
  rw [reading, BackingStore.find?_get, if_pos rfl]

theorem find?_reading_of_ne {other : String} (foreign : other ≠ id) :
    (reading s id).store.find? other = s.store.find? other := by
  rw [reading, BackingStore.find?_get, if_neg foreign]

theorem recordsOf_reading :
    (reading s id).store.recordsOf id = (s.store.recordsOf id).map (.touch s.now) := by
  rw [reading, BackingStore.recordsOf_get, if_pos rfl]

theorem descriptionsOf_reading :
    (reading s id).store.descriptionsOf id = s.store.descriptionsOf id := by
  rw [BackingStore.descriptionsOf, recordsOf_reading, List.map_map]
  rfl

/-- Reading does not make a record live. -/
theorem Misses.reading (missing : Misses s id) : Misses (reading s id) id where
  expired record listed := by
    rw [recordsOf_reading] at listed
    obtain ⟨old, old_listed, rfl⟩ := List.mem_map.1 listed
    exact missing.expired old old_listed
  unmarked := missing.unmarked

theorem run_recordsOf :
    (recordsOf id s.now).run s = (.ok ((reading s id).store.find? id), reading s id) := by
  rw [find?_reading, ← BackingStore.get_fst]
  rfl

/-- The descriptions of an entity whose records are not expired. -/
def liveOf (s : ResolverState ε) (id : String) : List Entity :=
  ((s.store.recordsOf id).filter fun record => !record.isExpired s.now).map (·.entity)

theorem liveOf_eq_nil_iff :
    liveOf s id = [] ↔ ∀ record ∈ s.store.recordsOf id, record.expiration ≤ s.now := by
  simp [liveOf, CacheRecord.isExpired]

theorem liveOf_congr (store : m.store = s.store) (now : m.now = s.now) :
    liveOf m id = liveOf s id := by
  rw [liveOf, liveOf, store, now]

/-- Reading the records of an entity leaves live what is live. -/
theorem liveOf_reading (other : String) : liveOf (reading s id) other = liveOf s other := by
  by_cases same : other = id
  · rw [liveOf, same, recordsOf_reading, List.filter_map, List.map_map]
    rfl
  · rw [liveOf, BackingStore.recordsOf, find?_reading_of_ne same]
    rfl

theorem mem_descriptionsOf_of_mem_liveOf {e : Entity} (live : e ∈ liveOf s id) :
    e ∈ s.store.descriptionsOf id := by
  obtain ⟨record, kept, rfl⟩ := List.mem_map.1 live
  exact List.mem_map.2 ⟨record, (List.mem_filter.1 kept).1, rfl⟩

theorem run_liveDescriptions :
    (liveDescriptions id s.now).run s
      = (.ok (match liveOf s id with
          | [] => none
          | live => some live), reading s id) := by
  have still : (reading s id).now = s.now := rfl
  rw [liveDescriptions, run_then, run_recordsOf, proceed_ok, ← liveOf_reading id, liveOf, still,
    BackingStore.recordsOf]
  cases (reading s id).store.find? id with
  | none => rfl
  | some records =>
    dsimp only [Option.getD_some]
    cases records.filter fun record => !record.isExpired s.now <;> rfl

theorem run_liveDescriptions_of_miss (missing : Misses s id) :
    (liveDescriptions id s.now).run s = (.ok none, reading s id) := by
  rw [run_liveDescriptions, liveOf_eq_nil_iff.2 missing.expired]

theorem run_isAbsent (missing : Misses s id) : (isAbsent id s.now).run s = (.ok false, s) := by
  rw [isAbsent, run_read]
  cases marked : s.negative.get? id with
  | none => rfl
  | some until_ => simpa [Instant.not_lt] using missing.unmarked until_ marked

/-- The state after a miss. -/
def missed (r : Resolver ε) (s : ResolverState ε) (id : String) : ResolverState ε :=
  { reading s id with metrics := s.metrics.count (.cacheMiss r.id) }

/-- A query that does not miss is answered with what is live, and the origin is not asked. -/
theorem run_resolveEntityId_of_held (r : Resolver ε) (query : Criteria) (held : ¬ Misses s id) :
    ∃ metrics, (r.resolveEntityId id query).run s
      = (.ok (liveOf s id), { reading s id with metrics := metrics }) := by
  rw [resolveEntityId, run_then, run_read, proceed_ok, run_then, run_liveDescriptions]
  cases live : liveOf s id with
  | cons e rest => exact ⟨s.metrics.count (.cacheHit r.id), rfl⟩
  | nil =>
    -- Nothing is live, so it is a marker in force that answers.
    have marked : ((s.negative.get? id).any fun until_ => s.now < until_) = true := by
      rw [← Bool.not_eq_false]
      intro unmarked
      refine held ⟨liveOf_eq_nil_iff.1 live, fun until_ marked => ?_⟩
      simpa [marked, Instant.not_lt] using unmarked
    refine ⟨s.metrics.count (.cacheMiss r.id), ?_⟩
    have absent : (isAbsent id s.now).run (r.missed s id) = (.ok true, r.missed s id) := by
      rw [isAbsent, run_read]
      exact Prod.ext (congrArg Outcome.ok marked) rfl
    rw [proceed_ok, run_then, ResolverState.count, run_change, proceed_ok, run_then]
    show proceed _ ((isAbsent id s.now).run (r.missed s id)) = _
    rw [absent]
    rfl

theorem run_fetchUnlessCached (r : Resolver ε) (missing : Misses s id) :
    (r.fetchUnlessCached id query).run s = (r.fetchEntity id query).run (reading s id) := by
  have unmarked : (isAbsent id s.now).run (reading s id) = (.ok false, reading s id) :=
    run_isAbsent missing.reading
  rw [fetchUnlessCached, run_then, run_read]
  simp only [proceed_ok, run_then, run_liveDescriptions_of_miss missing, unmarked]
  rfl

/-- The flights after a call has boarded the one of an entity and holds it. -/
def taken (fs : Flights) (id : String) : Flights := ((fs.board id).2.tryHold fs.nextTicket).2

/-- A call that finds nobody aboard of any flight looks again. Leaving its own changes nothing
else. -/
theorem run_fetchInTurn (r : Resolver ε) (id : String) (query : Criteria) (now : Instant)
    (vacant : s.flights.AreVacant) {outcome : Outcome (List Entity)}
    (looked : (r.fetchUnlessCached id query).run { s with flights := taken s.flights id }
      = (outcome, m)) :
    ∃ flights, (r.fetchInTurn id query now).run s = (outcome, { m with flights := flights }) := by
  have holding : ((s.flights.board id).2.tryHold s.flights.nextTicket).1 = true :=
    (vacant.board id).tryHold.1
  have flown : (r.fly s.flights.nextTicket id query now).run
        { s with flights := (s.flights.board id).2 }
      = (r.fetchHolding s.flights.nextTicket id query).run
        { s with flights := taken s.flights id } := by
    rw [fly, run_then, run_perform, proceed_ok, if_pos holding]
    rfl
  rw [fetchInTurn, run_then, run_perform, proceed_ok, run_then, run_attempt]
  dsimp only
  rw [show (s.flights.board id).1 = s.flights.nextTicket from rfl, flown, fetchHolding, run_then,
    run_attempt, looked]
  cases outcome <;> exact ⟨_, rfl⟩

/-! ## What the origin answers -/

/-- What comes of asking the origin a query, after the filters. -/
def answer (r : Resolver ε) (query : Criteria) (s : ResolverState ε) :
    Outcome (Option (List Entity)) :=
  ((r.fetchAndFilter query s.now).run s).1

/-- The answer depends on the time and on what the origin works on. -/
theorem answer_congr (r : Resolver ε) (now : m.now = s.now)
    (same : originPart.get m = originPart.get s) : r.answer query m = r.answer query s := by
  simp only [answer, now, fetchAndFilter, run_then, run_attempt, run_on, same]
  obtain ⟨outcome, part⟩ := (r.origin.fetch query).run (originPart.get s)
  cases outcome with
  | ok fetched =>
    cases fetched with
    | none => rfl
    | some document =>
      simp only [proceed_ok]
      split
      · rfl
      · split <;> rfl
  | failed failure => rfl
  | overflow => rfl

/-- The state in which a call that took its turn looks again. -/
def flying (r : Resolver ε) (s : ResolverState ε) (id : String) : ResolverState ε :=
  { r.missed s id with flights := taken s.flights id }

theorem run_resolveEntityId_of_miss (r : Resolver ε) (missing : Misses s id) :
    (r.resolveEntityId id query).run s =
      if r.policy.singleFlight then (r.fetchInTurn id query s.now).run (r.missed s id)
      else (r.fetchEntity id query).run (r.missed s id) := by
  have missed : Misses (r.missed s id) id := ⟨missing.reading.expired, missing.unmarked⟩
  have unmarked : (isAbsent id s.now).run (r.missed s id) = (.ok false, r.missed s id) :=
    run_isAbsent missed
  rw [resolveEntityId, run_then, run_read, proceed_ok, run_then,
    run_liveDescriptions_of_miss missing, proceed_ok, run_then, ResolverState.count, run_change,
    proceed_ok, run_then]
  show proceed _ ((isAbsent id s.now).run (r.missed s id)) = _
  rw [unmarked, proceed_ok]
  cases r.policy.singleFlight <;> rfl

/-- A query for an entity that misses comes down to fetching the entity, after its records have
been read once, or twice if calls take turns. -/
theorem exists_run_of_misses (r : Resolver ε) (query : Criteria) (vacant : s.flights.AreVacant)
    (missing : Misses s id) :
    ∃ m flights, (m = r.missed s id ∨ m = reading (r.flying s id) id) ∧
      (r.resolveEntityId id query).run s
        = (((r.fetchEntity id query).run m).1,
            { ((r.fetchEntity id query).run m).2 with flights := flights }) := by
  rw [run_resolveEntityId_of_miss r missing]
  cases r.policy.singleFlight with
  | false => exact ⟨r.missed s id, _, .inl rfl, rfl⟩
  | true =>
    -- A call that takes its turn looks again, so the records are read twice at the same time.
    have flying : Misses (r.flying s id) id := ⟨missing.reading.expired, missing.unmarked⟩
    have vacant : (r.missed s id).flights.AreVacant := vacant
    obtain ⟨flights, landed⟩ :=
      run_fetchInTurn r id query s.now vacant (run_fetchUnlessCached r flying)
    exact ⟨reading (r.flying s id) id, flights, .inr rfl, landed⟩

/-- The state in which the origin is asked differs from the one before the query in what was
read and counted, and in the flight that is under way. -/
structure IsAsking (r : Resolver ε) (s : ResolverState ε) (id : String) (m : ResolverState ε) :
    Prop where
  now : m.now = s.now
  cache : m.cache = s.cache
  negative : m.negative = s.negative
  part : originPart.get m = ⟨s.metrics.count (.cacheMiss r.id), s.origin⟩
  read : m.store.find? id = (s.store.find? id).map (List.map (.touch s.now))
  others : ∀ other, other ≠ id → m.store.find? other = s.store.find? other

theorem isAsking_missed (r : Resolver ε) : IsAsking r s id (r.missed s id) :=
  ⟨rfl, rfl, rfl, rfl, find?_reading, fun _ => find?_reading_of_ne⟩

theorem isAsking_flying (r : Resolver ε) : IsAsking r s id (reading (r.flying s id) id) := by
  refine ⟨rfl, rfl, rfl, rfl, ?_, fun other foreign => ?_⟩
  · rw [find?_reading]
    show ((reading s id).store.find? id).map (List.map (CacheRecord.touch s.now)) = _
    rw [find?_reading]
    cases s.store.find? id with
    | none => rfl
    | some records => simp [CacheRecord.touch]
  · rw [find?_reading_of_ne foreign]
    exact find?_reading_of_ne foreign

/-- A query for an entity that misses comes down to fetching the entity. -/
theorem exists_isAsking_run (r : Resolver ε) (query : Criteria) (vacant : s.flights.AreVacant)
    (missing : Misses s id) :
    ∃ m flights, IsAsking r s id m ∧
      (r.resolveEntityId id query).run s
        = (((r.fetchEntity id query).run m).1,
            { ((r.fetchEntity id query).run m).2 with flights := flights }) := by
  obtain ⟨m, flights, rfl | rfl, ran⟩ := exists_run_of_misses r query vacant missing
  · exact ⟨_, flights, isAsking_missed r, ran⟩
  · exact ⟨_, flights, isAsking_flying r, ran⟩

/-- So it ends as fetching the entity ends. -/
theorem exists_isAsking (r : Resolver ε) (query : Criteria) (vacant : s.flights.AreVacant)
    (missing : Misses s id) :
    ∃ m, IsAsking r s id m ∧
      ((r.resolveEntityId id query).run s).1 = ((r.fetchEntity id query).run m).1 ∧
      ((r.resolveEntityId id query).run s).2.store = ((r.fetchEntity id query).run m).2.store ∧
      ((r.resolveEntityId id query).run s).2.cache = ((r.fetchEntity id query).run m).2.cache := by
  obtain ⟨m, flights, asking, ran⟩ := exists_isAsking_run r query vacant missing
  rw [ran]
  exact ⟨m, asking, rfl, rfl, rfl⟩

/-! ## What is made of the answer -/

/-- Asking the origin touches nothing but what the origin works on. -/
theorem run_fetchAndFilter_snd (r : Resolver ε) (query : Criteria) (now : Instant)
    (s : ResolverState ε) :
    ((r.fetchAndFilter query now).run s).2
      = originPart.put s ((r.origin.fetch query).run (originPart.get s)).2 := by
  rw [fetchAndFilter, run_then, run_attempt, run_on]
  obtain ⟨outcome, part⟩ := (r.origin.fetch query).run (originPart.get s)
  cases outcome with
  | failed failure => rfl
  | overflow => rfl
  | ok fetched =>
    cases fetched with
    | none => rfl
    | some document =>
      simp only [proceed_ok]
      split
      · rfl
      · split <;> rfl

/-- The state after the records of an entity were read and the origin has been asked. -/
def answeredState (r : Resolver ε) (id : String) (query : Criteria) (s : ResolverState ε) :
    ResolverState ε :=
  originPart.put (reading s id) ((r.origin.fetch query).run (originPart.get s)).2

/-- Asking the origin, after the records of an entity were read, leaves the store and the
cache alone. -/
theorem run_fetchAndFilter_reading (r : Resolver ε) (id : String) (query : Criteria)
    (s : ResolverState ε) :
    (r.fetchAndFilter query s.now).run (reading s id)
      = (r.answer query s, r.answeredState id query s) := by
  have same : r.answer query (reading s id) = r.answer query s := answer_congr r rfl rfl
  have put := run_fetchAndFilter_snd r query s.now (reading s id)
  exact Prod.ext same put

/-- What is done after asking, by what came of it. -/
theorem run_fetchEntity_answered (r : Resolver ε) (id : String) (query : Criteria)
    (s : ResolverState ε) :
    (r.fetchEntity id query).run s =
      match r.answer query s with
      | .failed failure =>
        (r.acceptFailure id ((reading s id).store.find? id) s.now failure).run
          (r.answeredState id query s)
      | .ok none =>
        (r.acceptAbsence id ((reading s id).store.find? id) s.now).run
          (r.answeredState id query s)
      | .ok (some entities) =>
        if ownOf id entities = [] then
          (r.acceptAbsence id ((reading s id).store.find? id) s.now).run
            (r.answeredState id query s)
        else
          (r.acceptDescriptions id (ownOf id entities) s.now).run (r.answeredState id query s)
      | .overflow => (.overflow, r.answeredState id query s) := by
  have asked := run_fetchAndFilter_reading r id query s
  simp only [fetchEntity, run_then, run_read, proceed_ok, run_recordsOf, run_attempt, asked]
  rcases r.answer query s with document | failure | _
  · cases document with
    | none => rfl
    | some entities =>
      rw [proceed_ok]
      dsimp only
      -- An answer that describes other entities only counts as none.
      by_cases foreign : ownOf id entities = []
      · rw [if_pos foreign]
        rw [ownOf] at foreign
        rw [foreign]
      · rw [if_neg foreign]
        obtain ⟨e, rest, own⟩ := List.exists_cons_of_ne_nil foreign
        rw [own]
        rw [ownOf] at own
        rw [own]
  · rfl
  · rfl

/-- So only the world around the resolver has moved when the answer is looked at. -/
theorem run_fetchEntity (r : Resolver ε) (id : String) (query : Criteria) (s : ResolverState ε) :
    ∃ m, Elsewhere .anyhow (reading s id) m ∧ m.cache = s.cache ∧
      (r.fetchEntity id query).run s =
        match r.answer query s with
        | .failed failure =>
          (r.acceptFailure id ((reading s id).store.find? id) s.now failure).run m
        | .ok none => (r.acceptAbsence id ((reading s id).store.find? id) s.now).run m
        | .ok (some entities) =>
          if ownOf id entities = [] then
            (r.acceptAbsence id ((reading s id).store.find? id) s.now).run m
          else (r.acceptDescriptions id (ownOf id entities) s.now).run m
        | .overflow => (.overflow, m) :=
  ⟨r.answeredState id query s, ⟨trivial, rfl, rfl, rfl, rfl, rfl, rfl⟩, rfl,
    run_fetchEntity_answered r id query s⟩

/-- What is found in the store is found there when only the world around has moved. -/
theorem find?_aside {found : Option (List CacheRecord)} (m m' : ResolverState ε)
    (aside : Elsewhere clock m m') (held : m.store.find? id = found) :
    m'.store.find? id = found := by
  rw [aside.store]
  exact held

/-- An absent entity is not in the store afterwards, whatever was held of it, and it is believed
absent for as long as the policy says. -/
theorem ensures_absent (r : Resolver ε) {stale : Option (List CacheRecord)}
    (held : s.store.find? id = stale) :
    (r.acceptAbsence id stale now).Ensures (elsewhere .anyhow) s (fun m => m.store.find? id = none)
      fun es m => es = [] ∧ ∀ duration, r.policy.negative = some duration →
        ∃ until_, now.add? duration = some until_ ∧ m.negative.get? id = some until_ := by
  have marked (m : ResolverState ε) (absent : m.store.find? id = none) :
      (r.acceptAbsence id none now).Ensures (elsewhere .anyhow) m
        (fun m => m.store.find? id = none)
        fun es m => es = [] ∧ ∀ duration, r.policy.negative = some duration →
          ∃ until_, now.add? duration = some until_ ∧ m.negative.get? id = some until_ := by
    rw [acceptAbsence]
    cases believed : r.policy.negative with
    | none => exact ensures_pure absent ⟨rfl, fun duration stated => by cases stated⟩
    | some duration =>
      refine ensures_ofOutcome_bind absent fun until_ reached => ?_
      refine ensures_change_bind fun m' drifted => ?_
      refine ensures_pure (find?_aside m m' drifted absent) ⟨rfl, ?_⟩
      rintro _ ⟨⟩
      exact ⟨until_, Outcome.eq_some_of_ofOption_eq_ok reached, by rw [Keyed.get?_insert, if_pos rfl]⟩
  cases stale with
  | none => exact marked s held
  | some records =>
    refine ensures_change_bind fun m drifted => ?_
    have dropped : (m.store.remove id).find? id = none := by
      rw [BackingStore.find?_remove, if_pos rfl]
    refine (keeps_gaugeSize r).bind_ensures find?_aside dropped fun _ m' absent _ => ?_
    refine (keeps_unpersist r records).bind_ensures find?_aside absent fun _ m'' absent _ => ?_
    exact marked m'' absent

/-- Without a persistent cache, an absent entity is answered with nothing, unless the end of the
belief in its absence is out of range. -/
theorem run_acceptAbsence (r : Resolver ε) (unpersisted : r.persistence = none)
    (stale : Option (List CacheRecord)) :
    ((r.acceptAbsence id stale now).run s).1 = .ok [] ∨
      (((r.acceptAbsence id stale now).run s).1 = .overflow ∧
        ∃ duration, r.policy.negative = some duration ∧ now.add? duration = none) := by
  have unkept (records : List CacheRecord) : r.unpersist id records = pure () := by
    rw [unpersist, unpersisted]
  have marked (m : ResolverState ε) : ((r.acceptAbsence id none now).run m).1 = .ok [] ∨
      (((r.acceptAbsence id none now).run m).1 = .overflow ∧
        ∃ duration, r.policy.negative = some duration ∧ now.add? duration = none) := by
    rw [acceptAbsence]
    cases r.policy.negative with
    | none => exact .inl rfl
    | some duration =>
      dsimp only
      cases reached : now.add? duration with
      | some until_ => exact .inl rfl
      | none => exact .inr ⟨rfl, duration, rfl, reached⟩
  cases stale with
  | none => exact marked s
  | some records =>
    rw [acceptAbsence, forget, run_then, run_change, proceed_ok, gaugeSize, run_then, run_change,
      proceed_ok, unkept]
    exact marked _

/-- The records that are made of descriptions are held afterwards; if none is made, what was
held before. -/
theorem ensures_inserted (r : Resolver ε) (recorded : r.policy.records now entities = .ok records) :
    (r.insertRecords id entities now).Ensures (elsewhere .anyhow) s
      (fun m => m.store.find? id = if records = [] then s.store.find? id else some records)
      fun stored _ => stored = records.map (·.entity) := by
  rw [insertRecords, recorded]
  refine ensures_pure_bind ?_
  cases records with
  | nil => exact ensures_pure rfl rfl
  | cons record more =>
    refine ensures_change_bind fun m drifted => ensures_pure ?_ rfl
    show (m.store.insert id (record :: more)).find? id = _
    rw [BackingStore.find?_insert, if_pos rfl]
    rfl

/-- Running alone, the records that are made of descriptions take the place of what was held. -/
theorem run_insertRecords (r : Resolver ε) (recorded : r.policy.records now entities = .ok records) :
    (r.insertRecords id entities now).run s = (.ok (records.map (·.entity)),
      if records = [] then s
      else { s with store := s.store.insert id records, negative := s.negative.erase id }) := by
  rw [insertRecords, recorded, run_then, run_ofOutcome, proceed_ok]
  cases records <;> rfl

theorem ensures_cached (r : Resolver ε) (recorded : r.policy.records now entities = .ok records) :
    (r.acceptDescriptions id entities now).Ensures (elsewhere .anyhow) s
      (fun m => m.store.find? id = if records = [] then s.store.find? id else some records)
      fun stored _ => stored = records.map (·.entity) := by
  refine (ensures_inserted r recorded).bind fun stored m cached inserted => ?_
  refine (keeps_persist r stored).bind_ensures find?_aside cached fun _ m' cached _ => ?_
  refine (keeps_gaugeSize r).bind_ensures find?_aside cached fun _ m'' cached _ => ?_
  exact ensures_pure cached inserted

theorem run_acceptFailure_of_retain (r : Resolver ε) {interval : Span} {until_ : Instant}
    {failure : Failure} (retained : r.policy.onFailure = .retain interval)
    (reached : now.add? interval = some until_) :
    (r.acceptFailure id (some records) now failure).run s
      = (.ok (records.map (·.entity)),
          { s with store := (s.store.extendExpiration id until_).2 }) := by
  simp only [acceptFailure, retained, reached, Outcome.ofOption, run_then, run_ofOutcome,
    proceed_ok, run_change]
  rfl

/-- After a failure nothing is served but what was held, and only where the policy retains. -/
theorem ensures_stale (r : Resolver ε) {stale : Option (List CacheRecord)} {failure : Failure} :
    (r.acceptFailure id stale now failure).Ensures (elsewhere .anyhow) s (fun _ => True)
      fun es _ => ∃ records interval, stale = some records ∧
        r.policy.onFailure = .retain interval ∧ es = records.map (·.entity) := by
  cases stale with
  | none => exact ensures_fail trivial
  | some records =>
    rw [acceptFailure]
    cases retained : r.policy.onFailure with
    | retain interval =>
      refine ensures_ofOutcome_bind trivial fun until_ _ => ?_
      exact ensures_change_bind fun m _ => ensures_pure trivial ⟨records, interval, rfl, rfl, rfl⟩
    | evict =>
      have always (m m' : ResolverState ε) (_ : Elsewhere .anyhow m m') (_ : True) : True :=
        trivial
      refine ensures_change_bind fun m _ => ?_
      refine (keeps_gaugeSize r).bind_ensures always trivial fun _ m' _ _ => ?_
      refine (keeps_unpersist r records).bind_ensures always trivial fun _ m'' _ _ => ?_
      exact ensures_fail trivial

/-! ## Queries for an entity -/

/-- A query for an entity keeps of what comes of it the descriptions with the role it asks for,
and counts. -/
theorem exists_run_resolve (r : Resolver ε) (ready : s.lifecycle = .initialized)
    (asked : query.entityId = some id) :
    ∃ metrics, (r.resolve query).run s
      = (((r.resolveEntityId id query).run s).1.map (keepRole query),
          { ((r.resolveEntityId id query).run s).2 with metrics := metrics }) := by
  rw [resolve, requireInitialized, run_then, run_then, run_read, ready]
  simp only [proceed_ok, run_pure, asked, run_then, run_attempt]
  generalize (r.resolveEntityId id query).run s = ran
  obtain ⟨outcome, m⟩ := ran
  cases outcome <;> exact ⟨_, rfl⟩

theorem run_resolve (r : Resolver ε) (ready : s.lifecycle = .initialized)
    (asked : query.entityId = some id) :
    ((r.resolve query).run s).1
      = ((r.resolveEntityId id query).run s).1.map (keepRole query) ∧
    ((r.resolve query).run s).2.store = ((r.resolveEntityId id query).run s).2.store ∧
    ((r.resolve query).run s).2.cache = ((r.resolveEntityId id query).run s).2.cache := by
  obtain ⟨metrics, ran⟩ := exists_run_resolve r ready asked
  rw [ran]
  exact ⟨rfl, rfl, rfl⟩

/-- A resolver that is not initialized answers nothing. -/
theorem run_resolve_of_not_ready (r : Resolver ε) (query : Criteria)
    (not_ready : s.lifecycle ≠ .initialized) :
    ∃ failure, (r.resolve query).run s = (.failed failure, s) := by
  rw [resolve, requireInitialized, run_then, run_then, run_read]
  cases lifecycle : s.lifecycle with
  | initialized => exact absurd lifecycle not_ready
  | fresh => exact ⟨_, rfl⟩
  | destroyed => exact ⟨_, rfl⟩

/-- The state in which a miss has been counted, on which the answer of the origin depends. -/
def counted (r : Resolver ε) (s : ResolverState ε) : ResolverState ε :=
  { s with metrics := s.metrics.count (.cacheMiss r.id) }

theorem IsAsking.descriptionsOf {r : Resolver ε} (asking : r.IsAsking s id m) :
    m.store.descriptionsOf id = s.store.descriptionsOf id := by
  rw [BackingStore.descriptionsOf, BackingStore.descriptionsOf, BackingStore.recordsOf, asking.read,
    BackingStore.recordsOf]
  cases s.store.find? id with
  | none => rfl
  | some records => simp [CacheRecord.touch]

/-- What missed before the query misses when the origin is asked. -/
theorem IsAsking.misses {r : Resolver ε} (asking : r.IsAsking s id m) (missing : Misses s id) :
    Misses m id where
  expired record listed := by
    rw [BackingStore.recordsOf, asking.read] at listed
    rw [asking.now]
    cases found : s.store.find? id with
    | none =>
      rw [found] at listed
      cases listed
    | some records =>
      rw [found] at listed
      obtain ⟨old, held, rfl⟩ := List.mem_map.1 listed
      exact missing.expired old (by rwa [BackingStore.recordsOf_eq_of_find? found])
  unmarked := by
    rw [asking.negative, asking.now]
    exact missing.unmarked

theorem IsAsking.find?_ne_some_nil {r : Resolver ε} (asking : r.IsAsking s id m)
    (inhabited : s.store.find? id ≠ some []) : m.store.find? id ≠ some [] := by
  intro empty
  rw [asking.read, Option.map_eq_some_iff] at empty
  obtain ⟨records, found, none_held⟩ := empty
  exact inhabited (List.map_eq_nil_iff.1 none_held ▸ found)

theorem IsAsking.answer {r : Resolver ε} (asking : r.IsAsking s id m) :
    r.answer query m = r.answer query (r.counted s) :=
  answer_congr r asking.now asking.part

/-- What is held of an entity after the origin answered a query for it with a document: nothing,
if the document does not describe it; otherwise the records that are made of the descriptions,
if any is made. -/
theorem held_of_document (r : Resolver ε) (vacant : s.flights.AreVacant)
    (ready : s.lifecycle = .initialized) (asked : query.entityId = some id)
    (missing : Misses s id) (answered : r.answer query (r.counted s) = .ok (some entities))
    (ends : ((r.resolve query).run s).1 ≠ .overflow) :
    (ownOf id entities = [] ∧ ((r.resolve query).run s).2.store.find? id = none) ∨
      (ownOf id entities ≠ [] ∧ ∃ records,
        r.policy.records s.now (ownOf id entities) = .ok records ∧
        if records = [] then
          ((r.resolve query).run s).2.store.descriptionsOf id = s.store.descriptionsOf id
        else ((r.resolve query).run s).2.store.find? id = some records) := by
  obtain ⟨kept, store, -⟩ := run_resolve r ready asked
  obtain ⟨m, asking, outcome, fetched, -⟩ := exists_isAsking r query vacant missing
  have answered := asking.answer.trans answered
  obtain ⟨m', aside, -, ran⟩ := run_fetchEntity r id query m
  have held : ((r.resolve query).run s).2.store =
      ((r.fetchEntity id query).run m).2.store := store.trans fetched
  have finished : ((r.fetchEntity id query).run m).1 ≠ .overflow := by
    intro overflowed
    rw [kept, outcome, overflowed] at ends
    exact ends rfl
  rw [ran, answered] at held finished
  dsimp only at held finished
  rw [asking.now] at held finished
  -- A document that does not describe the entity counts as its absence.
  by_cases foreign : ownOf id entities = []
  · refine .inl ⟨foreign, ?_⟩
    rw [if_pos foreign] at held finished
    have stale : m'.store.find? id = (reading m id).store.find? id := by rw [aside.store]
    rw [held]
    exact (ensures_absent r stale _ _ (runs_run _ _ m')).1
  · refine .inr ⟨foreign, ?_⟩
    rw [if_neg foreign] at held finished
    cases recorded : r.policy.records s.now (ownOf id entities) with
    | failed failure => exact absurd recorded (CachePolicy.records_ne_failed failure)
    | overflow =>
      have overflowed : ((r.acceptDescriptions id (ownOf id entities) s.now).run m').1 = .overflow := by
        rw [acceptDescriptions, insertRecords, recorded]
        rfl
      exact absurd overflowed finished
    | ok records =>
      refine ⟨records, rfl, ?_⟩
      -- What was recorded took the place of the old records; if nothing was, they are still there.
      have cached : ((r.acceptDescriptions id (ownOf id entities) s.now).run m').2.store.find? id
          = if records = [] then m'.store.find? id else some records :=
        (ensures_cached r recorded _ _ (runs_run _ _ m')).1
      rw [← held] at cached
      split
      · rename_i none_made
        have before : m'.store.descriptionsOf id = s.store.descriptionsOf id := by
          rw [aside.store, descriptionsOf_reading, asking.descriptionsOf]
        rw [if_pos none_made] at cached
        rw [← before, BackingStore.descriptionsOf, BackingStore.descriptionsOf,
          BackingStore.recordsOf, BackingStore.recordsOf, cached]
      · rename_i some_made
        rw [if_neg some_made] at cached
        exact cached

/-- Without a persistent cache, descriptions are answered with if they can be recorded. -/
theorem run_acceptDescriptions (r : Resolver ε) (unpersisted : r.persistence = none) :
    ((r.acceptDescriptions id entities now).run s).1
      = (r.policy.records now entities).map (List.map (·.entity)) := by
  have unkept (stored : List Entity) : r.persist stored = pure () := by
    rw [persist, unpersisted]
  rw [acceptDescriptions, run_then, insertRecords]
  rcases r.policy.records now entities with records | failure | _
  · cases records <;> simp only [unkept] <;> rfl
  · rfl
  · rfl

/-- A query on which the origin answers with descriptions of the entity is answered with those
that were recorded. -/
theorem run_resolve_of_document (r : Resolver ε) (vacant : s.flights.AreVacant)
    (ready : s.lifecycle = .initialized) (asked : query.entityId = some id)
    (missing : Misses s id) (answered : r.answer query (r.counted s) = .ok (some entities))
    (own : ownOf id entities ≠ [])
    (recorded : r.policy.records s.now (ownOf id entities) = .ok records)
    (unpersisted : r.persistence = none) :
    ((r.resolve query).run s).1 = .ok (keepRole query (records.map (·.entity))) := by
  obtain ⟨kept, -⟩ := run_resolve r ready asked
  obtain ⟨m, asking, outcome, -⟩ := exists_isAsking r query vacant missing
  have answered := asking.answer.trans answered
  obtain ⟨m', -, -, ran⟩ := run_fetchEntity r id query m
  rw [answered] at ran
  dsimp only at ran
  rw [if_neg own, asking.now] at ran
  rw [kept, outcome, ran, run_acceptDescriptions r unpersisted, recorded]
  rfl

/-- Where the policy retains, expired records are served and kept when the origin fails. -/
theorem run_resolve_of_failure (r : Resolver ε) (vacant : s.flights.AreVacant)
    (ready : s.lifecycle = .initialized) (asked : query.entityId = some id)
    (missing : Misses s id) (held : s.store.find? id = some records) {failure : Failure}
    (failed : r.answer query (r.counted s) = .failed failure) {interval : Span} {until_ : Instant}
    (retained : r.policy.onFailure = .retain interval)
    (reached : s.now.add? interval = some until_) :
    ((r.resolve query).run s).1 = .ok (keepRole query (records.map (·.entity))) ∧
    ((r.resolve query).run s).2.store.find? id
      = some (records.map fun record => (record.touch s.now).extend until_) := by
  obtain ⟨kept, store, -⟩ := run_resolve r ready asked
  obtain ⟨m, asking, outcome, fetched, -⟩ := exists_isAsking r query vacant missing
  have failed := asking.answer.trans failed
  obtain ⟨m', aside, -, ran⟩ := run_fetchEntity r id query m
  have read : (reading m id).store.find? id = some (records.map (.touch s.now)) := by
    rw [find?_reading, asking.read, held, asking.now]
    simp [CacheRecord.touch]
  rw [failed] at ran
  dsimp only at ran
  rw [read, asking.now, run_acceptFailure_of_retain r retained reached] at ran
  refine ⟨?_, ?_⟩
  · rw [kept, outcome, ran, List.map_map]
    rfl
  · rw [store, fetched, ran]
    show (m'.store.extendExpiration id until_).2.find? id = _
    rw [BackingStore.find?_extendExpiration, if_pos rfl, aside.store, read]
    simp

end Resolver

end Federation
