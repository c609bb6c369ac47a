/-
# Calls that share a fetch

Calls for entities keep the order among calls: each part of answering one conforms to it, from the
standing that the part before has left. So any number of calls take turns, however their steps
follow upon each other. At most one fetch of an entity is under way at a time, on a flight that is
listed as long as anyone is aboard, no call waits for ever, and no flight outlives the calls.

If the first fetch of an entity stores something that is live, no other fetch of it is made while
the clock stands still. All calls are answered with what was stored, but those that have waited for
their turn, or have come later, only with the part of it that is live.

## Main definitions

- `InOrder`: what is true of calls that take turns.
- `Shares`: what is true of calls that share one fetch.

## Main results

- `conforms_resolve`: a call for an entity conforms, part by part.
- `takes_turns`: calls take turns, and share the first fetch that stores something live.
- `waiting_call_misses_description`: those that wait may be answered with less than the call that
  has fetched.
-/

import Federation.Proofs.Resolver.Standing
import Federation.Task.Round

namespace Federation

open Federation.Metadata Federation.Time Federation.Task ResolverState

namespace Resolver

variable {ε α β : Type} {r : Resolver (Tally × ε)} {watch : Option Watch} {id : String}
  {ticket : Ticket} {query : Criteria} {now : Instant} {seat : Seat} {mind : Mind}
  {standing : Standing} {waits : Standing → (ResolverState (Tally × ε) → Bool) → Prop}
  {final : Outcome β → Standing → Prop} {s s' : ResolverState (Tally × ε)}

/-! ## Parts that other calls do not notice -/

theorem quiet_refl (s : ResolverState (Tally × ε)) : Quiet s s :=
  ⟨rfl, rfl, rfl, rfl, rfl, fun _ => rfl⟩

theorem quiet_get (s : ResolverState (Tally × ε)) (id : String) (now : Instant) :
    Quiet s { s with store := (s.store.get id now).2 } := by
  refine ⟨rfl, rfl, rfl, rfl, rfl, fun other => ?_⟩
  show ((s.store.get id now).2.recordsOf other).map _ = _
  rw [BackingStore.recordsOf_get]
  split
  · rename_i same
    rw [List.map_map, same]
    rfl
  · rfl

/-- A part that other calls do not notice, and what follows it. -/
theorem conforms_quiet_bind {t : Task (ResolverState (Tally × ε)) α}
    {k : α → Task (ResolverState (Tally × ε)) β} (h : t.Within Quiet False False)
    (next : ∀ a, (k a).Conforms (orderly watch) waits final standing) :
    (t >>= k).Conforms (orderly watch) waits final standing :=
  h.conforms_bind (fun _ _ _ _ quiet orderly => orderly.quiet quiet) next

/-- A call that reads the clock, which stands still while a fetch is watched. -/
theorem conforms_now_bind {k : Instant → Task (ResolverState (Tally × ε)) β}
    (next : ∀ now, (∀ w ∈ watch, w.now = now) →
      (k now).Conforms (orderly watch) waits final standing) :
    (Task.read (·.now) >>= k).Conforms (orderly watch) waits final standing := by
  refine conforms_read_bind fun s => (orderly watch).leads_look fun phase standings h => ?_
  exact next s.now fun w mem => (h.watched w mem).1

theorem within_count (c : Counter) :
    (ResolverState.count c : Task (ResolverState (Tally × ε)) Unit).Within Quiet False False :=
  within_change fun _ => ⟨rfl, rfl, rfl, rfl, rfl, fun _ => rfl⟩

theorem within_gaugeSize (r : Resolver (Tally × ε)) : r.gaugeSize.Within Quiet False False :=
  within_change fun _ => ⟨rfl, rfl, rfl, rfl, rfl, fun _ => rfl⟩

theorem within_onCache (f : PersistentCache → Except Failure α × PersistentCache) :
    (onCache f : Task (ResolverState (Tally × ε)) α).Within Quiet True False := by
  refine (within_read quiet_refl _).bind fun pausing => (within_pauseIf _).bind fun _ => ?_
  refine (within_perform fun _ => ?_).bind fun answer => within_ofExcept answer
  exact ⟨rfl, rfl, rfl, rfl, rfl, fun _ => rfl⟩

theorem within_persist (r : Resolver (Tally × ε)) (entities : List Entity) :
    (r.persist entities).Within Quiet False False := by
  rw [persist]
  cases r.persistence with
  | none => exact within_pure ()
  | some p =>
    refine within_forEach (fun e => (within_onCache _).attempt.bind fun answer => ?_) entities
    cases answer with
    | ok => exact within_pure ()
    | error failure => exact within_count _

theorem within_unpersist (r : Resolver (Tally × ε)) (records : List CacheRecord) :
    (r.unpersist id records).Within Quiet False False := by
  rw [unpersist]
  cases r.persistence with
  | none => exact within_pure ()
  | some p =>
    exact within_forEach (fun _ => (within_onCache _).attempt.bind fun _ => within_pure ()) _

/-! ## What is found without asking the origin -/

theorem heldOf_eq_of_get {found : Option (List CacheRecord)}
    (read : (s.store.get id now).1 = found) : heldOf s id = (found.getD []).map CacheRecord.dated := by
  have touched : (found.getD []).map CacheRecord.dated
      = ((s.store.recordsOf id).map (CacheRecord.touch now)).map CacheRecord.dated := by
    rw [← read, BackingStore.get_fst, BackingStore.recordsOf]
    cases s.store.find? id <;> rfl
  rw [touched, List.map_map]
  rfl

theorem filter_dated (records : List CacheRecord) :
    (records.map CacheRecord.dated).filter (fun dated => now < dated.2)
      = (records.filter fun record => !record.isExpired now).map CacheRecord.dated := by
  rw [List.filter_map]
  congr 1
  refine List.filter_congr fun record _ => ?_
  show decide (now < record.expiration) = !decide (record.expiration ≤ now)
  rw [← decide_not]
  exact decide_eq_decide.2 Instant.not_le.symm

/-- A call that reads the records of an entity and finds nothing live goes on, and if it is on its
turn it has missed. -/
theorem leads_missed (missed : Mind) (atNow : ∀ w ∈ watch, w.now = now)
    (missing : missed = .nothing ∨ missed = .missed id ∧ ∃ ticket, seat = .holding id ticket)
    (none_live : (heldOf s id).filter (fun dated => now < dated.2) = []) :
    (orderly watch).Leads ⟨seat, .nothing⟩ s { s with store := (s.store.get id now).2 }
      (· = ⟨seat, missed⟩) := by
  refine leads_find missed (quiet_get s id now) (by simp [Mind.IsBusy]) ?_ ?_ ?_ fun _ _ => rfl
  · rcases missing with rfl | ⟨rfl, -⟩ <;> simp [Mind.IsBusy]
  · rcases missing with rfl | ⟨rfl, holds⟩
    · rintro id ⟨⟩
    · rintro id ⟨⟩
      exact holds
  · intro w mem _ phase minds place own sole holds
    rcases missing with rfl | ⟨rfl, ticket, mine⟩
    · exact trivial
    · rintro rfl
      refine holds.admits_missed (sole w.id ticket mine) own ?_ rfl
      rw [atNow w mem]
      exact none_live

/-- A call that looks for live descriptions finds some, or nothing live. -/
theorem conforms_liveDescriptions (missed : Mind) (atNow : ∀ w ∈ watch, w.now = now)
    (missing : missed = .nothing ∨ missed = .missed id ∧ ∃ ticket, seat = .holding id ticket) :
    (liveDescriptions id now).Conforms (orderly watch) waits
      (fun outcome standing =>
        (∃ live, outcome = .ok (some live) ∧ standing = ⟨seat, .found id (.ok live)⟩) ∨
          outcome = .ok none ∧ standing = ⟨seat, missed⟩) ⟨seat, .nothing⟩ := by
  refine conforms_perform_bind fun s => ?_
  obtain ⟨found, read⟩ : ∃ found, (s.store.get id now).1 = found := ⟨_, rfl⟩
  have held := heldOf_eq_of_get read
  dsimp only
  rw [read]
  cases found with
  | none =>
    -- Nothing is held, so that nothing live is.
    refine (leads_missed missed atNow missing (by rw [held]; rfl)).imp ?_
    rintro _ rfl
    exact conforms_pure (.inr ⟨rfl, rfl⟩)
  | some records =>
    rw [Option.getD_some] at held
    cases live : records.filter fun record => !record.isExpired now with
    | nil =>
      -- Everything that is held has expired.
      refine (leads_missed missed atNow missing (by rw [held, filter_dated, live]; rfl)).imp ?_
      rintro _ rfl
      dsimp only
      rw [live]
      exact conforms_pure (.inr ⟨rfl, rfl⟩)
    | cons first rest =>
      -- What is live is what the watch has recorded, if it watches this entity.
      refine leads_find (.found id (.ok ((first :: rest).map (·.entity)))) (quiet_get s id now)
        (by simp [Mind.IsBusy]) (by simp [Mind.IsBusy]) (by rintro id ⟨⟩) ?_ ?_
      · intro w mem _ phase minds place own sole holds
        rintro rfl
        refine holds.admits_live ?_ (by simp) rfl
        rw [atNow w mem, held, filter_dated, live, List.map_map]
        rfl
      · intro _ _
        dsimp only
        rw [live]
        exact conforms_pure (.inl ⟨_, rfl, rfl⟩)

/-- So does a call that would serve anything it finds. -/
theorem conforms_staleDescriptions :
    (staleDescriptions id now).Conforms (orderly watch) waits
      (fun outcome standing =>
        (∃ stale, outcome = .ok (some stale) ∧ standing = ⟨seat, .found id (.ok stale)⟩) ∨
          outcome = .ok none ∧ standing = ⟨seat, .nothing⟩) ⟨seat, .nothing⟩ := by
  refine conforms_perform_bind fun s => ?_
  obtain ⟨found, read⟩ : ∃ found, (s.store.get id now).1 = found := ⟨_, rfl⟩
  have held := heldOf_eq_of_get read
  -- Reading changes the times of use only, which nobody's standing depends on.
  have misses : (orderly watch).Leads ⟨seat, .nothing⟩ s
      { s with store := (s.store.get id now).2 } (· = ⟨seat, .nothing⟩) :=
    (orderly watch).leads_stay (fun _ _ orderly => orderly.quiet (quiet_get s id now)) rfl
  dsimp only
  rw [read]
  cases found with
  | none =>
    refine misses.imp ?_
    rintro _ rfl
    exact conforms_pure (.inr ⟨rfl, rfl⟩)
  | some records =>
    cases records with
    | nil =>
      refine misses.imp ?_
      rintro _ rfl
      exact conforms_pure (.inr ⟨rfl, rfl⟩)
    | cons first rest =>
      refine leads_find (.found id (.ok ((first :: rest).map (·.entity)))) (quiet_get s id now)
        (by simp [Mind.IsBusy]) (by simp [Mind.IsBusy]) (by rintro id ⟨⟩) ?_ ?_
      · intro w mem _ phase minds place own sole holds
        rintro rfl
        refine holds.admits_stale ?_ (by simp) rfl
        rw [held, Option.getD_some, List.map_map]
        rfl
      · exact fun _ _ => conforms_pure (.inl ⟨_, rfl, rfl⟩)

/-- A call that looks whether an entity is absent finds that it is, or goes on. -/
theorem conforms_isAbsent_bind {k : Bool → Task (ResolverState (Tally × ε)) β}
    (atNow : ∀ w ∈ watch, w.now = now) (before : ∀ id, ¬ mind.IsBusy id)
    (absent : (k true).Conforms (orderly watch) waits final ⟨seat, .found id (.ok [])⟩)
    (other : (k false).Conforms (orderly watch) waits final ⟨seat, mind⟩) :
    (isAbsent id now >>= k).Conforms (orderly watch) waits final ⟨seat, mind⟩ := by
  refine conforms_read_bind fun s => ?_
  cases marked : s.negative.get? id with
  | none => exact (orderly watch).leads_stay (fun _ _ orderly => orderly) other
  | some until_ =>
    rw [Option.any_some]
    by_cases future : now < until_
    · rw [decide_eq_true future]
      refine leads_find _ (quiet_refl s) before (by simp [Mind.IsBusy]) (by rintro id ⟨⟩) ?_
        fun _ _ => absent
      intro w mem _ phase minds place own sole holds
      rintro rfl
      exact holds.admits_marked marked (atNow w mem ▸ future) _ rfl
    · rw [decide_eq_false future]
      exact (orderly watch).leads_stay (fun _ _ orderly => orderly) other

/-! ## Asking the origin -/

/-- What comes of a call that has asked the origin while it holds its flight: an answer, unless
there is an overflow. -/
def WasAsked (id : String) (ticket : Ticket) (outcome : Outcome α) (standing : Standing) : Prop :=
  standing = ⟨.holding id ticket, .answered id⟩ ∨
    outcome = .overflow ∧ standing = ⟨.holding id ticket, .asking id⟩

theorem leads_start {next : Standing → Prop} {metrics : Metrics}
    (found : next ⟨.holding id ticket, .asking id⟩) :
    (orderly watch).Leads ⟨.holding id ticket, .missed id⟩ s
      { s with metrics := metrics, origin := (s.origin.1.start id, s.origin.2) } next := by
  refine leads_of rfl rfl ?_ ?_ ?_ ?_ fun _ _ => found
  · rintro id ⟨⟩
    exact ⟨ticket, rfl⟩
  · exact fun seats place own manned => manned.stay own
  · intro minds place own sole tallied
    refine tallied.start (fun id => by rw [own]; rintro ⟨⟩) fun other elsewhere asks => ?_
    exact sole id ticket rfl other elsewhere (by rw [asks]; rfl)
  · intro w mem _ phase minds place own sole holds
    by_cases same : id = w.id
    · subst same
      exact holds.start (sole w.id ticket rfl) own (List.count_cons_self) rfl rfl
    · have other : some id ≠ some w.id := fun here => same (Option.some_inj.1 here)
      exact holds.elsewhere (own ▸ other) other (List.count_cons_of_ne same) rfl rfl

theorem leads_finish {next : Standing → Prop} {metrics : Metrics}
    (found : next ⟨.holding id ticket, .answered id⟩) :
    (orderly watch).Leads ⟨.holding id ticket, .asking id⟩ s
      { s with metrics := metrics, origin := (s.origin.1.finish id, s.origin.2) } next := by
  refine leads_of rfl rfl ?_ ?_ ?_ ?_ fun _ _ => found
  · rintro id ⟨⟩
    exact ⟨ticket, rfl⟩
  · exact fun seats place own manned => manned.stay own
  · intro minds place own sole tallied
    refine tallied.finish own (fun other elsewhere asks => ?_) (by rintro id ⟨⟩)
    exact sole id ticket rfl other elsewhere (by rw [asks]; rfl)
  · intro w mem _ phase minds place own sole holds
    have before := holds.admits place
    rw [own] at before
    refine ⟨phase, Phase.course.refl phase, holds.update before ?_ rfl rfl rfl⟩
    rw [own]
    simp [Mind.IsBusy]

theorem conforms_fetch {r : Resolver ε} (asked : query.entityId = some id) :
    ((r.watched.origin.fetch query).on originPart).Conforms (orderly watch) (Waits id)
      (WasAsked id ticket) ⟨.holding id ticket, .missed id⟩ := by
  have quiet : (((r.origin.on Tally.beside).fetch query).on originPart).Within Quiet True True := by
    have beside : ((r.origin.on Tally.beside).fetch query).Within
        (fun s s' => s'.state.1 = s.state.1) True True :=
      (within_free _).on _ fun _ _ _ => rfl
    exact beside.on _ fun whole part same => ⟨rfl, rfl, rfl, same, rfl, fun _ => rfl⟩
  rw [show r.watched.origin = r.origin.watched from rfl, Origin.watched_fetch_of_some asked, on_bind]
  refine conforms_change_bind fun s => leads_start ?_
  rw [on_bind, on_attempt]
  refine (quiet.conforms (fun _ _ _ _ quiet orderly => Orderly.quiet orderly quiet)
    fun _ _ => .inl rfl).attempt_bind ?_ ?_ ?_
  · rintro answer _ rfl
    rw [on_bind]
    exact conforms_change_bind fun s => leads_finish (conforms_ofExcept (.inl rfl))
  · rintro failure _ ⟨rfl, -⟩
    rw [on_bind]
    exact conforms_change_bind fun s => leads_finish (conforms_ofExcept (.inl rfl))
  · rintro _ ⟨rfl, -⟩
    exact .inr ⟨rfl, rfl⟩

theorem conforms_fetchAndFilter {r : Resolver ε} (asked : query.entityId = some id) :
    (r.watched.fetchAndFilter query now).Conforms (orderly watch) (Waits id) (WasAsked id ticket)
      ⟨.holding id ticket, .missed id⟩ := by
  refine (conforms_fetch asked).attempt_bind ?_ ?_ ?_
  · rintro answer _ (rfl | ⟨⟨⟩, -⟩)
    cases answer with
    | none => exact conforms_pure (.inl rfl)
    | some document =>
      dsimp only
      split
      · exact conforms_pure (.inl rfl)
      · split
        · exact conforms_fail (.inl rfl)
        · exact conforms_pure (.inl rfl)
  · rintro failure _ (rfl | ⟨⟨⟩, -⟩)
    exact conforms_fail (.inl rfl)
  · rintro _ (rfl | ⟨-, rfl⟩)
    · exact .inl rfl
    · exact .inr ⟨rfl, rfl⟩

/-! ## What is made of the answer -/

/-- What comes of a call that fetches while it holds its flight: what it is going to give, or
anything, if it keeps nothing of the answer. -/
def Fetched (id : String) (ticket : Ticket) (outcome : Outcome (List Entity))
    (standing : Standing) : Prop :=
  WasAsked id ticket outcome standing ∨
    ∃ answer, outcome = .ofExcept answer ∧ standing = ⟨.holding id ticket, .found id answer⟩

theorem heldOf_insert {records : List CacheRecord} {negative : Keyed String Instant}
    {other : String} :
    heldOf { s with store := s.store.insert id records, negative := negative } other
      = if other = id then records.map CacheRecord.dated else heldOf s other := by
  show ((s.store.insert id records).recordsOf other).map _ = _
  rw [BackingStore.recordsOf_insert]
  split <;> rfl

/-- Records are stored of an entity whose flight a call holds. -/
theorem leads_keep {records : List CacheRecord} {next : Standing → Prop}
    (found : next ⟨.holding id ticket, .found id (.ok (records.map (·.entity)))⟩) :
    (orderly watch).Leads ⟨.holding id ticket, .answered id⟩ s
      { s with store := s.store.insert id records, negative := s.negative.erase id } next := by
  refine leads_of rfl rfl (by rintro id ⟨⟩) ?_ ?_ ?_ fun _ _ => found
  · exact fun seats place own manned => manned.stay own
  · intro minds place own sole tallied
    refine tallied.update fun id => ?_
    rw [own]
    exact iff_of_false (by rintro ⟨⟩) (by rintro ⟨⟩)
  · -- A watch of the entity sees the answer come in; any other watch sees nothing.
    intro w mem _ phase minds place own sole holds
    by_cases same : id = w.id
    · subst same
      refine holds.keep (sole w.id ticket rfl) own rfl ?_ ?_
      · intro until_ marked
        rw [Keyed.get?_erase, if_pos rfl] at marked
        cases marked
      · rw [heldOf_insert, if_pos rfl, List.map_map]
        rfl
    · have other : some id ≠ some w.id := fun here => same (Option.some_inj.1 here)
      refine holds.elsewhere (own ▸ other) other rfl ?_ ?_
      · rw [heldOf_insert, if_neg (Ne.symm same)]
      · rw [Keyed.get?_erase, if_neg (Ne.symm same)]

/-- Nothing is kept of the answer for an entity whose flight a call holds, and the entity may be
marked as absent. -/
theorem leads_giveUp (answer : Except Failure (List Entity)) (negative : Keyed String Instant)
    (flights : Flights) (seat : Seat) {next : Standing → Prop}
    (marks : ∀ other, other ≠ id → negative.get? other = s.negative.get? other)
    (manned : ∀ seats place, seats place = .holding id ticket → s.flights.AreManned seats →
      flights.AreManned (Function.update seats place seat))
    (found : next ⟨seat, .found id answer⟩) :
    (orderly watch).Leads ⟨.holding id ticket, .answered id⟩ s
      { s with negative := negative, flights := flights } next := by
  refine leads_of rfl rfl (by rintro id ⟨⟩) manned ?_ ?_ fun _ _ => found
  · intro minds place own sole tallied
    refine tallied.update fun id => ?_
    rw [own]
    exact iff_of_false (by rintro ⟨⟩) (by rintro ⟨⟩)
  · intro w mem _ phase minds place own sole holds
    by_cases same : id = w.id
    · subst same
      exact holds.giveUp (sole w.id ticket rfl) own rfl rfl
    · have other : some id ≠ some w.id := fun here => same (Option.some_inj.1 here)
      exact holds.elsewhere (own ▸ other) other rfl rfl (marks w.id (Ne.symm same))

/-- What is held of an entity whose flight a call holds is changed while the origin has been asked.
Of an entity that is watched, nothing is held then. -/
theorem leads_answered {store : BackingStore} {next : Standing → Prop}
    (others : ∀ other, other ≠ id → store.recordsOf other = s.store.recordsOf other)
    (nothing : s.store.recordsOf id = [] → store.recordsOf id = [])
    (found : next ⟨.holding id ticket, .answered id⟩) :
    (orderly watch).Leads ⟨.holding id ticket, .answered id⟩ s { s with store := store } next := by
  refine leads_of rfl rfl ?_ ?_ ?_ ?_ fun _ _ => found
  · rintro id ⟨⟩
    exact ⟨ticket, rfl⟩
  · exact fun seats place own manned => manned.stay own
  · rintro minds place own - tallied
    rw [← own, Function.update_eq_self]
    exact tallied
  · rintro w mem - phase minds place own - holds
    refine ⟨phase, Phase.course.refl phase, ?_⟩
    rw [← own, Function.update_eq_self]
    by_cases same : id = w.id
    · subst same
      refine holds.linger own rfl (fun none_held => ?_) rfl
      exact congrArg _ (nothing (List.map_eq_nil_iff.1 none_held))
    · exact holds.quiet rfl (congrArg _ (others w.id fun here => same here.symm)) rfl

/-! ## Fetching -/

section Fetching

variable {r : Resolver (Tally × ε)} {stale : Option (List CacheRecord)}

/-- From the standing of a call to whose fetch the origin has answered. -/
theorem conforms_acceptAbsence :
    (r.acceptAbsence id stale now).Conforms (orderly watch) waits (Fetched id ticket)
      ⟨.holding id ticket, .answered id⟩ := by
  have marked : (r.acceptAbsence id none now).Conforms (orderly watch) waits (Fetched id ticket)
      ⟨.holding id ticket, .answered id⟩ := by
    rw [acceptAbsence]
    cases r.policy.negative with
    | none => exact conforms_pure (.inl (.inl rfl))
    | some duration =>
      refine conforms_ofOutcome_bind (fun until_ _ => ?_) (fun failure _ => .inl (.inl rfl))
        fun _ => .inl (.inl rfl)
      refine conforms_change_bind fun s => leads_giveUp (.ok []) _ s.flights _ ?_ ?_
        (conforms_pure (.inr ⟨.ok [], rfl, rfl⟩))
      · intro other elsewhere
        rw [Keyed.get?_insert, if_neg elsewhere]
      · exact fun seats place own manned => manned.stay own
  cases stale with
  | none => exact marked
  | some records =>
    refine conforms_change_bind fun s => leads_answered (fun other elsewhere => ?_) (fun _ => ?_) ?_
    · rw [BackingStore.recordsOf_remove, if_neg elsewhere]
    · rw [BackingStore.recordsOf_remove, if_pos rfl]
    · refine conforms_quiet_bind (within_gaugeSize r) fun _ => ?_
      exact conforms_quiet_bind (within_unpersist r records) fun _ => marked

theorem conforms_acceptDescriptions {entities : List Entity} :
    (r.acceptDescriptions id entities now).Conforms (orderly watch) waits (Fetched id ticket)
      ⟨.holding id ticket, .answered id⟩ := by
  have rest (stored : List Entity) {standing : Standing}
      (given : Fetched id ticket (.ok stored) standing) :
      (do r.persist stored; r.gaugeSize; return stored :
        Task (ResolverState (Tally × ε)) (List Entity)).Conforms (orderly watch) waits
          (Fetched id ticket) standing := by
    refine conforms_quiet_bind (within_persist r stored) fun _ => ?_
    exact conforms_quiet_bind (within_gaugeSize r) fun _ => conforms_pure given
  have inserted : (r.insertRecords id entities now).Conforms (orderly watch) waits
      (Fetched id ticket) ⟨.holding id ticket, .answered id⟩ := by
    refine conforms_ofOutcome_bind (fun records _ => ?_) (fun failure _ => .inl (.inl rfl))
      fun _ => .inl (.inl rfl)
    split
    · exact conforms_pure (.inl (.inl rfl))
    · exact conforms_change_bind fun s => leads_keep (conforms_pure (.inr ⟨_, rfl, rfl⟩))
  exact inserted.bind (fun stored standing given => rest stored given)
    (fun failure standing given => given) fun standing given => given

theorem conforms_acceptFailure {failure : Failure} :
    (r.acceptFailure id stale now failure).Conforms (orderly watch) waits (Fetched id ticket)
      ⟨.holding id ticket, .answered id⟩ := by
  cases stale with
  | none => exact conforms_fail (.inl (.inl rfl))
  | some records =>
    rw [acceptFailure]
    cases r.policy.onFailure with
    | retain interval =>
      refine conforms_ofOutcome_bind (fun until_ _ => ?_) (fun failure _ => .inl (.inl rfl))
        fun _ => .inl (.inl rfl)
      refine conforms_change_bind fun s => leads_answered (fun other elsewhere => ?_) (fun none_held => ?_)
        (conforms_pure (.inl (.inl rfl)))
      · rw [BackingStore.recordsOf_extendExpiration, if_neg elsewhere]
      · rw [BackingStore.recordsOf_extendExpiration, if_pos rfl, none_held]
        rfl
    | evict =>
      refine conforms_change_bind fun s => leads_answered (fun other elsewhere => ?_) (fun _ => ?_) ?_
      · rw [BackingStore.recordsOf_remove, if_neg elsewhere]
      · rw [BackingStore.recordsOf_remove, if_pos rfl]
      · refine conforms_quiet_bind (within_gaugeSize r) fun _ => ?_
        refine conforms_quiet_bind (within_unpersist r records) fun _ => ?_
        exact conforms_fail (.inl (.inl rfl))

end Fetching

/-- A call that has found nothing live fetches. -/
theorem conforms_fetchEntity {r : Resolver ε} (asked : query.entityId = some id) :
    (r.watched.fetchEntity id query).Conforms (orderly watch) (Waits id) (Fetched id ticket)
      ⟨.holding id ticket, .missed id⟩ := by
  refine conforms_now_bind fun now _ => ?_
  refine conforms_perform_bind fun s => (orderly watch).leads_stay
    (fun _ _ orderly => Orderly.quiet orderly (quiet_get _ _ _)) ?_
  refine (conforms_fetchAndFilter asked).attempt_bind ?_ ?_ ?_
  · rintro answer _ (rfl | ⟨⟨⟩, -⟩)
    cases answer with
    | none => exact conforms_acceptAbsence
    | some entities =>
      dsimp only
      split
      · exact conforms_acceptAbsence
      · exact conforms_acceptDescriptions
  · rintro failure _ (rfl | ⟨⟨⟩, -⟩)
    exact conforms_acceptFailure
  · exact fun standing overflowed => .inl (overflowed.imp_right fun h => ⟨rfl, h.2⟩)

/-- A call that holds its flight looks again, and fetches if there still is nothing live. -/
theorem conforms_fetchUnlessCached {r : Resolver ε} (asked : query.entityId = some id) :
    (r.watched.fetchUnlessCached id query).Conforms (orderly watch) (Waits id) (Fetched id ticket)
      ⟨.holding id ticket, .nothing⟩ := by
  refine conforms_now_bind fun now atNow => ?_
  refine (conforms_liveDescriptions (.missed id) atNow (.inr ⟨rfl, ticket, rfl⟩)).bind ?_ ?_ ?_
  · rintro _ _ (⟨live, ⟨⟩, rfl⟩ | ⟨⟨⟩, rfl⟩)
    · exact conforms_pure (.inr ⟨_, rfl, rfl⟩)
    · refine conforms_isAbsent_bind atNow (by simp [Mind.IsBusy]) ?_ ?_
      · exact conforms_pure (.inr ⟨.ok [], rfl, rfl⟩)
      · exact conforms_fetchEntity asked
  · rintro failure _ (⟨live, ⟨⟩, -⟩ | ⟨⟨⟩, -⟩)
  · rintro _ (⟨live, ⟨⟩, -⟩ | ⟨⟨⟩, -⟩)

/-! ## Taking turns -/

/-- What comes of a call for an entity: what it has found, in some seat. A call that overflows does
so while it holds its flight and has asked the origin. -/
def Found (id : String) (seat : Seat) (outcome : Outcome (List Entity)) (standing : Standing) :
    Prop :=
  (∃ answer, outcome = .ofExcept answer ∧ standing = ⟨seat, .found id answer⟩) ∨
    outcome = .overflow ∧ standing.mind.IsBusy id

theorem WasAsked.isBusy {outcome : Outcome α} (h : WasAsked id ticket outcome standing) :
    standing.mind.IsBusy id := by
  rcases h with rfl | ⟨-, rfl⟩
  · exact .inr rfl
  · exact .inl rfl

/-- A call fetches on a flight that it holds, and hands it over. -/
theorem conforms_fetchHolding {r : Resolver ε} (asked : query.entityId = some id) :
    (r.watched.fetchHolding ticket id query).Conforms (orderly watch) (Waits id)
      (Found id (.aboard id ticket)) ⟨.holding id ticket, .nothing⟩ := by
  -- Whatever has come of the fetch is found now; a call that has kept nothing gives up.
  have handOver (result : Except Failure (List Entity)) (standing : Standing)
      (fetched : Fetched id ticket (.ofExcept result) standing) :
      (do
        .change fun s => { s with flights := s.flights.release ticket }
        .ofExcept result : Task (ResolverState (Tally × ε)) (List Entity)).Conforms (orderly watch)
          (Waits id) (Found id (.aboard id ticket)) standing := by
    refine conforms_change_bind fun s => ?_
    rcases fetched with (rfl | ⟨overflowed, -⟩) | ⟨answer, same, rfl⟩
    · refine leads_giveUp result s.negative _ (.aboard id ticket) (fun _ _ => rfl) ?_ ?_
      · exact fun seats place own manned => manned.release own
      · exact conforms_ofExcept (.inl ⟨result, rfl, rfl⟩)
    · cases result <;> cases overflowed
    · refine leads_seat _ rfl (fun seats place own manned => manned.release own) ?_
      exact conforms_ofExcept (.inl ⟨answer, same, rfl⟩)
  refine (conforms_fetchUnlessCached asked).attempt_bind ?_ ?_ ?_
  · exact fun entities standing fetched => handOver (.ok entities) standing fetched
  · exact fun failure standing fetched => handOver (.error failure) standing fetched
  · rintro standing (was_asked | ⟨answer, same, -⟩)
    · exact .inr ⟨rfl, was_asked.isBusy⟩
    · cases answer <;> cases same

/-- A call that is aboard holds its flight and fetches, serves what is stale, or waits for its
turn. -/
theorem conforms_fly {r : Resolver ε} (asked : query.entityId = some id) :
    (r.watched.fly ticket id query now).Conforms (orderly watch) (Waits id)
      (Found id (.aboard id ticket)) ⟨.aboard id ticket, .nothing⟩ := by
  refine conforms_perform_bind fun s => ?_
  dsimp only
  cases free : (s.flights.tryHold ticket).1 with
  | true =>
    refine leads_seat _ rfl (fun seats place own manned => manned.tryHold own free) ?_
    exact conforms_fetchHolding asked
  | false =>
    have aboard : (orderly watch).Leads ⟨.aboard id ticket, .nothing⟩ s
        { s with flights := (s.flights.tryHold ticket).2 } (· = ⟨.aboard id ticket, .nothing⟩) := by
      refine leads_seat _ rfl (fun seats place own manned => ?_) rfl
      rw [manned.tryHold_of_held own free]
      exact manned.stay own
    refine aboard.imp ?_
    rintro _ rfl
    refine conforms_staleDescriptions.bind ?_ ?_ ?_
    · rintro _ _ (⟨stale, ⟨⟩, rfl⟩ | ⟨⟨⟩, rfl⟩)
      · exact conforms_pure (.inl ⟨.ok stale, rfl, rfl⟩)
      refine conforms_change_bind fun s => ?_
      refine leads_seat _ rfl (fun seats place own manned => manned.queue own) ?_
      refine conforms_waitFor_bind (.inr ⟨ticket, rfl, rfl⟩) fun s isReady => ?_
      exact leads_seat s.flights rfl (fun seats place own manned => manned.wake own isReady)
        (conforms_fetchHolding asked)
    · rintro failure _ (⟨stale, ⟨⟩, -⟩ | ⟨⟨⟩, -⟩)
    · rintro _ (⟨stale, ⟨⟩, -⟩ | ⟨⟨⟩, -⟩)

/-- A call boards the flight of its entity, and is outside again in the end. -/
theorem conforms_fetchInTurn {r : Resolver ε} (asked : query.entityId = some id) :
    (r.watched.fetchInTurn id query now).Conforms (orderly watch) (Waits id) (Found id .outside)
      ⟨.outside, .nothing⟩ := by
  refine conforms_perform_bind fun s => ?_
  refine leads_seat _ rfl (fun seats place own manned => manned.board own) ?_
  have land (result : Except Failure (List Entity)) (standing : Standing)
      (found : Found id (.aboard id (s.flights.board id).1) (.ofExcept result) standing) :
      (do
        .change fun m => { m with flights := m.flights.leave (s.flights.board id).1 }
        .change fun m => { m with flights := m.flights.retire id }
        .ofExcept result : Task (ResolverState (Tally × ε)) (List Entity)).Conforms (orderly watch)
          (Waits id) (Found id .outside) standing := by
    rcases found with ⟨answer, same, rfl⟩ | ⟨overflowed, -⟩
    · refine conforms_change_bind fun m => ?_
      refine leads_seat _ rfl (fun seats place own manned => manned.leave own) ?_
      refine conforms_change_bind fun m => ?_
      refine leads_seat _ rfl (fun seats place own manned => manned.retire own) ?_
      exact conforms_ofExcept (.inl ⟨answer, same, rfl⟩)
    · cases result <;> cases overflowed
  refine (conforms_fly asked).attempt_bind ?_ ?_ ?_
  · exact fun entities standing found => land (.ok entities) standing found
  · exact fun failure standing found => land (.error failure) standing found
  · rintro standing (⟨answer, same, -⟩ | ⟨-, busy⟩)
    · cases answer <;> cases same
    · exact .inr ⟨rfl, busy⟩

theorem conforms_resolveEntityId {r : Resolver ε} (single : r.policy.singleFlight = true)
    (asked : query.entityId = some id) :
    (r.watched.resolveEntityId id query).Conforms (orderly watch) (Waits id) (Found id .outside)
      .start := by
  refine conforms_now_bind fun now atNow => ?_
  refine (conforms_liveDescriptions .nothing atNow (.inl rfl)).bind ?_ ?_ ?_
  · rintro _ _ (⟨live, ⟨⟩, rfl⟩ | ⟨⟨⟩, rfl⟩)
    · exact conforms_quiet_bind (within_count _) fun _ => conforms_pure (.inl ⟨.ok live, rfl, rfl⟩)
    · refine conforms_quiet_bind (within_count _) fun _ => ?_
      refine conforms_isAbsent_bind atNow (by simp [Mind.IsBusy]) ?_ ?_
      · exact conforms_pure (.inl ⟨.ok [], rfl, rfl⟩)
      · rw [if_pos (show r.watched.policy.singleFlight = true from single)]
        exact conforms_fetchInTurn asked
  · rintro failure _ (⟨live, ⟨⟩, -⟩ | ⟨⟨⟩, -⟩)
  · rintro _ (⟨live, ⟨⟩, -⟩ | ⟨⟨⟩, -⟩)

/-- What comes of a call: what it has found of the entity it asked for, as far as it has the role
it asked for. -/
def Resolved (query : Criteria) (id : String) (outcome : Outcome (List Entity))
    (standing : Standing) : Prop :=
  (∃ answer, outcome = .ofExcept (answer.map (keepRole query)) ∧
    standing = ⟨.outside, .found id answer⟩) ∨
  outcome = .overflow ∧ standing.mind.IsBusy id

theorem conforms_resolve {r : Resolver ε} (single : r.policy.singleFlight = true)
    (asked : query.entityId = some id) :
    (r.watched.resolve query).Conforms (orderly watch) (Waits id) (Resolved query id) .start := by
  have ready : r.watched.requireInitialized.Conforms (orderly watch) (Waits id)
      (fun outcome standing => outcome = .ok () ∧ standing = .start) .start := by
    refine conforms_read_bind fun s => (orderly watch).leads_look fun phase standings h => ?_
    rw [h.lifecycle]
    exact conforms_pure ⟨rfl, rfl⟩
  -- What was found is counted and returned, without the entities that lack the role.
  have answer (result : Except Failure (List Entity)) (standing : Standing)
      (found : Found id .outside (.ofExcept result) standing) :
      (do
        ResolverState.count (.resolution r.id (resolution (result.map (keepRole query))))
        .ofExcept (result.map (keepRole query)) :
        Task (ResolverState (Tally × ε)) (List Entity)).Conforms (orderly watch) (Waits id)
          (Resolved query id) standing := by
    refine conforms_quiet_bind (within_count _) fun _ => conforms_ofExcept ?_
    rcases found with ⟨answer, same, rfl⟩ | ⟨overflowed, -⟩
    · cases result <;> cases answer <;> cases same
      · exact .inl ⟨_, rfl, rfl⟩
      · exact .inl ⟨_, rfl, rfl⟩
    · cases result <;> cases overflowed
  rw [resolve]
  refine ready.bind ?_ ?_ ?_
  · rintro _ _ ⟨-, rfl⟩
    rw [asked]
    refine (conforms_resolveEntityId single asked).attempt_bind ?_ ?_ ?_
    · exact fun entities standing found => answer (.ok entities) standing found
    · exact fun failure standing found => answer (.error failure) standing found
    · rintro standing (⟨answer, same, -⟩ | ⟨-, busy⟩)
      · cases answer <;> cases same
      · exact .inr ⟨rfl, busy⟩
  · rintro failure _ ⟨⟨⟩, -⟩
  · rintro _ ⟨⟨⟩, -⟩

/-! ## Any number of calls -/

/-- What is not in the hands of the calls does not interfere with the flights, nor with what has
been noted of the origin, and does not destroy the resolver. -/
structure Aloof (s s' : ResolverState (Tally × ε)) : Prop where
  lifecycle : s'.lifecycle = s.lifecycle
  flights : s'.flights = s.flights
  tally : s'.origin.1 = s.origin.1

theorem Quiet.aloof (quiet : Quiet s s') : Aloof s s' :=
  ⟨quiet.lifecycle, quiet.flights, quiet.tally⟩

/-- What is left of a call. -/
abbrev Rest (ε : Type) := Task (ResolverState ε) (List Entity)

/-- Calls, each with what is left of it. -/
abbrev Calls (ε : Type) := List (Criteria × Rest ε)

/-- No call is under way, and none has met a date or duration out of range. -/
def AreOver (calls : Calls ε) : Prop :=
  ∀ (place : Nat) (query : Criteria) (t : Rest ε), calls[place]? = some (query, t) →
    ∃ outcome, t = .ended outcome ∧ outcome ≠ .overflow

/-- What calls for entities may do next, step by step: any of them may go on, a new one may come,
and the world may move. -/
abbrev Go (r : Resolver ε) (world : Drift (ResolverState ε)) :
    Calls ε × ResolverState ε → Calls ε × ResolverState ε → Prop :=
  Interleaves oneStep world r.resolve fun query => query.entityId.isSome = true

/-- What a call may wait for. -/
def CallWaits (query : Criteria) (standing : Standing)
    (ready : ResolverState (Tally × ε) → Bool) : Prop :=
  ∃ id, query.entityId = some id ∧ Waits id standing ready

/-- What comes of a call. -/
def CallResolved (query : Criteria) (outcome : Outcome (List Entity)) (standing : Standing) : Prop :=
  ∃ id, query.entityId = some id ∧ Resolved query id outcome standing

/-- A resolver that has not been asked for anything. -/
structure IsUnasked (s : ResolverState (Tally × ε)) : Prop where
  lifecycle : s.lifecycle = .initialized
  idle : s.flights.all = []
  tally : s.origin.1 = .empty

/-- Calls take turns in order: one fetch of an entity is under way at a time, on a flight that is
listed and held; whoever waits, waits for the origin or in the line of a flight that is listed;
flights end with the calls; some call can go on as long as not all are over, unless the origin must
answer first; and calls do not go on for ever. -/
structure InOrder (calls : Calls (Tally × ε)) (s : ResolverState (Tally × ε)) : Prop where
  one_fetch : s.origin.1.underway.Nodup
  on_flight : ∀ id ∈ s.origin.1.underway, ∃ f ∈ s.flights.all,
    f.entityId = id ∧ f.holder.isSome = true
  listed : ∀ f ∈ s.flights.all, f.isListed = true
  one_flight : (s.flights.all.map (·.entityId)).Nodup
  waiting : ∀ (place : Nat) (query : Criteria) ready (next : Rest (Tally × ε)),
    calls[place]? = some (query, .await ready next) →
    ∃ id, query.entityId = some id ∧ (id ∈ s.origin.1.underway ∨
      ∃ ticket, ready = (fun s => s.flights.holds ticket) ∧
        ∃ f ∈ s.flights.all, f.entityId = id ∧ (ticket ∈ f.waiting ∨ f.holder = some ticket))
  cleared : AreOver calls → s.flights.all = [] ∧ s.origin.1.underway = []
  goes_on : (∀ (place : Nat) (query : Criteria), calls[place]? ≠ some (query, .ended .overflow)) →
    AreOver calls ∨ s.origin.1.underway ≠ [] ∨
      ∃ (place : Nat) (query : Criteria) (t : Rest (Tally × ε)), calls[place]? = some (query, t) ∧
        t.isEnded = false ∧ t.isReady s = true
  ends : Acc GoesOn calls

section Standings

variable {phase : Phase} {standings : Nat → Standing} {calls : Calls (Tally × ε)} {place : Nat}
  {outcome : Outcome (List Entity)}

variable (h : HasStandings (orderly watch) CallWaits CallResolved .start calls s phase standings)

include h

/-- A call that is over is outside. -/
theorem seat_of_ended (found : calls[place]? = some (query, .ended outcome))
    (inRange : outcome ≠ .overflow) : (standings place).seat = .outside := by
  obtain ⟨id, -, ⟨answer, -, same⟩ | ⟨overflowed, -⟩⟩ := h.conforms place query _ found
  · rw [same]
  · exact absurd overflowed inRange

/-- Who is not outside is the caller of a call that is not over. -/
theorem exists_rest_of_seat
    (inRange : ∀ (place : Nat) (query : Criteria), calls[place]? ≠ some (query, .ended .overflow))
    (inside : (standings place).seat ≠ .outside) :
    ∃ query, ∃ t : Rest (Tally × ε), calls[place]? = some (query, t) ∧ t.isEnded = false := by
  cases found : calls[place]? with
  | none =>
    rw [h.beyond place (List.getElem?_eq_none_iff.1 found)] at inside
    exact absurd rfl inside
  | some call =>
    obtain ⟨query, t⟩ := call
    refine ⟨query, t, rfl, ?_⟩
    cases t with
    | ended outcome =>
      refine absurd (seat_of_ended h found ?_) inside
      rintro rfl
      exact inRange place query found
    | act update next => rfl
    | pause next => rfl
    | await ready next => rfl

/-- Who asks the origin is noted. -/
theorem mem_underway_of_asking {id : String} (asks : (standings place).mind = .asking id) :
    id ∈ s.origin.1.underway :=
  (h.holds.tallied.mem_iff id).2 ⟨place, asks⟩

/-- Who is noted holds the flight. -/
theorem holding_of_underway {id : String} (asked : id ∈ s.origin.1.underway) :
    ∃ place ticket, (standings place).seat = .holding id ticket := by
  obtain ⟨place, asks⟩ := (h.holds.tallied.mem_iff id).1 asked
  have claims : (standings place).mind.claims = some id := by
    rw [show (standings place).mind = .asking id from asks]
    rfl
  exact ⟨place, h.holds.fits place id claims⟩

/-- Who is aboard is aboard of a flight that is listed. -/
theorem listed_of_seat {id : String} (passed : (standings place).seat.pass = some (id, ticket)) :
    ∃ f ∈ s.flights.all, f.entityId = id :=
  h.holds.manned.present place id ticket passed

/-- Who waits, waits for the origin or in the line of a flight. -/
theorem waiting_of_standings {ready : ResolverState (Tally × ε) → Bool} {next : Rest (Tally × ε)}
    (found : calls[place]? = some (query, .await ready next)) :
    ∃ id, query.entityId = some id ∧ (id ∈ s.origin.1.underway ∨
      ∃ ticket, (standings place).seat = .waiting id ticket ∧
        ready = fun s => s.flights.holds ticket) := by
  obtain ⟨⟨id, asked, asks | waits⟩, -⟩ := h.conforms place query _ found
  · exact ⟨id, asked, .inl (mem_underway_of_asking h asks)⟩
  · exact ⟨id, asked, .inr waits⟩

/-- A call to which a flight has been handed, or that holds one, can go on unless the origin must
answer. -/
theorem goes_on_of_holder {f : Flight} (listed : f ∈ s.flights.all) (held : f.holder = some ticket)
    (seat : (standings place).seat = .waiting f.entityId ticket ∨
      (standings place).seat = .holding f.entityId ticket)
    (inRange : ∀ (place : Nat) (query : Criteria), calls[place]? ≠ some (query, .ended .overflow)) :
    s.origin.1.underway ≠ [] ∨
      ∃ (place : Nat) (query : Criteria) (t : Rest (Tally × ε)), calls[place]? = some (query, t) ∧
        t.isEnded = false ∧ t.isReady s = true := by
  have inside : (standings place).seat ≠ .outside := by
    rcases seat with same | same <;> simp [same]
  obtain ⟨query, t, found, unended⟩ := exists_rest_of_seat h inRange inside
  cases t with
  | ended outcome => cases unended
  | act update next => exact .inr ⟨place, query, _, found, rfl, rfl⟩
  | pause next => exact .inr ⟨place, query, _, found, rfl, rfl⟩
  | await ready next =>
    obtain ⟨id, -, asks | ⟨ticket', waits, rfl⟩⟩ := waiting_of_standings h found
    · exact .inl (List.ne_nil_of_mem asks)
    · refine .inr ⟨place, query, _, found, rfl, ?_⟩
      have same : ticket' = ticket := by
        rcases seat with seat | seat <;> cases waits.symm.trans seat
        rfl
      exact List.any_eq_true.2 ⟨f, listed, by simp [held, same]⟩

/-- A call that waits in the line of a flight waits for a call that can go on, unless the origin
must answer. -/
theorem goes_on_of_waiting {id : String} (waits : (standings place).seat = .waiting id ticket)
    (inRange : ∀ (place : Nat) (query : Criteria), calls[place]? ≠ some (query, .ended .overflow)) :
    s.origin.1.underway ≠ [] ∨
      ∃ (place : Nat) (query : Criteria) (t : Rest (Tally × ε)), calls[place]? = some (query, t) ∧
        t.isEnded = false ∧ t.isReady s = true := by
  have passed : (standings place).seat.pass = some (id, ticket) := by rw [waits]; rfl
  obtain ⟨f, listed, rfl⟩ := listed_of_seat h passed
  have manned := h.holds.manned.flight f listed
  rcases manned.waits ticket ⟨place, waits⟩ with inLine | held
  · cases held : f.holder with
    | none =>
      rw [manned.inTurn held] at inLine
      cases inLine
    | some other =>
      rcases (manned.holder other held).2 with ⟨there, seat⟩ | ⟨there, seat⟩
      · exact goes_on_of_holder h listed held (.inl seat) inRange
      · exact goes_on_of_holder h listed held (.inr seat) inRange
  · exact goes_on_of_holder h listed held (.inl waits) inRange

/-- As long as a call is not over, some call can go on, unless the origin must answer. -/
theorem goes_on_of_standings
    (inRange : ∀ (place : Nat) (query : Criteria), calls[place]? ≠ some (query, .ended .overflow)) :
    AreOver calls ∨ s.origin.1.underway ≠ [] ∨
      ∃ (place : Nat) (query : Criteria) (t : Rest (Tally × ε)), calls[place]? = some (query, t) ∧
        t.isEnded = false ∧ t.isReady s = true := by
  by_cases allOver : AreOver calls
  · exact .inl allOver
  right
  simp only [AreOver, not_forall] at allOver
  obtain ⟨place, query, t, found, unended⟩ := allOver
  cases t with
  | ended outcome =>
    refine absurd ⟨outcome, rfl, ?_⟩ unended
    rintro rfl
    exact inRange place query found
  | act update next => exact .inr ⟨place, query, _, found, rfl, rfl⟩
  | pause next => exact .inr ⟨place, query, _, found, rfl, rfl⟩
  | await ready next =>
    obtain ⟨id, -, asks | ⟨ticket, waits, -⟩⟩ := waiting_of_standings h found
    · exact .inl (List.ne_nil_of_mem asks)
    · exact goes_on_of_waiting h waits inRange

theorem inOrder_of_standings : InOrder calls s := by
  have manned := h.holds.manned
  refine ⟨h.holds.tallied.nodup, fun id asked => ?_, fun f listed => (manned.flight f listed).listed,
    manned.single, fun place query ready next found => ?_, fun allOver => ?_, goes_on_of_standings h,
    acc_goesOn calls⟩
  · obtain ⟨place, ticket, holds⟩ := holding_of_underway h asked
    obtain ⟨f, listed, rfl⟩ := listed_of_seat h (by rw [holds]; rfl)
    refine ⟨f, listed, rfl, ?_⟩
    rw [(manned.flight f listed).holding ticket ⟨place, holds⟩]
    rfl
  · obtain ⟨id, asked, asks | ⟨ticket, waits, same⟩⟩ := waiting_of_standings h found
    · exact ⟨id, asked, .inl asks⟩
    · obtain ⟨f, listed, rfl⟩ := listed_of_seat h (by rw [waits]; rfl)
      exact ⟨f.entityId, asked, .inr ⟨ticket, same, f, listed, rfl,
        (manned.flight f listed).waits ticket ⟨place, waits⟩⟩⟩
  · have outside (place : Nat) : (standings place).seat = .outside := by
      cases found : calls[place]? with
      | none => rw [h.beyond place (List.getElem?_eq_none_iff.1 found)]; rfl
      | some call =>
        obtain ⟨outcome, same, inRange⟩ := allOver place call.1 call.2 found
        have ended : calls[place]? = some (call.1, .ended outcome) := by rw [found, ← same]
        exact seat_of_ended h ended inRange
    refine ⟨manned.all_eq_nil outside, List.eq_nil_iff_forall_not_mem.2 fun id asked => ?_⟩
    obtain ⟨place, ticket, holds⟩ := holding_of_underway h asked
    cases (outside place).symm.trans holds

end Standings

/-! ### From the start -/

/-- Before the first call, all standings are those from which calls start. -/
theorem IsUnasked.orderly (unasked : IsUnasked s)
    (bare : ∀ w ∈ watch, w.now = s.now ∧ w.IsBare s) :
    Orderly watch .unasked (fun _ => .start) s := by
  refine ⟨unasked.lifecycle, Flights.areManned_of_idle unasked.idle, ⟨?_, fun id => ?_⟩,
    fun _ => (by rintro id ⟨⟩), fun w mem => ⟨(bare w mem).1, fun _ => trivial, ?_, (bare w mem).2⟩⟩
  · rw [unasked.tally]
    exact List.nodup_nil
  · rw [unasked.tally]
    refine iff_of_false (by rintro ⟨⟩) ?_
    rintro ⟨place, ⟨⟩⟩
  · rw [Watch.fetches, unasked.tally]
    rfl

theorem Orderly.aloof {phase : Phase} {standings : Nat → Standing}
    (h : Orderly none phase standings s) (aloof : Aloof s s') : Orderly none phase standings s' := by
  refine ⟨aloof.lifecycle.trans h.lifecycle, ?_, ?_, h.fits, by simp⟩
  · rw [aloof.flights]
    exact h.manned
  · rw [aloof.tally]
    exact h.tallied

theorem conforms_call {r : Resolver ε} (single : r.policy.singleFlight = true) (query : Criteria)
    (asks : query.entityId.isSome = true) :
    (r.watched.resolve query).Conforms (orderly watch) (CallWaits query) (CallResolved query)
      .start := by
  obtain ⟨id, asked⟩ := Option.isSome_iff_exists.1 asks
  have waits : CallWaits query = (Waits id : Standing → (ResolverState (Tally × ε) → Bool) → Prop) := by
    funext standing ready
    simp [CallWaits, asked]
  have resolved : CallResolved query = Resolved query id := by
    funext outcome standing
    simp [CallResolved, asked]
  rw [waits, resolved]
  exact conforms_resolve single asked

/-- Calls for an entity share a fetch: there has been one only, and every call that is over has
found what was stored, or what is live of it. -/
structure Shares (id : String) (records : List CacheRecord) (now : Instant)
    (calls : Calls (Tally × ε)) (s : ResolverState (Tally × ε)) : Prop where
  one_fetch : s.origin.1.begun.count id = 1
  found : ∀ (place : Nat) (query : Criteria) (outcome : Outcome (List Entity)),
    calls[place]? = some (query, .ended outcome) → query.entityId = some id →
    outcome = .ok (keepRole query (records.map (·.entity))) ∨
      outcome = .ok (keepRole query ((records.filter fun record => !record.isExpired now).map (·.entity)))

theorem shares_of_standings {w : Watch} {records : List CacheRecord} {calls : Calls (Tally × ε)}
    {standings : Nat → Standing} (same : w.records = records.map CacheRecord.dated)
    (h : HasStandings (orderly (some w)) CallWaits CallResolved .start calls s .kept standings) :
    Shares w.id records w.now calls s := by
  obtain ⟨-, admits, one, held, -⟩ := h.holds.watched w rfl
  refine ⟨one, fun place query outcome found asked => ?_⟩
  have admitted := admits place
  obtain ⟨id, asked', resolved⟩ := h.conforms place query _ found
  obtain rfl := Option.some_inj.1 (asked.symm.trans asked')
  rcases resolved with ⟨answer, rfl, stands⟩ | ⟨-, busy | busy⟩
  · rw [Function.comp_apply, stands] at admitted
    rcases admitted rfl with past | ⟨-, rfl | rfl⟩
    · cases past
    · left
      rw [same, List.map_map]
      rfl
    · right
      rw [same, filter_dated, List.map_map]
      rfl
  · rw [Function.comp_apply, busy] at admitted
    rcases admitted rfl with other | other <;> cases other
  · rw [Function.comp_apply, busy] at admitted
    rcases admitted rfl with other | other <;> cases other

/-- **One fetch at a time.** However many calls for entities there are, and however their steps
follow upon each other, calls take turns in order. If nothing is held of an entity at the start,
the clock stands still, and the first fetch of the entity has stored records one of which is live,
then there never is another fetch of it, and every call for it finds these records, or those that
are live. -/
theorem takes_turns {r : Resolver ε} (single : r.policy.singleFlight = true)
    {world : Drift (ResolverState (Tally × ε))} (aloof : ∀ s s', world.rel s s' → Aloof s s')
    {s₀ : ResolverState (Tally × ε)} (unasked : IsUnasked s₀)
    {after : Calls (Tally × ε) × ResolverState (Tally × ε)}
    (reached : Relation.ReflTransGen (Go r.watched world) ([], s₀) after) :
    InOrder after.1 after.2 ∧
    ∀ id mid, (∀ s s', world.rel s s' → Quiet s s') →
      s₀.store.recordsOf id = [] →
      (∀ until_, s₀.negative.get? id = some until_ → ¬ s₀.now < until_) →
      Relation.ReflTransGen (Go r.watched world) ([], s₀) mid →
      Relation.ReflTransGen (Go r.watched world) mid after →
      mid.2.origin.1.begun.count id = 1 →
      (∃ record ∈ mid.2.store.recordsOf id, record.isExpired s₀.now = false) →
      Shares id (mid.2.store.recordsOf id) s₀.now after.1 after.2 := by
  refine ⟨?_, fun id mid still uncached unmarked before since one some_live => ?_⟩
  · -- The order of a call's turns does not depend on what anybody watches.
    have start : HasStandings (orderly none) CallWaits CallResolved .start [] s₀ .unasked
        fun _ => .start :=
      ⟨unasked.orderly (by simp), fun _ _ => rfl, fun place c t found => by cases found⟩
    obtain ⟨phase, standings, -, h⟩ := start.later
      (fun _ _ s s' moved orderly => Orderly.aloof orderly (aloof s s' moved))
      (conforms_call single) reached
    exact inOrder_of_standings h
  · obtain ⟨record, listed, live⟩ := some_live
    let w : Watch :=
      { id := id
        now := s₀.now
        records := (mid.2.store.recordsOf id).map CacheRecord.dated
        some_live := ⟨record.dated, List.mem_map_of_mem listed, by
          rw [← Instant.not_le]
          exact of_decide_eq_false live⟩ }
    have bare : w.IsBare s₀ := ⟨congrArg (List.map _) uncached, unmarked⟩
    have start : HasStandings (orderly (some w)) CallWaits CallResolved .start [] s₀ .unasked
        fun _ => .start := by
      refine ⟨unasked.orderly ?_, fun _ _ => rfl, fun place c t found => by cases found⟩
      rintro w' mem
      obtain rfl := Option.some_inj.1 mem
      exact ⟨rfl, bare⟩
    have kept (phase : Phase) (standings : Nat → Standing) (s s' : ResolverState (Tally × ε))
        (moved : world.rel s s') (orderly : Orderly (some w) phase standings s) :
        Orderly (some w) phase standings s' := orderly.quiet (still s s' moved)
    obtain ⟨phase₁, standings₁, -, h₁⟩ := start.later kept (conforms_call single) before
    -- The origin has been asked once, and what it answered is held.
    obtain rfl := (h₁.holds.watched w rfl).2.eq_kept one rfl
    obtain ⟨phase₂, standings₂, later, h₂⟩ := h₁.later kept (conforms_call single) since
    -- After that no phase follows.
    rcases later with rfl | first | ⟨second, -⟩
    · exact shares_of_standings rfl h₂
    · cases first
    · cases second

/-! ### At work -/

/-- A resolver whose origin, after a pause, gives some descriptions, which have been through the
filters. Descriptions may be cached as briefly as they say. -/
def hesitating (entities : List Entity) : Resolver Unit where
  id := "r"
  policy := { CachePolicy.standard with shortest := .zero }
  origin :=
    { fetch _ := do
        .pauseIf true
        return some (.group (.ofEntities entities))
      refresh _ _ := pure .notApplicable
      isPrefiltered := true
      isSecondary := false
      retryDelay := none }
  filters := []
  warmFilters := []
  persistence := none

/-- The identity provider, with a description that may be cached for some seconds. -/
def briefly (seconds : Nat) (registrar : Option String) : Entity :=
  { Entity.ofId "https://idp.example.org" with cacheSeconds := some seconds, registrar := registrar }

/-- Two calls for an entity that begin together, on a new resolver. -/
def twoCalls (r : Resolver Unit) : Calls (Tally × Unit) × ResolverState (Tally × Unit) :=
  let query : Criteria := { entityId := some "https://idp.example.org" }
  ([(query, r.watched.resolve query), (query, r.watched.resolve query)],
    { ResolverState.start [] (.memory (.empty false)) (Tally.empty, ()) ⟨0, 0⟩ with
      lifecycle := .initialized })

/-- What came of calls that are over. -/
def outcomes (calls : Calls ε) : List (Option (Outcome (List Entity))) :=
  calls.map fun call =>
    match call.2 with
    | .ended outcome => some outcome
    | _ => none

/-- Nothing moves but the calls. -/
def standstill : Drift (ResolverState ε) where
  rel := Eq
  refl _ := rfl
  trans := Eq.trans

theorem isUnasked_twoCalls (r : Resolver Unit) : IsUnasked (twoCalls r).2 := ⟨rfl, rfl, rfl⟩

theorem steps_giveTurns (r : Resolver Unit) (places : List Nat)
    (before : Calls (Tally × Unit) × ResolverState (Tally × Unit)) :
    Relation.ReflTransGen (Go r.watched standstill) before (giveTurns places before) :=
  (reflTransGen_giveTurns places before).lift' (fun now => now) fun _ _ => Interleaves.steps

theorem reached_twoCalls (r : Resolver Unit) (places : List Nat) :
    Relation.ReflTransGen (Go r.watched standstill) ([], (twoCalls r).2)
      (giveTurns places (twoCalls r)) :=
  .head (.start _ _ rfl) (.head (.start _ _ rfl) (steps_giveTurns r places _))

/-- Two calls for an entity with one description take turns, and share what the first has stored
before its last turn. -/
theorem calls_share_description :
    let r := hesitating [briefly 3600 none]
    let before := giveTurns [0, 1, 0] (twoCalls r)
    let after := giveTurns [1] before
    InOrder after.1 after.2 ∧
      Shares "https://idp.example.org" (before.2.store.recordsOf "https://idp.example.org") ⟨0, 0⟩
        after.1 after.2 ∧
      outcomes after.1 = [some (.ok [briefly 3600 none]), some (.ok [briefly 3600 none])] := by
  intro r before after
  have still : ∀ s s' : ResolverState (Tally × Unit), standstill.rel s s' → Quiet s s' := by
    rintro s _ rfl
    exact quiet_refl s
  have steps : Relation.ReflTransGen (Go r.watched standstill) before after :=
    steps_giveTurns r [1] before
  have first : Relation.ReflTransGen (Go r.watched standstill) ([], (twoCalls r).2) before :=
    reached_twoCalls r [0, 1, 0]
  obtain ⟨inOrder, shares⟩ := takes_turns (r := r) rfl (fun s s' same => (still s s' same).aloof)
    (isUnasked_twoCalls r) (first.trans steps)
  refine ⟨inOrder, shares _ before still rfl (fun until_ marked => ?_) first steps (by decide)
    (by decide), by decide⟩
  cases marked

/-- Of the two descriptions of an entity, one is expired as soon as it is stored. The call that
fetched them gives both, and the call that waited for it only the other. -/
theorem waiting_call_misses_description :
    let entities := [briefly 0 none, briefly 3600 (some "https://federation.example.org")]
    let r := hesitating entities
    let after := giveTurns [0, 1, 0, 1] (twoCalls r)
    Relation.ReflTransGen (Go r.watched standstill) ([], (twoCalls r).2) after ∧
      after.2.origin.1.begun = ["https://idp.example.org"] ∧
      (∃ record ∈ after.2.store.recordsOf "https://idp.example.org",
        record.isExpired (twoCalls r).2.now = false) ∧
      outcomes after.1 = [some (.ok entities),
        some (.ok [briefly 3600 (some "https://federation.example.org")])] := by
  intro entities r after
  exact ⟨reached_twoCalls r _, by decide, by decide, by decide⟩

end Resolver

end Federation
