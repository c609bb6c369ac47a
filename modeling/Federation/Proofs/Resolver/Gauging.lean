/-
# The gauge of the number of entities

A resolver sets a gauge to the number of entities in its store. Nothing ties the two together
but that every call that takes entities in or out sets the gauge again before it returns, by
whichever way it returns.

Between the two a call may only do what cannot fail: taking records in or out, and keeping copies
in the persistent cache, whose failures are counted or passed over. If a failure could come in
between, the call would return with a gauge that is out of date.

A date or duration out of range may come in between where a call takes in several entities before it
sets the gauge. The call ends there and then, and the gauge is out of date. It stays so as long as
no other call takes anything in or out, and those that do not return as if nothing had happened.

The gauge of an ID tells of one resolver only if no other resolver has the same ID. Such a
resolver is called the sole one here: whatever moves around it, and whatever comes of the calls
to its origin and its persistent cache, leaves its store and its gauge alone.

## Main definitions

* `IsGauged` — the gauge tells the number of entities; until it is set there are none
* `Regauges`, `Mends` — a task leaves the gauge right, whatever it comes to or if it returns
* `SoleNext` — what happens next to the sole resolver with its ID
* `Strayed` — a call was cut short and left the gauge wrong, and nothing has changed since

## Main results

* `Call.restores_gauge` — every call that returns leaves the gauge right or as it was
* `Call.keeps_gauge` — so does a call that is cut short, if it does not take in several entities
* `gauge_tells_size_iff` — after any calls the gauge is right unless it has strayed
-/

import Federation.Proofs.Resolver.Failing
import Federation.Proofs.Resolver.Reporting
import Federation.Proofs.Resolver.Soundness

namespace Federation.Resolver

open Federation.Metadata Federation.Time Federation.Task ResolverState

variable {ε α β : Type} {r : Resolver ε} {s s' : ResolverState ε} {now : Instant} {id : String}
  {query : Criteria}

/-! ## The gauge -/

/-- The gauge tells the number of entities in the store. As long as it has not been set, there
are none. -/
def IsGauged (r : Resolver ε) (s : ResolverState ε) : Prop :=
  (s.metrics.gauge? (.storedEntities r.id)).getD 0 = s.store.size

/-- Whatever moves around the sole resolver with its ID leaves its store and its gauge alone. -/
def undisturbed (r : Resolver ε) : Drift (ResolverState ε) where
  rel s s' := s'.store = s.store ∧
    s'.metrics.gauge? (.storedEntities r.id) = s.metrics.gauge? (.storedEntities r.id)
  refl _ := ⟨rfl, rfl⟩
  trans first second := ⟨second.1.trans first.1, second.2.trans first.2⟩

/-- There are as many entities as before, and the gauge tells the same. -/
structure Alike (r : Resolver ε) (s s' : ResolverState ε) : Prop where
  size : s'.store.size = s.store.size
  gauge : s'.metrics.gauge? (.storedEntities r.id) = s.metrics.gauge? (.storedEntities r.id)

theorem Alike.isGauged_iff (alike : r.Alike s s') : r.IsGauged s' ↔ r.IsGauged s := by
  rw [IsGauged, IsGauged, alike.gauge, alike.size]

theorem Alike.of_unreported (unreported : Unreported r s s') : r.Alike s s' :=
  ⟨unreported.size, unreported.gauge⟩

theorem Alike.of_undisturbed (moved : r.undisturbed.rel s s') : r.Alike s s' :=
  ⟨congrArg BackingStore.size moved.1, moved.2⟩

/-- The gauge is right, or everything is as it was. -/
def gauged (r : Resolver ε) : Drift (ResolverState ε) where
  rel s s' := r.IsGauged s' ∨ r.Alike s s'
  refl _ := .inr ⟨rfl, rfl⟩
  trans first second := by
    rcases second with right | later
    · exact .inl right
    · refine first.imp later.isGauged_iff.2 fun alike => ?_
      exact ⟨later.size.trans alike.size, later.gauge.trans alike.gauge⟩

theorem IsGauged.of_gauged (right : r.IsGauged s) (moved : r.gauged.rel s s') : r.IsGauged s' := by
  rcases moved with right' | alike
  · exact right'
  · exact alike.isGauged_iff.2 right

theorem gauged_unwound (moved : r.gauged.rel s s') : r.gauged.rel s s'.unwound :=
  r.gauged.trans moved (.inr ⟨rfl, rfl⟩)

/-- Whatever the gauge was, it is right after a task, whatever that comes to. -/
def Regauges (r : Resolver ε) (t : Task (ResolverState ε) α) : Prop :=
  ∀ s outcome s', t.Runs r.undisturbed s outcome s' → r.IsGauged s'

/-- Whatever the gauge was, it is right after a task that returns. -/
def Mends (r : Resolver ε) (t : Task (ResolverState ε) α) : Prop :=
  ∀ s outcome s', t.Runs r.undisturbed s outcome s' → outcome ≠ .overflow → r.IsGauged s'

theorem overlooks_gauged : Overlooks r r.undisturbed r.gauged where
  below _ _ moved := .inr (.of_undisturbed moved)
  unreported _ _ unreported := .inr (.of_unreported unreported)

/-- What is not reported leaves the gauge as it was. -/
theorem keeps_gauge {t : Task (ResolverState ε) α} (h : t.Within (Unreported r) True True) :
    t.Keeps r.undisturbed r.gauged :=
  overlooks_gauged.keeps h

theorem restores_gauge_change {f : ResolverState ε → ResolverState ε}
    (alike : ∀ m, r.Alike m (f m)) : (Task.change f).Restores r.undisturbed r.gauged :=
  (keeps_change overlooks_gauged.below fun m => .inr (alike m)).restores

theorem keeps_gauge_count (c : Counter) :
    (ResolverState.count c : Task (ResolverState ε) Unit).Keeps r.undisturbed r.gauged :=
  keeps_change overlooks_gauged.below fun _ => .inr ⟨rfl, rfl⟩

/-! ### Setting it again -/

theorem regauges_gaugeSize : Regauges r r.gaugeSize := by
  rintro s outcome _ ⟨m, -, -, rfl⟩
  simp [IsGauged, Metrics.gauge?_set]

theorem Regauges.keeps {t : Task (ResolverState ε) α} (h : Regauges r t) :
    t.Keeps r.undisturbed r.gauged :=
  fun s outcome s' ran => .inl (h s outcome s' ran)

/-- What comes after must leave it right. -/
theorem Regauges.bind {t : Task (ResolverState ε) α} {k : α → Task (ResolverState ε) β}
    (first : Regauges r t) (second : ∀ a, (k a).Keeps r.undisturbed r.gauged) :
    Regauges r (t >>= k) := by
  intro s outcome s' ran
  rcases runs_bind.1 ran with ⟨a, m, before, after⟩ | ⟨failure, -, before⟩ | ⟨-, before⟩
  · have right := first s _ m before
    exact right.of_gauged (second a m outcome s' after)
  · exact first s _ s' before
  · exact first s _ s' before

/-- What comes before must come to an end with a value. -/
theorem Regauges.after {t : Task (ResolverState ε) α} {k : α → Task (ResolverState ε) β}
    (first : t.Within Anything False False) (second : ∀ a, Regauges r (k a)) :
    Regauges r (t >>= k) := by
  intro s outcome s' ran
  rcases runs_bind.1 ran with ⟨a, m, -, after⟩ | ⟨failure, -, before⟩ | ⟨-, before⟩
  · exact second a m outcome s' after
  · exact absurd rfl (first.runs_ne_failed before failure)
  · exact absurd rfl (first.runs_ne_overflow before)

theorem Regauges.mends {t : Task (ResolverState ε) α} (h : Regauges r t) : Mends r t :=
  fun s outcome s' ran _ => h s outcome s' ran

theorem Mends.restores {t : Task (ResolverState ε) α} (h : Mends r t) :
    t.Restores r.undisturbed r.gauged :=
  fun s outcome s' ran ends => .inl (h s outcome s' ran ends)

/-- For a task that returns it is enough if what comes before does not fail. -/
theorem Mends.after {t : Task (ResolverState ε) α} {k : α → Task (ResolverState ε) β}
    (first : t.Within Anything False True) (second : ∀ a, Mends r (k a)) : Mends r (t >>= k) := by
  intro s outcome s' ran ends
  obtain ⟨a, m, -, after⟩ := first.exists_runs ran ends
  exact second a m outcome s' after ends

theorem unfailing_change (f : ResolverState ε → ResolverState ε) :
    (Task.change f).Within Anything False False :=
  within_change fun _ => trivial

/-- The store is changed, and the gauge is set at once. -/
theorem keeps_gauge_change {f : ResolverState ε → ResolverState ε}
    {t : Task (ResolverState ε) α} (rest : t.Keeps r.undisturbed r.gauged) :
    (do Task.change f; r.gaugeSize; t).Keeps r.undisturbed r.gauged := by
  apply Regauges.keeps
  apply Regauges.after (unfailing_change f)
  intro _
  exact regauges_gaugeSize.bind fun _ => rest

theorem unfailing_forEach {items : List α} {f : α → Task (ResolverState ε) β}
    (each : ∀ a, (f a).Within Anything False True) :
    (Task.forEach items fun a => do let _ ← f a).Within Anything False True :=
  within_forEach (fun a => (each a).bind fun _ => within_pure ()) items

theorem unfailing_collect {items : List α} {f : α → Task (ResolverState ε) β}
    (each : ∀ a, (f a).Within Anything False True) :
    (Task.collect items f).Within Anything False True := by
  induction items with
  | nil => exact within_pure []
  | cons a rest ih => exact (each a).bind fun b => ih.bind fun bs => within_pure (b :: bs)

/-! ## Taking in what came of a fetch -/

theorem keeps_gauge_acceptAbsence (id : String) (stale : Option (List CacheRecord))
    (now : Instant) : (r.acceptAbsence id stale now).Keeps r.undisturbed r.gauged := by
  have noted : (r.acceptAbsence id none now).Keeps r.undisturbed r.gauged :=
    keeps_gauge unreported_acceptAbsence_none
  cases stale with
  | none => exact noted
  | some records =>
    exact keeps_gauge_change ((keeps_gauge (unreported_unpersist records)).bind fun _ => noted)

/-- The descriptions of one entity are taken in all at once, when their records have been made. -/
theorem keeps_gauge_acceptDescriptions (id : String) (entities : List Entity) (now : Instant) :
    (r.acceptDescriptions id entities now).Keeps r.undisturbed r.gauged := by
  rw [acceptDescriptions, insertRecords]
  cases r.policy.records now entities with
  | failed failure => exact keeps_ended _
  | overflow => exact keeps_ended _
  | ok records =>
    apply Regauges.keeps
    apply Regauges.after
    · show (if records.isEmpty then _ else _ : Task (ResolverState ε) _).Within Anything False False
      split
      · exact within_pure []
      · exact (unfailing_change _).bind fun _ => within_pure _
    intro stored
    -- The copies are kept before the gauge is set. What fails there is counted and passed over.
    apply Regauges.after (unfailing_persist r stored)
    intro _
    exact regauges_gaugeSize.bind fun _ => keeps_pure stored

theorem keeps_gauge_acceptFailure (id : String) (stale : Option (List CacheRecord))
    (now : Instant) (failure : Failure) :
    (r.acceptFailure id stale now failure).Keeps r.undisturbed r.gauged := by
  cases stale with
  | none => exact keeps_ended _
  | some records =>
    rw [acceptFailure]
    split
    · apply (keeps_ended _).bind
      intro until_
      exact (keeps_gauge (unreported_retain until_)).bind fun _ => keeps_pure _
    · apply keeps_gauge_change
      exact (keeps_gauge (unreported_unpersist records)).bind fun _ => keeps_ended _

/-- The entities of an answer are taken in one after another, and the gauge is set after the last
of them. -/
theorem mends_acceptAnswer (entities : List Entity) (now : Instant) :
    Mends r (r.acceptAnswer entities now) := by
  apply Mends.after
  · apply unfailing_collect
    intro group
    apply (unfailing_insertRecords r group.2).bind
    intro stored
    exact (unfailing_persist r stored).bind fun _ => within_pure stored
  · intro stored
    exact (regauges_gaugeSize.bind fun _ => keeps_pure _).mends

theorem takesIn_gauged (records : r.origin.RecordsFetches) : TakesIn r r.undisturbed r.gauged where
  toOverlooks := overlooks_gauged
  records := records
  absence := keeps_gauge_acceptAbsence
  descriptions := keeps_gauge_acceptDescriptions
  failure := keeps_gauge_acceptFailure
  answer entities now := (mends_acceptAnswer entities now).restores

theorem restores_gauge_resolve (records : r.origin.RecordsFetches) :
    (r.resolve query).Restores r.undisturbed r.gauged :=
  (takesIn_gauged records).restores_resolve fun _ => keeps_gauge_count _

/-- A query for an entity takes in no other. -/
theorem keeps_gauge_resolve (records : r.origin.RecordsFetches) (asked : query.entityId.isSome) :
    (r.resolve query).Keeps r.undisturbed r.gauged :=
  (takesIn_gauged records).keeps_resolve asked fun _ => keeps_gauge_count _

/-! ## Refreshing -/

/-- The store is cleared first, and the gauge is set last. -/
theorem mends_replaceAll (entities : List Entity) : Mends r (r.replaceAll entities now) := by
  apply Mends.after (within_change fun _ => trivial)
  intro _
  apply Mends.after
  · exact unfailing_forEach fun group => unfailing_insertRecords r group.2
  · exact fun _ => regauges_gaugeSize.mends

theorem keeps_gauge_note (f : RefreshStatus → RefreshStatus) :
    (note f : Task (ResolverState ε) Unit).Keeps r.undisturbed r.gauged :=
  keeps_gauge (within_change fun _ => unreported_of_metrics rfl rfl)

theorem restores_gauge_acceptRefresh (result : Except Failure RefreshOutcome) :
    (r.acceptRefresh now result).Restores r.undisturbed r.gauged := by
  have stamped (kind : String) : (r.stamp kind now).Keeps r.undisturbed r.gauged :=
    keeps_gauge (unreported_stamp kind)
  rcases result with failure | ⟨entities, next⟩ | next | _
  -- It has failed, and the store is as it was.
  · apply Keeps.restores
    apply (keeps_gauge_note _).bind
    intro _
    apply (keeps_ended _).bind
    intro at_
    apply (keeps_gauge_note _).bind
    intro _
    apply (stamped "refresh").bind
    intro _
    exact (keeps_gauge_count _).bind fun _ => keeps_ended _
  -- Noting the time of the refresh may get out of range, but nothing is in doubt by then.
  · apply (mends_replaceAll entities).restores.bind
    intro _
    apply Keeps.restores
    apply (keeps_gauge_note _).bind
    intro _
    apply (keeps_ended _).bind
    intro at_
    apply (keeps_gauge_note _).bind
    intro _
    apply (stamped "refresh").bind
    intro _
    exact (stamped "update").bind fun _ => keeps_pure _
  -- Nothing has changed, or there was no refresh.
  · apply Keeps.restores
    apply (keeps_gauge_note _).bind
    intro _
    apply (keeps_ended _).bind
    intro at_
    apply (keeps_gauge_note _).bind
    intro _
    exact (stamped "refresh").bind fun _ => keeps_pure _
  · exact (keeps_pure none).restores

theorem restores_gauge_runRefresh (records : r.origin.RecordsFetches) :
    r.runRefresh.Restores r.undisturbed r.gauged := by
  apply (keeps_gauge (unreported_read _)).restores.bind
  intro now
  apply (keeps_gauge (unreported_of_fetches (records.refresh _ _))).attempt.restores.bind
  exact restores_gauge_acceptRefresh

/-! ## Warm starts -/

theorem unfailing_dropKey (key : String) :
    (dropKey key : Task (ResolverState ε) Unit).Within Anything False True :=
  (unfailing_attempt _).bind fun _ => within_pure ()

theorem unfailing_moveKey (key expected : String) :
    (moveKey key expected : Task (ResolverState ε) Unit).Within Anything False True := by
  apply (unfailing_attempt _).bind
  intro moved
  split
  · exact unfailing_dropKey key
  · exact within_pure ()

theorem unfailing_readKey (key : String) :
    (r.readKey now key).Within Anything False True := by
  apply (unfailing_attempt _).bind
  intro loaded
  split
  · exact within_pure []
  · exact within_pure []
  · split <;> exact within_pure _

theorem unfailing_read (f : ResolverState ε → α) : (Task.read f).Within Anything False True :=
  within_read (fun _ => trivial) f

theorem unfailing_loadEntity (p : Persistence) (key : String) (e : Entity) :
    (r.loadEntity p now key e).Within Anything False True := by
  have inserted : (do
      if ← Task.read fun (s : ResolverState ε) => s.store.contains e.entityId then return false
      else return !(← r.insertRecords e.entityId [e] now).isEmpty).Within Anything False True := by
    apply (unfailing_read _).bind
    intro held
    split
    · exact within_pure false
    · exact (unfailing_insertRecords r [e]).bind fun _ => within_pure _
  rw [loadEntity]
  split
  · exact (unfailing_dropKey key).bind fun _ => within_pure false
  · dsimp only
    split
    · exact (unfailing_moveKey key _).bind fun _ => inserted
    · exact inserted

theorem unfailing_loadKeys (p : Persistence) (keys : List String) :
    (r.loadKeys p now keys).Within Anything False True := by
  induction keys with
  | nil => exact within_pure 0
  | cons key rest ih =>
    apply (unfailing_read _).bind
    intro lifecycle
    split
    · exact within_pure 0
    · apply (unfailing_readKey key).bind
      intro entities
      apply (unfailing_collect fun e => unfailing_loadEntity p key e).bind
      intro loaded
      exact ih.bind fun others => within_pure _

/-- Once the keys have been listed, nothing can fail before the gauge is set. -/
theorem restores_gauge_loadCache : r.loadCache.Restores r.undisturbed r.gauged := by
  rw [loadCache]
  cases r.persistence with
  | none => exact (keeps_pure 0).restores
  | some p =>
    apply (keeps_gauge (unreported_onCache _)).attempt.restores.bind
    intro listed
    cases listed with
    | error failure => exact (keeps_pure 0).restores
    | ok keys =>
      apply (keeps_gauge (unreported_read _)).restores.bind
      intro now
      -- Keys that cannot be read, and entries that cannot be moved or dropped, are passed over.
      apply Mends.restores
      apply Mends.after (unfailing_loadKeys p _)
      intro loaded
      exact (regauges_gaugeSize.bind fun _ => keeps_pure loaded).mends

theorem restores_gauge_warmStart : r.warmStart.Restores r.undisturbed r.gauged := by
  rw [warmStart]
  cases r.persistence with
  | none => exact (keeps_pure ()).restores
  | some p =>
    dsimp only
    split
    · exact (keeps_pure ()).restores
    · split
      · exact restores_gauge_change fun _ => ⟨rfl, rfl⟩
      · exact restores_gauge_loadCache.bind fun _ => (keeps_pure ()).restores

/-! ## Other calls -/

theorem restores_gauge_prepare (records : r.origin.RecordsFetches) :
    r.prepare.Restores r.undisturbed r.gauged := by
  apply (keeps_gauge (unreported_read _)).restores.bind
  intro lifecycle
  cases lifecycle with
  | initialized => exact (keeps_pure ()).restores
  | destroyed => exact (keeps_gauge unreported_requireInitialized).restores
  | fresh =>
    apply restores_gauge_warmStart.bind
    intro _
    apply (restores_gauge_runRefresh records).attempt.bind
    intro _
    exact restores_gauge_change fun _ => ⟨rfl, rfl⟩

theorem restores_gauge_refresh (records : r.origin.RecordsFetches) :
    r.refresh.Restores r.undisturbed r.gauged :=
  (keeps_gauge unreported_requireInitialized).restores.bind fun _ => restores_gauge_runRefresh records

/-- Copies are removed from the persistent cache one after another, up to the first failure. By
then the gauge has been set. -/
theorem keeps_gauge_removals (keys : List String) :
    (Task.forEach keys fun key => do
      let _ ← onCache (·.remove key) : Task (ResolverState ε) Unit).Keeps r.undisturbed r.gauged :=
  keeps_forEach (fun _ => (keeps_gauge (unreported_onCache _)).bind fun _ => keeps_pure ()) keys

theorem keeps_gauge_clear : r.clear.Keeps r.undisturbed r.gauged := by
  apply (keeps_gauge unreported_requireInitialized).bind
  intro _
  apply keeps_gauge_change
  split
  · exact keeps_pure ()
  · apply (keeps_gauge (unreported_onCache _)).bind
    exact keeps_gauge_removals

theorem keeps_gauge_clearEntity (id : String) :
    (r.clearEntity id).Keeps r.undisturbed r.gauged := by
  apply (keeps_gauge unreported_requireInitialized).bind
  intro _
  apply (keeps_gauge (unreported_read _)).bind
  intro removed
  apply keeps_gauge_change
  split
  · exact keeps_pure ()
  · exact keeps_gauge_removals _

theorem keeps_gauge_cleanup : r.cleanup.Keeps r.undisturbed r.gauged := by
  apply (keeps_gauge (unreported_read _)).bind
  intro lifecycle
  split
  · exact keeps_pure 0
  · apply Regauges.keeps
    apply Regauges.after
    · exact within_perform fun _ => trivial
    · intro evicted
      exact regauges_gaugeSize.bind fun _ => keeps_pure evicted

theorem keeps_gauge_destroy : r.destroy.Keeps r.undisturbed r.gauged := by
  apply (keeps_gauge (unreported_read _)).bind
  intro lifecycle
  split
  · exact keeps_pure ()
  · apply Regauges.keeps
    apply Regauges.after (unfailing_change _)
    exact fun _ => regauges_gaugeSize

/-- Does a call take in several entities, one after another, before it sets the gauge? -/
def Call.takesSeveral : Call → Bool
  | prepare | refresh | loadCache => true
  | resolve query => query.entityId.isNone
  | clear | clearEntity _ | cleanup | destroy => false

/-- **One call that returns.** The gauge is right after it or as it was, whatever came of it. -/
theorem Call.restores_gauge (records : r.origin.RecordsFetches) (c : Call) :
    (c.task r).Restores r.undisturbed r.gauged := by
  cases c with
  | prepare => exact restores_gauge_prepare records
  | resolve query => exact (restores_gauge_resolve records).bind fun _ => (keeps_pure ()).restores
  | refresh => exact (restores_gauge_refresh records).bind fun _ => (keeps_pure ()).restores
  | clear => exact keeps_gauge_clear.restores
  | clearEntity id => exact (keeps_gauge_clearEntity id).restores
  | cleanup => exact (keeps_gauge_cleanup.bind fun _ => keeps_pure ()).restores
  | loadCache => exact restores_gauge_loadCache.bind fun _ => (keeps_pure ()).restores
  | destroy => exact keeps_gauge_destroy.restores

/-- **One call that may be cut short.** The same is true of it if it does not take in several
entities. -/
theorem Call.keeps_gauge (records : r.origin.RecordsFetches) {c : Call}
    (single : c.takesSeveral = false) : (c.task r).Keeps r.undisturbed r.gauged := by
  cases c with
  | resolve query =>
    have asked : query.entityId.isSome := by
      rw [takesSeveral, Option.isNone_eq_false_iff] at single
      exact single
    exact (keeps_gauge_resolve records asked).bind fun _ => keeps_pure ()
  | clear => exact keeps_gauge_clear
  | clearEntity id => exact keeps_gauge_clearEntity id
  | cleanup => exact keeps_gauge_cleanup.bind fun _ => keeps_pure ()
  | destroy => exact keeps_gauge_destroy
  | prepare | refresh | loadCache => cases single

/-! ## Calls one after another -/

/-- What happens next to the sole resolver with its ID: something moves around it, or it is called,
and the call returns or, if it is one of some calls, is cut short. Whatever moves around it does so
during the call as well. -/
inductive SoleNext (r : Resolver ε) (mayCut : Call → Prop) (s s' : ResolverState ε) : Prop where
  | aside (moved : r.undisturbed.rel s s')
  | call (c : Call) (outcome : Outcome Unit)
      (ran : (c.task r).Runs r.undisturbed s outcome s') (returns : outcome ≠ .overflow)
  | overrun (c : Call) (may : mayCut c) (m : ResolverState ε)
      (ran : (c.task r).Runs r.undisturbed s .overflow m) (left : s' = m.unwound)

/-- A state to which calls of the sole resolver with its ID lead, if it has not done anything
before, and some of the calls may be cut short. -/
def SoleReachable (r : Resolver ε) (mayCut : Call → Prop) (s : ResolverState ε) : Prop :=
  ∃ indexes cache origin start,
    Relation.ReflTransGen (SoleNext r mayCut) (.start indexes cache origin start) s

/-- The gauge has been set and tells another number than that of the entities. -/
def Misleads (r : Resolver ε) (s : ResolverState ε) : Prop :=
  ∃ n, s.metrics.gauge? (.storedEntities r.id) = some n ∧ n ≠ s.store.size

/-- Something happens, and everything is as it was as to the gauge. -/
def Passes (r : Resolver ε) (s s' : ResolverState ε) : Prop :=
  SoleNext r (fun _ => True) s s' ∧ r.Alike s s'

/-- A call that takes in several entities was cut short, and the gauge has misled since. Nothing
else has happened that it depends on. -/
def Strayed (r : Resolver ε) (s : ResolverState ε) : Prop :=
  ∃ (c : Call) (before m : ResolverState ε), c.takesSeveral = true ∧
    SoleReachable r (fun _ => True) before ∧ (c.task r).Runs r.undisturbed before .overflow m ∧
    r.Misleads m ∧ Relation.ReflTransGen r.Passes m.unwound s

theorem IsGauged.not_misleads (right : r.IsGauged s) : ¬ r.Misleads s := by
  rintro ⟨n, set, other⟩
  rw [IsGauged, set] at right
  exact other right

theorem Alike.misleads_iff (alike : r.Alike s s') : r.Misleads s' ↔ r.Misleads s := by
  rw [Misleads, Misleads, alike.gauge, alike.size]

/-- A gauge that has misled and is as it was misleads. -/
theorem Misleads.of_gauged (misleads : r.Misleads s') (moved : r.gauged.rel s s') :
    r.Alike s s' ∧ r.Misleads s := by
  rcases moved with right | alike
  · exact absurd misleads right.not_misleads
  · exact ⟨alike, alike.misleads_iff.1 misleads⟩

/-- The gauge goes on telling the number of entities unless a call is cut short that takes in
several. -/
theorem SoleNext.gauged {mayCut : Call → Prop} (records : r.origin.RecordsFetches)
    (single : ∀ c, mayCut c → c.takesSeveral = false) (next : SoleNext r mayCut s s') :
    r.gauged.rel s s' := by
  cases next with
  | aside moved => exact overlooks_gauged.below s s' moved
  | call c outcome ran returns => exact c.restores_gauge records s outcome s' ran returns
  | overrun c may m ran left =>
    rw [left]
    exact gauged_unwound (Call.keeps_gauge records (single c may) s _ m ran)

theorem SoleReachable.isGauged {mayCut : Call → Prop} (records : r.origin.RecordsFetches)
    (single : ∀ c, mayCut c → c.takesSeveral = false) (reached : SoleReachable r mayCut s) :
    r.IsGauged s := by
  obtain ⟨indexes, cache, origin, start, steps⟩ := reached
  induction steps with
  | refl => rfl
  | tail _ next ih => exact ih.of_gauged (next.gauged records single)

/-- Where the gauge misleads it has strayed. -/
theorem Misleads.strayed (records : r.origin.RecordsFetches)
    (reached : SoleReachable r (fun _ => True) s) (misleads : r.Misleads s) : r.Strayed s := by
  -- By induction on what has happened, the last of it first.
  obtain ⟨indexes, cache, origin, start, steps⟩ := reached
  induction steps with
  | refl =>
    obtain ⟨n, set, -⟩ := misleads
    cases set
  | tail before next ih =>
    rename_i m s'
    -- If the step did not make it so, it misled before.
    have passed (moved : r.gauged.rel m s') : r.Strayed s' := by
      obtain ⟨alike, misled⟩ := misleads.of_gauged moved
      obtain ⟨c, ahead, cut, several, reached, ran, astray, since⟩ := ih misled
      exact ⟨c, ahead, cut, several, reached, ran, astray, since.tail ⟨next, alike⟩⟩
    cases next with
    | aside moved => exact passed (overlooks_gauged.below m s' moved)
    | call c outcome ran returns => exact passed (c.restores_gauge records m outcome s' ran returns)
    | overrun c _ cut ran left =>
      subst left
      by_cases several : c.takesSeveral = true
      · exact ⟨c, m, cut, several, ⟨indexes, cache, origin, start, before⟩, ran, misleads, .refl⟩
      · rw [Bool.not_eq_true] at several
        exact passed (gauged_unwound (Call.keeps_gauge records several m _ cut ran))

theorem Strayed.misleads (strayed : r.Strayed s) : r.Misleads s := by
  -- It misled when the call was cut short, and everything has been alike since.
  obtain ⟨c, before, m, -, -, -, misled, since⟩ := strayed
  induction since with
  | refl => exact misled
  | tail _ passed ih => exact passed.2.misleads_iff.2 ih

/-- **When the gauge tells the number of entities.** Take a resolver that is the only one with its ID
and that has not done anything yet, and call it any number of times, one call after another. What
the origin answers, what filters make of it and what comes of every access to the persistent cache
does not matter, and calls may fail. If no call is cut short that takes in several entities, the
gauge is the number of entities in the store at any time, and there are none until it is set. If any
call may be cut short by a date or duration out of range, the gauge tells the number once it has
been set, unless such a call has been cut short and left it wrong, and since then there have been
as many entities and the gauge has not been set. -/
theorem gauge_tells_size_iff (records : r.origin.RecordsFetches) :
    (SoleReachable r (fun c => c.takesSeveral = false) s →
      (∀ n, s.metrics.gauge? (.storedEntities r.id) = some n → n = s.store.size) ∧
        (s.metrics.gauge? (.storedEntities r.id) = none → s.store.size = 0)) ∧
    (SoleReachable r (fun _ => True) s →
      ((∀ n, s.metrics.gauge? (.storedEntities r.id) = some n → n = s.store.size) ↔
        ¬ r.Strayed s)) := by
  constructor
  · intro reached
    have right := reached.isGauged records fun _ single => single
    rw [IsGauged] at right
    constructor
    · intro n set
      simpa [set] using right
    · intro unset
      rw [unset] at right
      exact Int.natCast_eq_zero.1 right.symm
  · intro reached
    constructor
    · intro tells strayed
      obtain ⟨n, set, other⟩ := strayed.misleads
      exact other (tells n set)
    · intro straight n set
      by_contra other
      exact straight (Misleads.strayed records reached ⟨n, set, other⟩)

/-- A query leaves one entity in the store, and the gauge tells of it. -/
theorem gauge_tells_size_after_query :
    let s := afterQuery .standard "https://idp.example.org" (.ok (some mixedAnswer)) ⟨0, 0⟩
    s.metrics.gauge? (.storedEntities "r") = some 1 ∧ s.store.size = 1 ∧
      ¬ (rehearsed .standard).Strayed s := by
  intro s
  have steps (mayCut : Call → Prop) : SoleReachable (rehearsed .standard) mayCut s := by
    have prepared : SoleNext (rehearsed .standard) mayCut (.start [] (.memory (.empty false))
        (answering "https://idp.example.org" (.ok (some mixedAnswer))) ⟨0, 0⟩)
        (rehearsal "https://idp.example.org" (.ok (some mixedAnswer)) ⟨0, 0⟩) :=
      .call .prepare _ (runs_of_run_eq rfl) (by simp)
    have asked : SoleNext (rehearsed .standard) mayCut
        (rehearsal "https://idp.example.org" (.ok (some mixedAnswer)) ⟨0, 0⟩) s :=
      .call (.resolve { entityId := some "https://idp.example.org" }) (.ok ())
        (runs_of_run_eq rfl) (by simp)
    exact ⟨_, _, _, _, .tail (.single prepared) asked⟩
  have set : s.metrics.gauge? (.storedEntities "r") = some 1 := by decide
  have records : (rehearsed .standard).origin.RecordsFetches :=
    Origin.recordsFetches_script false true none
  have tells := gauge_tells_size_iff (s := s) records
  have told := (tells.1 (steps _)).1
  have size : (1 : Int) = s.store.size := told 1 set
  exact ⟨set, by omega, (tells.2 (steps _)).1 told⟩

/-- A script of two updates. The second is of the same entity with a cache duration that no date
allows for. -/
def overlongUpdate : Origin.Script :=
  { Origin.Script.empty with
    refreshes := [.ok (.updated [published] none), .ok (.updated [overlong] none)] }

/-- A resolver before the second update. -/
def beforeUpdate : ResolverState Origin.Script :=
  ((rehearsed .standard).prepare.run
    (.start [] (.memory (.empty false)) overlongUpdate ⟨0, 0⟩)).2

/-- It was cut short in the second update. -/
def amidUpdate : ResolverState Origin.Script :=
  ((rehearsed .standard).refresh.run beforeUpdate).2.unwound

/-- An update that is cut short leaves an empty store, but the gauge tells of the entity that was
there, and still does after a query that returns. -/
theorem gauge_misleads_after_update :
    let r := rehearsed .standard
    let query : Criteria := { entityId := some "https://idp.example.org" }
    let s := ((r.resolve query).run amidUpdate).2
    SoleReachable r (fun _ => True) amidUpdate ∧ ((r.resolve query).run amidUpdate).1 = .ok [] ∧
      SoleReachable r (fun _ => True) s ∧
      s.metrics.gauge? (.storedEntities r.id) = some 1 ∧ s.store.size = 0 := by
  intro r query s
  have prepared : SoleNext r (fun _ => True)
      (.start [] (.memory (.empty false)) overlongUpdate ⟨0, 0⟩) beforeUpdate :=
    .call .prepare (.ok ()) (runs_of_run_eq rfl) (by simp)
  have overflowed : (r.refresh.run beforeUpdate).1 = .overflow := by decide
  have cut : SoleNext r (fun _ => True) beforeUpdate amidUpdate := by
    have ran := run_discard r.refresh beforeUpdate
    rw [overflowed] at ran
    exact .overrun .refresh trivial _ (runs_of_run_eq ran) rfl
  have reached := Relation.ReflTransGen.tail (.single prepared) cut
  have unknown : ((r.resolve query).run amidUpdate).1 = .ok [] := by decide
  have asked : SoleNext r (fun _ => True) amidUpdate s := by
    have ran := run_resolve_call r query amidUpdate
    rw [unknown] at ran
    exact .call (.resolve query) (.ok ()) (runs_of_run_eq ran) (by simp)
  exact ⟨⟨_, _, _, _, reached⟩, unknown, ⟨_, _, _, _, reached.tail asked⟩, by decide, by decide⟩

end Federation.Resolver
