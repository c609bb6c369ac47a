/-
# What recording does to the metrics

Counting adds one to one counter, and setting a gauge sets that gauge. Nothing else is read
differently afterwards, whatever was recorded before.

Metrics are shared by all parts of a service, so what an operation may be held to is what it
does to its own families. An origin, in particular, counts and times its fetches under the
name of its source and records nothing else. That is true of every origin that the service
can be set up with, and it is all that a resolver relies on.

## Main definitions

* `Metrics.OnlyFetches` — nothing but fetches was recorded
* `Metrics.CountsOnce` — in a family, one was added under one label, or nothing was
* `Origin.RecordsFetches` — an origin records nothing but fetches

## Main results

* `value_count`, `gauge?_set` — reading back what was recorded
* `CountsOnce.after` — what leaves a family alone can come before
* `recordsFetches_static`, `recordsFetches_pull`, `recordsFetches_query`,
  `recordsFetches_script` — the origins there are
-/

import Federation.Keyed
import Federation.Origin.Pull
import Federation.Origin.Query
import Federation.Origin.Scripted
import Federation.Origin.Static
import Federation.Proofs.Task.Conduct

namespace Federation

open Federation.Metadata Federation.Task

namespace Metrics

variable {m m' m'' : Metrics} {c : Counter} {g : Gauge} {t : Timer}

/-! ## Reading back -/

theorem bump_eq_put {α : Type} [DecidableEq α] (key : α) (counts : List (α × Nat)) :
    bump key counts = Keyed.put key ((counts.lookup key).getD 0 + 1) counts := by
  induction counts with
  | nil => rfl
  | cons head rest ih =>
    obtain ⟨other, n⟩ := head
    by_cases same : other = key
    · simp [bump, Keyed.put, same]
    · have missed : (key == other) = false := by simpa using Ne.symm same
      simp [bump, Keyed.put, same, ih, List.lookup_cons, missed]

theorem assign_eq_put {α β : Type} [DecidableEq α] (key : α) (value : β)
    (values : List (α × β)) : assign key value values = Keyed.put key value values := by
  induction values with
  | nil => rfl
  | cons head rest ih =>
    obtain ⟨other, v⟩ := head
    by_cases same : other = key
    · simp [assign, Keyed.put, same]
    · simp [assign, Keyed.put, same, ih]

theorem value_count (m : Metrics) (c other : Counter) :
    (m.count c).value other = m.value other + if other = c then 1 else 0 := by
  rw [value, count, bump_eq_put, Keyed.lookup_put]
  by_cases same : other = c <;> simp [same, value]

theorem value_count_of_ne {other : Counter} (different : other ≠ c) :
    (m.count c).value other = m.value other := by
  rw [value_count, if_neg different, Nat.add_zero]

theorem gauge?_set (m : Metrics) (g other : Gauge) (n : Int) :
    (m.set g n).gauge? other = if other = g then some n else m.gauge? other := by
  rw [gauge?, set, assign_eq_put, Keyed.lookup_put, gauge?]

@[simp] theorem gauge?_count (m : Metrics) (c : Counter) (g : Gauge) :
    (m.count c).gauge? g = m.gauge? g := rfl

@[simp] theorem gauge?_observe (m : Metrics) (t : Timer) (seconds : Float) (g : Gauge) :
    (m.observe t seconds).gauge? g = m.gauge? g := rfl

@[simp] theorem value_set (m : Metrics) (g : Gauge) (n : Int) (c : Counter) :
    (m.set g n).value c = m.value c := rfl

@[simp] theorem value_observe (m : Metrics) (t : Timer) (seconds : Float) (c : Counter) :
    (m.observe t seconds).value c = m.value c := rfl

/-! ## Once -/

/-- In a family of counters, one was added to the counter of a label; if there is no label,
nothing was added to any of them. -/
def CountsOnce (before after : Metrics) (family : String → Counter) (label : Option String) :
    Prop :=
  ∀ outcome, after.value (family outcome) =
    before.value (family outcome) + if label = some outcome then 1 else 0

variable {family : String → Counter} {label : Option String}

theorem countsOnce_count (injective : Function.Injective family) (m : Metrics) (name : String) :
    CountsOnce m (m.count (family name)) family (some name) := by
  intro outcome
  rw [value_count]
  simp [injective.eq_iff, eq_comm]

theorem countsOnce_none (m : Metrics) (family : String → Counter) :
    CountsOnce m m family none := by
  intro outcome
  simp

/-- What leaves the family alone can come before. -/
theorem CountsOnce.after (same : ∀ outcome, m'.value (family outcome) = m.value (family outcome))
    (once : CountsOnce m' m'' family label) : CountsOnce m m'' family label := by
  intro outcome
  rw [once outcome, same outcome]

/-- Where one is added, the metrics are not as they were. -/
theorem CountsOnce.ne {name : String} (once : CountsOnce m m' family (some name)) : m' ≠ m := by
  rintro rfl
  have added := once name
  simp at added

/-! ## Only fetches -/

/-- Nothing was recorded but fetches from origins. -/
structure OnlyFetches (m m' : Metrics) : Prop where
  gauge : ∀ g, m'.gauge? g = m.gauge? g
  value : ∀ c, (∀ source outcome, c ≠ .originFetch source outcome) → m'.value c = m.value c

theorem onlyFetches_refl (m : Metrics) : OnlyFetches m m :=
  ⟨fun _ => rfl, fun _ _ => rfl⟩

theorem onlyFetches_originFetch (m : Metrics) (source outcome : String) (seconds : Float) :
    OnlyFetches m (m.originFetch source outcome seconds) := by
  constructor
  · intro g
    simp [originFetch]
  · intro c other
    rw [originFetch, value_observe]
    exact value_count_of_ne (other source outcome)

end Metrics

/-! ## Origins -/

namespace Origin

open Metrics

variable {ε ν α : Type}

/-- What an origin records of its own accord are fetches. -/
def Fetches (s s' : OriginScope ε) : Prop := OnlyFetches s.metrics s'.metrics

/-- Whatever an origin does, it records nothing but fetches. -/
structure RecordsFetches (origin : Origin ε) : Prop where
  fetch : ∀ query, (origin.fetch query).Within Fetches True True
  refresh : ∀ filters context, (origin.refresh filters context).Within Fetches True True

theorem fetches_state (s : OriginScope ε) (state : ε) : Fetches s { s with state } :=
  onlyFetches_refl s.metrics

theorem fetches_count (source outcome : String) :
    (OriginScope.count source outcome : Task (OriginScope ε) Unit).Within Fetches True True :=
  within_change fun s => onlyFetches_originFetch s.metrics source outcome 0.0

theorem fetches_read (f : OriginScope ε → α) : (Task.read f).Within Fetches True True :=
  within_read (fun s => onlyFetches_refl s.metrics) f

theorem fetches_fail (failure : Failure) :
    (Task.fail failure : Task (OriginScope ε) α).Within Fetches True True :=
  trivial

theorem fetches_send (network : Network ν) (request : Request) :
    (send network request).Within Fetches True True := by
  apply (within_pauseIf true).bind
  intro _
  apply Within.bind
  · exact within_perform fun s => fetches_state s _
  · intro answer
    cases answer with
    | ok response => exact within_pure response
    | error reason => exact fetches_fail _

theorem fetches_bodyOf (address : String) (r : Response) :
    (bodyOf address r : Task (OriginScope ε) (List UInt8)).Within Fetches True True := by
  rw [bodyOf]
  cases r.body with
  | ok bytes => exact within_pure bytes
  | error reason => exact fetches_fail _

/-- An origin in a part of a whole records no more than it does by itself. -/
theorem RecordsFetches.on {τ : Type} {origin : Origin ε} (place : Task.Place τ ε)
    (records : origin.RecordsFetches) : (origin.on place).RecordsFetches := by
  constructor
  · intro query
    exact (records.fetch query).on (OriginScope.part place) fun _ _ fetched => fetched
  · intro filters context
    exact (records.refresh filters context).on (OriginScope.part place) fun _ _ fetched => fetched

theorem recordsFetches_static (documents : List Document) : (static documents).RecordsFetches := by
  constructor
  · intro query
    exact fetches_read _
  · intro filters context
    apply (within_ofExcept _).bind
    intro entities
    exact (within_change fun s => fetches_state s _).bind fun _ => within_pure _

/-! ### Pulling a whole document -/

section Pull

variable (source : PullSource) (network : Network ν)

theorem fetches_accept (r : Response) :
    (source.accept r : Task (OriginScope (PullState ν)) _).Within Fetches True True := by
  rw [PullSource.accept]
  split
  · exact within_pure none
  · split
    · exact fetches_fail _
    · exact (fetches_bodyOf _ r).bind fun body => within_pure _

theorem fetches_pull : (source.pull network).Within Fetches True True := by
  apply (fetches_read _).bind
  intro pulled
  apply Within.bind
  · exact (fetches_send network _).on (OriginScope.part PullState.wire) fun _ _ fetched => fetched
  · exact fetches_accept source

theorem fetches_load (filters : FilterChain) (context : Filter.Context) (delivery : Delivery) :
    (source.load filters context delivery : Task (OriginScope (PullState ν)) _).Within
      Fetches True True := by
  rw [PullSource.load]
  split
  · exact (fetches_count _ _).bind fun _ => fetches_fail _
  · apply (within_ofOutcome _).bind
    intro delay
    apply (within_ofExcept _).bind
    intro entities
    split
    · exact (fetches_count _ _).bind fun _ => fetches_fail _
    · apply (fetches_count _ _).bind
      intro _
      exact (within_change fun s => fetches_state s _).bind fun _ => within_pure _

theorem recordsFetches_pull : (source.origin network).RecordsFetches := by
  constructor
  · intro query
    exact fetches_read _
  · intro filters context
    apply (fetches_pull source network).attempt.bind
    intro pulled
    split
    · exact (fetches_count _ _).bind fun _ => fetches_fail _
    · apply (fetches_count _ _).bind
      intro _
      exact (fetches_read _).bind fun _ => within_pure _
    · exact fetches_load source filters context _

end Pull

/-! ### Asking query by query -/

section Query

variable (source : QuerySource) (network : Network ν)

theorem fetches_document (address : String) (r : Response) :
    (source.accept address r : Task (OriginScope ν) _).Within Fetches True True := by
  rw [QuerySource.accept]
  -- What the answer is does not matter here, so it is not looked into.
  generalize isMetadataKind _ = isKind
  have passedOver (failure : Failure) :
      (if source.isStrict then .fail failure else pure none :
        Task (OriginScope ν) (Option Document)).Within Fetches True True := by
    cases source.isStrict with
    | true => exact fetches_fail failure
    | false => exact within_pure none
  cases r.isSuccess with
  | false => exact passedOver _
  | true =>
    cases isKind with
    | false => exact passedOver _
    | true =>
      apply (fetches_bodyOf address r).bind
      intro body
      split
      · exact within_pure _
      · exact fetches_fail _

theorem fetches_get (address : String) : (source.get network address).Within Fetches True True :=
  (fetches_send network _).bind (fetches_document source address)

theorem recordsFetches_query : (source.origin network).RecordsFetches := by
  constructor
  · intro query
    show (source.fetch network query).Within Fetches True True
    rw [QuerySource.fetch]
    split
    · exact within_pure none
    · apply (fetches_get source network _).attempt.bind
      intro found
      exact (fetches_count _ _).bind fun _ => within_ofExcept found
  · intro filters context
    exact within_pure _

end Query

/-! ### Prepared answers -/

theorem recordsFetches_script (isPrefiltered isSecondary : Bool) (retryDelay : Option Time.Delay) :
    (Script.origin isPrefiltered isSecondary retryDelay).RecordsFetches := by
  have noted (f : Script → Script) : (Script.change f).Within Fetches True True :=
    within_change fun s => fetches_state s _
  have lingers (n : Nat) :
      (Script.linger n : Task (OriginScope Script) Unit).Within Fetches True True := by
    induction n with
    | zero => exact within_pure ()
    | succ n ih => exact ih
  constructor
  · intro query
    apply (noted _).bind
    intro _
    apply (fetches_read _).bind
    intro pauses
    apply (lingers pauses).bind
    intro _
    exact (fetches_read _).bind fun answer => within_ofExcept _
  · intro filters context
    apply (fetches_read _).bind
    intro refreshes
    split
    · exact within_pure _
    · exact (noted _).bind fun _ => within_ofExcept _

end Origin

end Federation
