/-
# Runs in a world that moves

A task that no other task disturbs still does not work in a world that stands still: clocks
go on, and what is outside the program changes. What may change by itself while a task works
is a drift, and the state may drift before each of its updates. `Task.run` is the run in which
nothing drifts.

## Main definitions

- `Drift`: how a state may move by itself.
- `Task.Runs`: what may come of a task while its state drifts.
- `Task.Keeps`: every run of a task stays within a wider drift.
- `Task.Restores`: every run of a task that returns is within a wider drift in the end.
- `Task.Ensures`: what is true after every run of a task, and of its value.
- `Task.ComesTo`: the one outcome to which every run of a task comes.

A run that meets a date or duration out of range ends there. `Keeps` and `Ensures` tell of the state
in which it leaves things as well; what a task breaks on the way and mends before it returns,
`Restores` tells of the other runs only.
-/

import Federation.Task.Basic

namespace Federation

/-- How a state may move by itself. Standing still is a way to move, and so is moving twice. -/
structure Drift (σ : Type) where
  rel : σ → σ → Prop
  refl : ∀ s, rel s s
  trans : ∀ {s m t}, rel s m → rel m t → rel s t

/-- Whatever moves by one drift moves by the other. -/
def Drift.Below {σ : Type} (drift wider : Drift σ) : Prop :=
  ∀ s s', drift.rel s s' → wider.rel s s'

/-- A drift on which nothing is known. -/
def Drift.free {σ : Type} : Drift σ where
  rel _ _ := True
  refl _ := trivial
  trans _ _ := trivial

theorem Drift.below_refl {σ : Type} (drift : Drift σ) : drift.Below drift :=
  fun _ _ moved => moved

namespace Task

variable {σ τ α β : Type}

/-- A task, from a state, may come to an outcome and a state. -/
def Runs (drift : Drift σ) : Task σ α → σ → Outcome α → σ → Prop
  | ended result, s, outcome, s' => outcome = result ∧ s' = s
  | act update next, s, outcome, s' =>
    ∃ m, drift.rel s m ∧ (next m).Runs drift (update m) outcome s'
  | pause next, s, outcome, s' => next.Runs drift s outcome s'
  | await _ next, s, outcome, s' => next.Runs drift s outcome s'

variable {drift wider : Drift σ} {s s' : σ} {outcome : Outcome α}

/-- Running alone is a run, whatever may drift. -/
theorem runs_run (drift : Drift σ) (t : Task σ α) (s : σ) : t.Runs drift s (t.run s).1 (t.run s).2 := by
  induction t generalizing s with
  | ended result => exact ⟨rfl, rfl⟩
  | act update next ih => exact ⟨s, drift.refl s, ih s (update s)⟩
  | pause next ih => exact ih s
  | await ready next ih => exact ih s

/-- What may happen while less drifts may happen while more does. -/
theorem Runs.mono (below : drift.Below wider) {t : Task σ α} (ran : t.Runs drift s outcome s') :
    t.Runs wider s outcome s' := by
  induction t generalizing s with
  | ended result => exact ran
  | act update next ih =>
    obtain ⟨m, moved, ran⟩ := ran
    exact ⟨m, below s m moved, ih m ran⟩
  | pause next ih => exact ih ran
  | await ready next ih => exact ih ran

theorem runs_of_run_eq {t : Task σ α} (h : t.run s = (outcome, s')) : t.Runs drift s outcome s' := by
  have ran := runs_run drift t s
  rw [h] at ran
  exact ran

/-- Running alone, one task after another, for the notation of sequences. -/
theorem run_then (t : Task σ α) (f : α → Task σ β) (s : σ) :
    (t >>= f).run s = proceed f (t.run s) :=
  run_bind t f s

@[simp]
theorem proceed_ok (f : α → Task σ β) (a : α) (s : σ) : proceed f (.ok a, s) = (f a).run s := rfl

@[simp]
theorem proceed_failed (f : α → Task σ β) (failure : Failure) (s : σ) :
    proceed f (.failed failure, s) = (.failed failure, s) := rfl

@[simp]
theorem proceed_overflow (f : α → Task σ β) (s : σ) :
    proceed f (.overflow, s) = (.overflow, s) := rfl

/-- Nothing goes on once a date or duration was out of range. -/
theorem proceed_of_overflow {f : α → Task σ β} {ran : Outcome α × σ} (overflowed : ran.1 = .overflow) :
    (proceed f ran).1 = .overflow := by
  obtain ⟨outcome, m⟩ := ran
  obtain rfl := overflowed
  rfl

theorem proceed_snd_of_overflow {f : α → Task σ β} {ran : Outcome α × σ}
    (overflowed : ran.1 = .overflow) : (proceed f ran).2 = ran.2 := by
  obtain ⟨outcome, m⟩ := ran
  obtain rfl := overflowed
  rfl

theorem ends_of_proceed {f : α → Task σ β} {ran : Outcome α × σ}
    (ends : (proceed f ran).1 ≠ .overflow) : ran.1 ≠ .overflow :=
  fun overflowed => ends (proceed_of_overflow overflowed)

/-- Running alone, with a value that is only turned into another at the end. -/
theorem run_then_pure {t : Task σ α} {a : α} (gives : (t.run s).1 = .ok a) (f : α → β) :
    ((t >>= fun a => pure (f a)).run s).1 = .ok (f a) := by
  rw [run_then]
  generalize t.run s = ran at gives ⊢
  obtain ⟨outcome, m⟩ := ran
  obtain rfl := gives
  rfl

/-- Running alone, with a value that is of no interest. -/
theorem run_discard (t : Task σ α) (s : σ) :
    (do let _ ← t : Task σ Unit).run s = ((t.run s).1.map fun _ => (), (t.run s).2) := by
  rw [run_then]
  generalize t.run s = ran
  obtain ⟨outcome, m⟩ := ran
  cases outcome <;> rfl

/-- Running alone, a task for the first of some items and then the others. -/
theorem run_collect_cons {f : α → Task σ β} {a : α} {rest : List α} {b : β} {bs : List β} {m : σ}
    (first : (f a).run s = (.ok b, m)) (others : ((collect rest f).run m).1 = .ok bs) :
    ((collect (a :: rest) f).run s).1 = .ok (b :: bs) := by
  rw [collect, run_bind, first, proceed_ok]
  exact run_then_pure others (b :: ·)

/-- Running alone, what a task for each of some items preserves is true after all of them. -/
theorem run_collect_induction {f : α → Task σ β} {P : σ → Prop} {items : List α}
    (each : ∀ a ∈ items, ∀ m, P m → ((f a).run m).1 ≠ .overflow → P ((f a).run m).2) (holds : P s)
    (ends : ((collect items f).run s).1 ≠ .overflow) : P ((collect items f).run s).2 := by
  induction items generalizing s with
  | nil => exact holds
  | cons a rest ih =>
    rw [collect, run_bind] at ends ⊢
    have first := each a List.mem_cons_self s holds (ends_of_proceed ends)
    generalize (f a).run s = ran at ends first ⊢
    obtain ⟨outcome, m⟩ := ran
    cases outcome with
    | failed failure => exact first
    | overflow => exact first
    | ok b =>
      rw [proceed_ok, run_bind] at ends ⊢
      have others := ih (fun a listed => each a (List.mem_cons_of_mem _ listed)) first
        (ends_of_proceed ends)
      generalize (collect rest f).run m = ran at others ⊢
      obtain ⟨outcome, m'⟩ := ran
      cases outcome <;> exact others

/-- Running alone, a task for each of some items and then for others. -/
theorem run_collect_append {f : α → Task σ β} {items : List α} {bs : List β} {m : σ}
    (first : (collect items f).run s = (.ok bs, m)) (others : List α) :
    (collect (items ++ others) f).run s
      = (((collect others f).run m).1.map (bs ++ ·), ((collect others f).run m).2) := by
  induction items generalizing s bs with
  | nil =>
    cases first
    rw [List.nil_append]
    generalize (collect others f).run m = ran
    obtain ⟨outcome, m'⟩ := ran
    cases outcome <;> rfl
  | cons a rest ih =>
    rw [collect, run_bind] at first
    rw [List.cons_append, collect, run_bind]
    generalize (f a).run s = ran at first ⊢
    obtain ⟨outcome, m'⟩ := ran
    cases outcome with
    -- The first items came to an end, so that none of them can have failed.
    | failed failure => cases first
    | overflow => cases first
    | ok b =>
      rw [proceed_ok, run_bind] at first ⊢
      cases later : (collect rest f).run m' with
      | mk outcome m'' =>
        rw [later] at first
        cases outcome with
        | failed failure => cases first
        | overflow => cases first
        | ok cs =>
          cases first
          rw [ih later]
          generalize (collect others f).run m = ran
          obtain ⟨outcome, m''⟩ := ran
          cases outcome <;> rfl

/-- A run of one task after another is a run of the first, and after a success one of the
second. -/
theorem runs_bind {t : Task σ α} {f : α → Task σ β} {outcome : Outcome β} :
    (t >>= f).Runs drift s outcome s' ↔
      (∃ a m, t.Runs drift s (.ok a) m ∧ (f a).Runs drift m outcome s') ∨
      (∃ failure, outcome = .failed failure ∧ t.Runs drift s (.failed failure) s') ∨
      (outcome = .overflow ∧ t.Runs drift s .overflow s') := by
  -- Before the first task ends, both sides take the same updates; how it ends decides which of
  -- the three it is.
  show (t.bind f).Runs drift s outcome s' ↔ _
  induction t generalizing s with
  | ended result =>
    cases result with
    | ok a =>
      constructor
      · intro ran
        exact .inl ⟨a, s, ⟨rfl, rfl⟩, ran⟩
      · rintro (⟨b, m, ⟨same, rfl⟩, ran⟩ | ⟨failure, -, same, -⟩ | ⟨-, same, -⟩)
        · obtain rfl := Outcome.ok.inj same
          exact ran
        · cases same
        · cases same
    | failed failure =>
      constructor
      · rintro ⟨rfl, rfl⟩
        exact .inr (.inl ⟨failure, rfl, rfl, rfl⟩)
      · rintro (⟨b, m, ⟨same, -⟩, -⟩ | ⟨other, rfl, same, rfl⟩ | ⟨-, same, -⟩)
        · cases same
        · obtain rfl := Outcome.failed.inj same
          exact ⟨rfl, rfl⟩
        · cases same
    | overflow =>
      constructor
      · rintro ⟨rfl, rfl⟩
        exact .inr (.inr ⟨rfl, rfl, rfl⟩)
      · rintro (⟨b, m, ⟨same, -⟩, -⟩ | ⟨failure, -, same, -⟩ | ⟨rfl, -, rfl⟩)
        · cases same
        · cases same
        · exact ⟨rfl, rfl⟩
  | act update next ih =>
    constructor
    · rintro ⟨m, moved, ran⟩
      rcases (ih m).1 ran with ⟨a, m', first, second⟩ | ⟨failure, failed, first⟩ | ⟨overflowed, first⟩
      · exact .inl ⟨a, m', ⟨m, moved, first⟩, second⟩
      · exact .inr (.inl ⟨failure, failed, m, moved, first⟩)
      · exact .inr (.inr ⟨overflowed, m, moved, first⟩)
    · rintro (⟨a, m', ⟨m, moved, first⟩, second⟩ | ⟨failure, failed, m, moved, first⟩ |
        ⟨overflowed, m, moved, first⟩)
      · exact ⟨m, moved, (ih m).2 (.inl ⟨a, m', first, second⟩)⟩
      · exact ⟨m, moved, (ih m).2 (.inr (.inl ⟨failure, failed, first⟩))⟩
      · exact ⟨m, moved, (ih m).2 (.inr (.inr ⟨overflowed, first⟩))⟩
  | pause next ih => exact ih
  | await ready next ih => exact ih

theorem runs_change_bind {f : σ → σ} {k : Unit → Task σ β} {outcome : Outcome β} :
    (change f >>= k).Runs drift s outcome s' ↔
      ∃ m, drift.rel s m ∧ (k ()).Runs drift (f m) outcome s' := Iff.rfl

theorem runs_perform_bind {f : σ → α × σ} {k : α → Task σ β} {outcome : Outcome β} :
    (perform f >>= k).Runs drift s outcome s' ↔
      ∃ m, drift.rel s m ∧ (k (f m).1).Runs drift (f m).2 outcome s' := Iff.rfl

/-- A run of an attempt is a run of the task, whose failure is a value. -/
theorem runs_attempt {t : Task σ α} {outcome : Outcome (Except Failure α)}
    (ran : t.attempt.Runs drift s outcome s') :
    ∃ result, t.Runs drift s result s' ∧
      outcome = match result with
        | .ok a => .ok (.ok a)
        | .failed failure => .ok (.error failure)
        | .overflow => .overflow := by
  induction t generalizing s with
  | ended result =>
    refine ⟨result, ?_⟩
    cases result <;> exact ⟨⟨rfl, ran.2⟩, ran.1⟩
  | act update next ih =>
    obtain ⟨m, moved, ran⟩ := ran
    obtain ⟨result, ran, same⟩ := ih m ran
    exact ⟨result, ⟨m, moved, ran⟩, same⟩
  | pause next ih => exact ih ran
  | await ready next ih => exact ih ran

/-- If what begins with an attempt returns, so does what is attempted. -/
theorem exists_runs_attempt {t : Task σ α} {k : Except Failure α → Task σ β} {outcome : Outcome β}
    (ran : (t.attempt >>= k).Runs drift s outcome s') (ends : outcome ≠ .overflow) :
    ∃ tried x m, tried ≠ .overflow ∧ t.Runs drift s tried m ∧ (k x).Runs drift m outcome s' := by
  rcases runs_bind.1 ran with ⟨x, m, first, second⟩ | ⟨failure, -, first⟩ | ⟨rfl, -⟩
  · obtain ⟨tried, attempted, same⟩ := runs_attempt first
    refine ⟨tried, x, m, ?_, attempted, second⟩
    rintro rfl
    cases same
  · obtain ⟨tried, -, same⟩ := runs_attempt first
    cases tried <;> cases same
  · exact absurd rfl ends

/-! ## Parts of the state -/

/-- One task after another, on a part of the state. -/
theorem on_bind (place : Place τ σ) (t : Task σ α) (f : α → Task σ β) :
    (t >>= f).on place = t.on place >>= fun a => (f a).on place := by
  show (t.bind f).on place = (t.on place).bind fun a => (f a).on place
  induction t with
  | ended outcome => cases outcome <;> rfl
  | act update next ih => exact congrArg (act _) (funext fun whole => ih (place.get whole))
  | pause next ih => exact congrArg pause ih
  | await ready next ih => exact congrArg (await _) ih

theorem on_attempt (place : Place τ σ) (t : Task σ α) :
    t.attempt.on place = (t.on place).attempt := by
  induction t with
  | ended outcome => cases outcome <;> rfl
  | act update next ih => exact congrArg (act _) (funext fun whole => ih (place.get whole))
  | pause next ih => exact congrArg pause ih
  | await ready next ih => exact congrArg (await _) ih

/-! ## Tasks within a drift

Most tasks are made of parts none of which does more than a drift allows. Such a task does
not do more either. -/

/-- Every run of a task is within a drift, whatever it comes to. -/
def Keeps (drift wider : Drift σ) (t : Task σ α) : Prop :=
  ∀ s outcome s', t.Runs drift s outcome s' → wider.rel s s'

theorem keeps_ended (result : Outcome α) : (ended result : Task σ α).Keeps drift wider := by
  rintro s outcome s' ⟨-, rfl⟩
  exact wider.refl s'

theorem keeps_pure (a : α) : (pure a : Task σ α).Keeps drift wider := keeps_ended (.ok a)

theorem keeps_act (below : drift.Below wider) {update : σ → σ} {next : σ → Task σ α}
    (updates : ∀ m, wider.rel m (update m)) (continues : ∀ m, (next m).Keeps drift wider) :
    (act update next).Keeps drift wider := by
  rintro s outcome s' ⟨m, moved, ran⟩
  have after := continues m (update m) outcome s' ran
  exact wider.trans (below s m moved) (wider.trans (updates m) after)

theorem keeps_read (below : drift.Below wider) (f : σ → α) : (read f).Keeps drift wider :=
  keeps_act below wider.refl fun _ => keeps_ended _

theorem keeps_change (below : drift.Below wider) {f : σ → σ} (changes : ∀ m, wider.rel m (f m)) :
    (change f).Keeps drift wider :=
  keeps_act below changes fun _ => keeps_ended _

theorem keeps_perform (below : drift.Below wider) {f : σ → α × σ}
    (changes : ∀ m, wider.rel m (f m).2) : (perform f).Keeps drift wider :=
  keeps_act below changes fun _ => keeps_ended _

theorem keeps_pauseIf (wanted : Bool) : (pauseIf wanted : Task σ Unit).Keeps drift wider := by
  have overflowed : (pure () : Task σ Unit).Keeps drift wider := keeps_pure ()
  cases wanted <;> exact overflowed

theorem keeps_waitFor (ready : σ → Bool) : (waitFor ready).Keeps drift wider := by
  have overflowed : (pure () : Task σ Unit).Keeps drift wider := keeps_pure ()
  exact overflowed

theorem Keeps.widen {narrow : Drift σ} {t : Task σ α} (h : t.Keeps drift narrow)
    (below : narrow.Below wider) : t.Keeps drift wider := by
  intro s outcome s' ran
  exact below s s' (h s outcome s' ran)

theorem Keeps.bind {t : Task σ α} {f : α → Task σ β} (first : t.Keeps drift wider)
    (second : ∀ a, (f a).Keeps drift wider) : (t >>= f).Keeps drift wider := by
  intro s outcome s' ran
  rcases runs_bind.1 ran with ⟨a, m, first', second'⟩ | ⟨failure, rfl, first'⟩ | ⟨rfl, first'⟩
  · exact wider.trans (first s _ m first') (second a m outcome s' second')
  · exact first s _ s' first'
  · exact first s _ s' first'

theorem Keeps.attempt {t : Task σ α} (h : t.Keeps drift wider) : t.attempt.Keeps drift wider := by
  intro s outcome s' ran
  obtain ⟨result, ran', -⟩ := runs_attempt ran
  exact h s result s' ran'

theorem keeps_forEach {f : α → Task σ Unit} (each : ∀ a, (f a).Keeps drift wider)
    (items : List α) : (forEach items f).Keeps drift wider := by
  induction items with
  | nil => exact keeps_pure ()
  | cons a rest ih => exact (each a).bind fun _ => ih

theorem keeps_collect {f : α → Task σ β} (each : ∀ a, (f a).Keeps drift wider)
    (items : List α) : (collect items f).Keeps drift wider := by
  induction items with
  | nil => exact keeps_pure []
  | cons a rest ih => exact (each a).bind fun b => ih.bind fun bs => keeps_pure (b :: bs)

/-- A task on a part of the state keeps to any drift that lets the part change. -/
theorem keeps_on {drift wider : Drift τ} (below : drift.Below wider) (place : Place τ σ)
    (changes : ∀ m part, wider.rel m (place.put m part)) (t : Task σ α) :
    (t.on place).Keeps drift wider := by
  induction t with
  | ended result => exact keeps_ended result
  | act update next ih => exact keeps_act below (fun m => changes m _) fun m => ih (place.get m)
  | pause next ih => exact ih
  | await ready next ih => exact ih

/-! ## What a task restores

What is mended at the end of a task need not be whole where a run meets a date or duration out of
range. -/

/-- Every run of a task that returns is within a drift, whatever happens on the way. -/
def Restores (drift wider : Drift σ) (t : Task σ α) : Prop :=
  ∀ s outcome s', t.Runs drift s outcome s' → outcome ≠ .overflow → wider.rel s s'

theorem Keeps.restores {t : Task σ α} (h : t.Keeps drift wider) : t.Restores drift wider :=
  fun s outcome s' ran _ => h s outcome s' ran

theorem Restores.bind {t : Task σ α} {f : α → Task σ β} (first : t.Restores drift wider)
    (second : ∀ a, (f a).Restores drift wider) : (t >>= f).Restores drift wider := by
  intro s outcome s' ran ends
  rcases runs_bind.1 ran with ⟨a, m, first', second'⟩ | ⟨failure, rfl, first'⟩ | ⟨rfl, -⟩
  · have before := first s _ m first' (by simp)
    exact wider.trans before (second a m outcome s' second' ends)
  · exact first s _ s' first' (by simp)
  · exact absurd rfl ends

theorem Restores.attempt {t : Task σ α} (h : t.Restores drift wider) :
    t.attempt.Restores drift wider := by
  intro s outcome s' ran ends
  obtain ⟨result, ran', rfl⟩ := runs_attempt ran
  refine h s result s' ran' ?_
  rintro rfl
  exact ends rfl

theorem restores_collect {f : α → Task σ β} (each : ∀ a, (f a).Restores drift wider)
    (items : List α) : (collect items f).Restores drift wider := by
  induction items with
  | nil => exact (keeps_pure []).restores
  | cons a rest ih =>
    exact (each a).bind fun b => ih.bind fun bs => (keeps_pure (b :: bs)).restores

/-! ## What a task ensures -/

/-- Whatever comes of a task, one thing is true afterwards, and if there is a value, another thing
of it. -/
def Ensures (drift : Drift σ) (t : Task σ α) (s : σ) (always : σ → Prop)
    (result : α → σ → Prop) : Prop :=
  ∀ outcome s', t.Runs drift s outcome s' → always s' ∧ ∀ a, outcome = .ok a → result a s'

variable {always : σ → Prop} {result : α → σ → Prop} {final : β → σ → Prop}

theorem ensures_pure {a : α} (holds : always s) (found : result a s) :
    (pure a : Task σ α).Ensures drift s always result := by
  rintro outcome s' ⟨rfl, rfl⟩
  refine ⟨holds, fun b same => ?_⟩
  rw [← Outcome.ok.inj same]
  exact found

theorem ensures_fail {failure : Failure} (holds : always s) :
    (fail failure : Task σ α).Ensures drift s always result := by
  rintro outcome s' ⟨rfl, rfl⟩
  exact ⟨holds, fun b same => by cases same⟩

theorem ensures_ofExcept {x : Except Failure α} (holds : always s)
    (found : ∀ a, x = .ok a → result a s) :
    (ofExcept x : Task σ α).Ensures drift s always result := by
  cases x with
  | ok a => exact ensures_pure holds (found a rfl)
  | error failure => exact ensures_fail holds

theorem ensures_change {f : σ → σ} {result : Unit → σ → Prop}
    (each : ∀ m, drift.rel s m → always (f m) ∧ result () (f m)) :
    (change f).Ensures drift s always result := by
  rintro outcome s' ⟨m, moved, rfl, rfl⟩
  exact ⟨(each m moved).1, fun _ _ => (each m moved).2⟩

theorem ensures_perform {f : σ → α × σ}
    (each : ∀ m, drift.rel s m → always (f m).2 ∧ result (f m).1 (f m).2) :
    (perform f).Ensures drift s always result := by
  rintro outcome s' ⟨m, moved, rfl, rfl⟩
  refine ⟨(each m moved).1, fun a same => ?_⟩
  rw [← Outcome.ok.inj same]
  exact (each m moved).2

/-! ### One part after another -/

theorem ensures_read_bind {f : σ → α} {k : α → Task σ β}
    (next : ∀ m, drift.rel s m → (k (f m)).Ensures drift m always final) :
    (read f >>= k).Ensures drift s always final := by
  rintro outcome s' ⟨m, moved, ran⟩
  exact next m moved outcome s' ran

theorem ensures_change_bind {f : σ → σ} {k : Unit → Task σ β}
    (next : ∀ m, drift.rel s m → (k ()).Ensures drift (f m) always final) :
    (change f >>= k).Ensures drift s always final := by
  rintro outcome s' ⟨m, moved, ran⟩
  exact next m moved outcome s' ran

theorem ensures_perform_bind {f : σ → α × σ} {k : α → Task σ β}
    (next : ∀ m, drift.rel s m → (k (f m).1).Ensures drift (f m).2 always final) :
    (perform f >>= k).Ensures drift s always final := by
  rintro outcome s' ⟨m, moved, ran⟩
  exact next m moved outcome s' ran

theorem ensures_pure_bind {a : α} {k : α → Task σ β}
    (next : (k a).Ensures drift s always final) :
    ((pure a : Task σ α) >>= k).Ensures drift s always final :=
  next

/-- An outcome out of range ends the task, so what comes after may take it to be in range. -/
theorem ensures_ofOutcome_bind {x : Outcome α} {k : α → Task σ β} (holds : always s)
    (next : ∀ a, x = .ok a → (k a).Ensures drift s always final) :
    (ofOutcome x >>= k).Ensures drift s always final := by
  intro outcome s' ran
  rcases runs_bind.1 ran with ⟨a, m, ⟨same, rfl⟩, ran'⟩ | ⟨failure, rfl, -, rfl⟩ | ⟨rfl, -, rfl⟩
  · exact next a same.symm outcome s' ran'
  · exact ⟨holds, fun b same => by cases same⟩
  · exact ⟨holds, fun b same => by cases same⟩

/-- The second part starts from what is true after the first part and of its value. -/
theorem Ensures.bind_of {t : Task σ α} {k : α → Task σ β} {then_ : σ → Prop}
    (first : t.Ensures drift s then_ result) (stops : ∀ m, then_ m → always m)
    (second : ∀ a m, then_ m → result a m → (k a).Ensures drift m always final) :
    (t >>= k).Ensures drift s always final := by
  intro outcome s' ran
  rcases runs_bind.1 ran with ⟨a, m, first', second'⟩ | ⟨failure, rfl, first'⟩ | ⟨rfl, first'⟩
  · obtain ⟨holds, found⟩ := first _ m first'
    exact second a m holds (found a rfl) outcome s' second'
  · exact ⟨stops s' (first _ s' first').1, fun a same => by cases same⟩
  · exact ⟨stops s' (first _ s' first').1, fun a same => by cases same⟩

theorem Ensures.bind {t : Task σ α} {k : α → Task σ β} (first : t.Ensures drift s always result)
    (second : ∀ a m, always m → result a m → (k a).Ensures drift m always final) :
    (t >>= k).Ensures drift s always final :=
  first.bind_of (fun _ holds => holds) second

/-- After an attempt there is more to do, unless a date or duration was out of range. -/
theorem Ensures.attempt_bind {t : Task σ α} {k : Except Failure α → Task σ β}
    {then_ : σ → Prop} (first : t.Ensures drift s then_ result) (stops : ∀ m, then_ m → always m)
    (second : ∀ x m, then_ m → (∀ a, x = .ok a → result a m) →
      (k x).Ensures drift m always final) :
    (t.attempt >>= k).Ensures drift s always final := by
  have tried : t.attempt.Ensures drift s then_ fun x m => ∀ a, x = .ok a → result a m := ?_
  · exact tried.bind_of stops second
  intro outcome s' ran
  obtain ⟨tried, ran', rfl⟩ := runs_attempt ran
  refine ⟨(first tried s' ran').1, fun x same a => ?_⟩
  rintro rfl
  cases tried with
  | ok b => exact (first _ s' ran').2 a (congrArg _ (Except.ok.inj (Outcome.ok.inj same)))
  | failed failure => cases same
  | overflow => cases same

/-- An attempt at what does not fail goes on with its value. -/
theorem ensures_attempt_bind_of_ok {t : Task σ α} {k : Except Failure α → Task σ β}
    (gives : ∀ outcome s', t.Runs drift s outcome s' → outcome ≠ .overflow →
      ∃ a, outcome = .ok a ∧ result a s')
    (stops : ∀ s', t.Runs drift s .overflow s' → always s')
    (second : ∀ a m, result a m → (k (.ok a)).Ensures drift m always final) :
    (t.attempt >>= k).Ensures drift s always final := by
  intro outcome s' ran
  rcases runs_bind.1 ran with ⟨x, m, first', second'⟩ | ⟨failure, -, first'⟩ | ⟨rfl, first'⟩
  · obtain ⟨tried, ran, same⟩ := runs_attempt first'
    have finished : tried ≠ .overflow := by
      rintro rfl
      cases same
    obtain ⟨a, rfl, found⟩ := gives tried m ran finished
    obtain rfl := Outcome.ok.inj same
    exact second a m found outcome s' second'
  · obtain ⟨tried, -, same⟩ := runs_attempt first'
    cases tried <;> cases same
  · obtain ⟨tried, ran, same⟩ := runs_attempt first'
    cases tried with
    | overflow => exact ⟨stops s' ran, fun b same => by cases same⟩
    | ok a => cases same
    | failed failure => cases same

/-! ### Within a drift -/

/-- A task keeps to a drift if, from every state, it ensures that it has moved by it. -/
theorem keeps_of_ensures {t : Task σ α}
    (each : ∀ s, t.Ensures drift s (wider.rel s) fun _ _ => True) : t.Keeps drift wider :=
  fun s outcome s' ran => (each s outcome s' ran).1

/-- What keeps to a drift ensures whatever the drift leaves true. -/
theorem Keeps.ensures {narrow : Drift σ} {t : Task σ α} (h : t.Keeps drift narrow)
    (stays : ∀ m m', narrow.rel m m' → always m → always m') (holds : always s) :
    t.Ensures drift s (fun m => always m ∧ narrow.rel s m) fun _ _ => True := by
  intro outcome m ran
  have aside := h s outcome m ran
  exact ⟨⟨stays s m aside holds, aside⟩, fun _ _ => trivial⟩

theorem Keeps.bind_ensures {narrow : Drift σ} {t : Task σ α} {k : α → Task σ β}
    (h : t.Keeps drift narrow) (stays : ∀ m m', narrow.rel m m' → always m → always m')
    (holds : always s)
    (next : ∀ a m, always m → narrow.rel s m → (k a).Ensures drift m always final) :
    (t >>= k).Ensures drift s always final :=
  (h.ensures stays holds).bind_of (fun _ both => both.1) fun a m both _ => next a m both.1 both.2

/-- What keeps to a drift moves by it from wherever the state has moved by it before. -/
theorem Keeps.ensures_from {t : Task σ α} {s₀ : σ} (h : t.Keeps drift wider)
    (moved : wider.rel s₀ s) : t.Ensures drift s (wider.rel s₀) fun _ _ => True :=
  fun outcome s' ran => ⟨wider.trans moved (h s outcome s' ran), fun _ _ => trivial⟩

theorem Keeps.bind_ensures_from {t : Task σ α} {k : α → Task σ β} {s₀ : σ}
    (h : t.Keeps drift wider) (moved : wider.rel s₀ s)
    (next : ∀ a m, wider.rel s₀ m → wider.rel s m →
      (k a).Ensures drift m (wider.rel s₀) final) :
    (t >>= k).Ensures drift s (wider.rel s₀) final :=
  h.bind_ensures (fun _ _ later before => wider.trans before later) moved next

theorem Ensures.imp {t : Task σ α} {always' : σ → Prop} {result' : α → σ → Prop}
    (h : t.Ensures drift s always result) (holds : ∀ s', always s' → always' s')
    (found : ∀ a s', always s' → result a s' → result' a s') :
    t.Ensures drift s always' result' := by
  intro outcome s' ran
  obtain ⟨kept, value⟩ := h outcome s' ran
  exact ⟨holds s' kept, fun a same => found a s' kept (value a same)⟩

/-- What a task ensures while more drifts it ensures while less does. -/
theorem Ensures.narrow {t : Task σ α} (h : t.Ensures wider s always result)
    (below : drift.Below wider) : t.Ensures drift s always result := by
  intro outcome s' ran
  exact h outcome s' (ran.mono below)

theorem Ensures.and {t : Task σ α} {always' : σ → Prop} {result' : α → σ → Prop}
    (h : t.Ensures drift s always result) (h' : t.Ensures drift s always' result') :
    t.Ensures drift s (fun m => always m ∧ always' m) fun a m => result a m ∧ result' a m := by
  intro outcome s' ran
  obtain ⟨kept, value⟩ := h outcome s' ran
  obtain ⟨kept', value'⟩ := h' outcome s' ran
  exact ⟨⟨kept, kept'⟩, fun a same => ⟨value a same, value' a same⟩⟩

/-- What a task ensures it ensures together with any drift to which it keeps. -/
theorem Ensures.within {narrow : Drift σ} {t : Task σ α} (h : t.Ensures drift s always result)
    (keeps : t.Keeps drift narrow) :
    t.Ensures drift s (fun m => always m ∧ narrow.rel s m) result := by
  intro outcome s' ran
  obtain ⟨kept, value⟩ := h outcome s' ran
  exact ⟨⟨kept, keeps s outcome s' ran⟩, value⟩

/-- The value of a task is one that a run of the task gives. -/
theorem ensures_ran {t : Task σ α} :
    t.Ensures drift s (fun _ => True) fun a s' => t.Runs drift s (.ok a) s' := by
  intro outcome s' ran
  refine ⟨trivial, fun a same => ?_⟩
  rw [same] at ran
  exact ran

/-- What a task ensures about how the state moved from its start, it ensures about how it
moved from before. -/
theorem Ensures.after {t : Task σ α} {before : σ} (h : t.Ensures drift s (wider.rel s) result)
    (moved : wider.rel before s) : t.Ensures drift s (wider.rel before) result := by
  exact h.imp (fun _ later => wider.trans moved later) fun _ _ _ found => found

/-- One task after another for the items of a list, where every task may rely on how the
state moved before. -/
theorem ensures_forEach {items : List α} {f : α → Task σ Unit}
    (each : ∀ a ∈ items, ∀ m, wider.rel s m → (f a).Ensures drift m (wider.rel m) fun _ _ => True) :
    (forEach items f).Ensures drift s (wider.rel s) fun _ _ => True := by
  induction items generalizing s with
  | nil => exact ensures_pure (wider.refl s) trivial
  | cons a rest ih =>
    refine (each a List.mem_cons_self s (wider.refl s)).bind fun _ m moved _ => ?_
    refine (ih fun b listed m' later => ?_).after moved
    exact each b (List.mem_cons_of_mem a listed) m' (wider.trans moved later)

/-- What every task of a list ensures of its value is true of all values at the end, if it
stays true. Every task may rely on what is true whenever the task before it has given a value. -/
theorem ensures_collect_of {items : List α} {f : α → Task σ β} {found : β → σ → Prop}
    (ready : σ → Prop) (stays : ∀ b m m', wider.rel m m' → found b m → found b m')
    (each : ∀ a ∈ items, ∀ m, wider.rel s m → ready m →
      (f a).Ensures drift m (wider.rel m) fun b m' => found b m' ∧ ready m') (start : ready s) :
    (collect items f).Ensures drift s (wider.rel s)
      fun values s' => (∀ b ∈ values, found b s') ∧ ready s' := by
  induction items generalizing s with
  | nil => exact ensures_pure (wider.refl s) ⟨by simp, start⟩
  | cons a rest ih =>
    refine (each a List.mem_cons_self s (wider.refl s) start).bind fun b m moved first => ?_
    refine Ensures.after ?_ moved
    have others := ih (fun c listed m' later =>
      each c (List.mem_cons_of_mem a listed) m' (wider.trans moved later)) first.2
    refine others.bind fun bs m' later rest_found => ?_
    refine ensures_pure later ⟨fun c listed => ?_, rest_found.2⟩
    rcases List.mem_cons.1 listed with rfl | listed
    · exact stays c m m' later first.1
    · exact rest_found.1 c listed

theorem ensures_collect {items : List α} {f : α → Task σ β} {found : β → σ → Prop}
    (stays : ∀ b m m', wider.rel m m' → found b m → found b m')
    (each : ∀ a ∈ items, ∀ m, wider.rel s m → (f a).Ensures drift m (wider.rel m) found) :
    (collect items f).Ensures drift s (wider.rel s) fun values s' => ∀ b ∈ values, found b s' := by
  have all := ensures_collect_of (fun _ => True) stays
    (fun a listed m moved _ => (each a listed m moved).imp (fun _ later => later)
      fun b m' _ given => ⟨given, trivial⟩) trivial
  exact all.imp (fun _ moved => moved) fun _ _ _ given => given.1

/-! ## Tasks that come to one outcome

What some tasks come to depends neither on the state nor on how it drifts. -/

/-- Every run of a task comes to the same outcome. -/
def ComesTo (drift : Drift σ) (t : Task σ α) (outcome : Outcome α) : Prop :=
  ∀ s result s', t.Runs drift s result s' → result = outcome

theorem comesTo_ended (outcome : Outcome α) : (ended outcome).ComesTo drift outcome :=
  fun _ _ _ ran => ran.1

theorem comesTo_change (f : σ → σ) : (change f).ComesTo drift (.ok ()) := by
  rintro s result s' ⟨m, -, rfl, -⟩
  rfl

theorem ComesTo.bind {t : Task σ α} {k : α → Task σ β} {a : α} {outcome : Outcome β}
    (first : t.ComesTo drift (.ok a)) (second : (k a).ComesTo drift outcome) :
    (t >>= k).ComesTo drift outcome := by
  intro s result s' ran
  rcases runs_bind.1 ran with ⟨b, m, first', second'⟩ | ⟨failure, -, first'⟩ | ⟨-, first'⟩
  · obtain rfl := Outcome.ok.inj (first _ _ _ first')
    exact second _ _ _ second'
  · cases first _ _ _ first'
  · cases first _ _ _ first'

theorem ComesTo.bind_overflow {t : Task σ α} (first : t.ComesTo drift .overflow)
    (k : α → Task σ β) : (t >>= k).ComesTo drift .overflow := by
  intro s result s' ran
  rcases runs_bind.1 ran with ⟨b, m, first', -⟩ | ⟨failure, -, first'⟩ | ⟨same, -⟩
  · cases first _ _ _ first'
  · cases first _ _ _ first'
  · exact same

theorem comesTo_forEach {items : List α} {f : α → Task σ Unit}
    (each : ∀ a ∈ items, (f a).ComesTo drift (.ok ())) :
    (forEach items f).ComesTo drift (.ok ()) := by
  induction items with
  | nil => exact comesTo_ended _
  | cons a rest ih =>
    refine (each a List.mem_cons_self).bind (ih fun b listed => ?_)
    exact each b (List.mem_cons_of_mem a listed)

/-- Items one of which meets a date or duration out of range end there. -/
theorem comesTo_forEach_overflow {items : List α} {f : α → Task σ Unit}
    (each : ∀ a ∈ items, (f a).ComesTo drift (.ok ()) ∨ (f a).ComesTo drift .overflow)
    (one : ∃ a ∈ items, (f a).ComesTo drift .overflow) :
    (forEach items f).ComesTo drift .overflow := by
  induction items with
  | nil =>
    obtain ⟨a, listed, -⟩ := one
    cases listed
  | cons a rest ih =>
    rcases each a List.mem_cons_self with finishes | overflows
    · obtain ⟨b, listed, overflows⟩ := one
      rcases List.mem_cons.1 listed with rfl | later
      · exact overflows.bind_overflow _
      · refine finishes.bind (ih (fun c listed => ?_) ⟨b, later, overflows⟩)
        exact each c (List.mem_cons_of_mem a listed)
    · exact overflows.bind_overflow _

/-- After a task that does not fail, nothing need be known of what is true at a failure. -/
theorem ComesTo.bind_ensures {t : Task σ α} {k : α → Task σ β} {a : α} {then_ : σ → Prop}
    (comes : t.ComesTo drift (.ok a)) (first : t.Ensures drift s then_ result)
    (second : ∀ m, then_ m → result a m → (k a).Ensures drift m always final) :
    (t >>= k).Ensures drift s always final := by
  intro outcome s' ran
  rcases runs_bind.1 ran with ⟨b, m, first', second'⟩ | ⟨failure, -, first'⟩ | ⟨-, first'⟩
  · obtain rfl := Outcome.ok.inj (comes _ _ _ first')
    obtain ⟨holds, found⟩ := first _ m first'
    exact second m holds (found b rfl) outcome s' second'
  · cases comes _ _ _ first'
  · cases comes _ _ _ first'

end Task

end Federation
