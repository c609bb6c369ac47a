/-
# Tasks

A task works on a state that it shares with others. What it does between two points where it
pauses or waits happens at once; at those points others may change the state. A task is a
tree: an update of the state, and what to go on with for every state it may have found.

Run alone, a task never has anyone to wait for, and pauses mean nothing: `run` takes the
state through all updates. The lemmas say that running follows the structure of a task.
-/

import Federation.Outcome

namespace Federation

/-- A computation over a shared state. -/
inductive Task (σ α : Type) : Type where
  /-- The task is over. -/
  | ended (outcome : Outcome α)
  /-- The state is updated, and the task goes on with what it had found there. -/
  | act (update : σ → σ) (next : σ → Task σ α)
  /-- Others may run. -/
  | pause (next : Task σ α)
  /-- Others may run until the state satisfies a condition. -/
  | await (ready : σ → Bool) (next : Task σ α)

namespace Task

variable {σ τ α β γ : Type}

/-- Goes on after a success. -/
def bind : Task σ α → (α → Task σ β) → Task σ β
  | ended (.ok a), f => f a
  | ended (.failed failure), _ => ended (.failed failure)
  | ended .overflow, _ => ended .overflow
  | act update next, f => act update fun s => (next s).bind f
  | pause next, f => pause (next.bind f)
  | await ready next, f => await ready (next.bind f)

instance : Monad (Task σ) where
  pure a := ended (.ok a)
  bind := bind

/-- What a function finds in the state. -/
def read (f : σ → α) : Task σ α := act id fun s => ended (.ok (f s))

/-- Changes the state. -/
def change (f : σ → σ) : Task σ Unit := act f fun _ => ended (.ok ())

/-- Changes the state and gives what was found on the way. -/
def perform (f : σ → α × σ) : Task σ α := act (fun s => (f s).2) fun s => ended (.ok (f s).1)

/-- Ends with a failure. -/
def fail (failure : Failure) : Task σ α := ended (.failed failure)

/-- Goes on with the value of an outcome, if it has one. -/
def ofOutcome (outcome : Outcome α) : Task σ α := ended outcome

/-- Goes on with a value unless there is a failure. -/
def ofExcept (x : Except Failure α) : Task σ α := ended (.ofExcept x)

/-- Lets others run if that is wanted. -/
def pauseIf (wanted : Bool) : Task σ Unit :=
  if wanted then pause (ended (.ok ())) else ended (.ok ())

/-- Waits for a condition. -/
def waitFor (ready : σ → Bool) : Task σ Unit := await ready (ended (.ok ()))

/-- A failure as a value. -/
def attempt : Task σ α → Task σ (Except Failure α)
  | ended (.ok a) => ended (.ok (.ok a))
  | ended (.failed failure) => ended (.ok (.error failure))
  | ended .overflow => ended .overflow
  | act update next => act update fun s => (next s).attempt
  | pause next => pause next.attempt
  | await ready next => await ready next.attempt

/-- A place for a part in a whole. What is put there is found there and takes the place of
what was put before; nothing else changes. -/
structure Place (τ σ : Type) where
  get : τ → σ
  put : τ → σ → τ
  get_put : ∀ t s, get (put t s) = s := by intros; rfl
  put_get : ∀ t, put t (get t) = t := by intros; rfl
  put_put : ∀ t s s', put (put t s) s' = put t s' := by intros; rfl

/-- A task on a part of the state. -/
def on (place : Place τ σ) : Task σ α → Task τ α
  | ended outcome => ended outcome
  | act update next =>
    act (fun t => place.put t (update (place.get t))) fun t => (next (place.get t)).on place
  | pause next => pause (next.on place)
  | await ready next => await (fun t => ready (place.get t)) (next.on place)

/-- A task that is given up at the first point where others ran and left a state that says
so. -/
def givenUpIf (abandoned : σ → Bool) : Task σ Unit → Task σ Unit
  | ended outcome => ended outcome
  | act update next => act update fun s => (next s).givenUpIf abandoned
  | pause next =>
    pause (act id fun s => if abandoned s then ended (.ok ()) else next.givenUpIf abandoned)
  | await ready next =>
    await (fun s => abandoned s || ready s)
      (act id fun s => if abandoned s then ended (.ok ()) else next.givenUpIf abandoned)

/-- Runs a task for each item of a list, in order. -/
def forEach (items : List α) (f : α → Task σ Unit) : Task σ Unit :=
  match items with
  | [] => pure ()
  | a :: rest => (f a).bind fun _ => forEach rest f

/-- Runs a task for each item of a list, in order, and collects what they give. -/
def collect (items : List α) (f : α → Task σ β) : Task σ (List β) :=
  match items with
  | [] => pure []
  | a :: rest => (f a).bind fun b => (collect rest f).bind fun bs => pure (b :: bs)

/-! ## Running alone -/

/-- Runs a task to its end while nothing else changes the state. -/
def run : Task σ α → σ → Outcome α × σ
  | ended outcome, s => (outcome, s)
  | act update next, s => (next s).run (update s)
  | pause next, s => next.run s
  | await _ next, s => next.run s

@[simp]
theorem run_pure (a : α) (s : σ) : (pure a : Task σ α).run s = (.ok a, s) := rfl

@[simp]
theorem run_read (f : σ → α) (s : σ) : (read f).run s = (.ok (f s), s) := rfl

@[simp]
theorem run_change (f : σ → σ) (s : σ) : (change f).run s = (.ok (), f s) := rfl

@[simp]
theorem run_perform (f : σ → α × σ) (s : σ) : (perform f).run s = (.ok (f s).1, (f s).2) := rfl

@[simp]
theorem run_fail (failure : Failure) (s : σ) :
    (fail failure : Task σ α).run s = (.failed failure, s) := rfl

@[simp]
theorem run_ofOutcome (outcome : Outcome α) (s : σ) :
    (ofOutcome outcome).run s = (outcome, s) := rfl

@[simp]
theorem run_ofExcept (x : Except Failure α) (s : σ) :
    (ofExcept x : Task σ α).run s = (.ofExcept x, s) := rfl

@[simp]
theorem run_pauseIf (wanted : Bool) (s : σ) : (pauseIf wanted).run s = (.ok (), s) := by
  cases wanted <;> rfl

@[simp]
theorem run_waitFor (ready : σ → Bool) (s : σ) : (waitFor ready).run s = (.ok (), s) := rfl

/-- A task on a part of the state changes that part only, as it would on its own. -/
theorem run_on (place : Place τ σ) (t : Task σ α) (whole : τ) :
    (t.on place).run whole
      = ((t.run (place.get whole)).1, place.put whole (t.run (place.get whole)).2) := by
  induction t generalizing whole with
  | ended outcome => simp [on, run, place.put_get]
  | act update next ih => simp [on, run, ih, place.get_put, place.put_put]
  | pause next ih => exact ih whole
  | await ready next ih => exact ih whole

/-- What a run goes on with after a first part. -/
def proceed (f : α → Task σ β) : Outcome α × σ → Outcome β × σ
  | (.ok a, s) => (f a).run s
  | (.failed failure, s) => (.failed failure, s)
  | (.overflow, s) => (.overflow, s)

/-- Running one task after another runs the first, and after a success the second. -/
theorem run_bind (t : Task σ α) (f : α → Task σ β) (s : σ) :
    (t.bind f).run s = proceed f (t.run s) := by
  induction t generalizing s with
  | ended outcome => cases outcome <;> rfl
  | act update next ih => exact ih s (update s)
  | pause next ih => exact ih s
  | await ready next ih => exact ih s

/-- A failure as a value leaves the state as it was at the failure. -/
theorem run_attempt (t : Task σ α) (s : σ) :
    t.attempt.run s =
      match t.run s with
      | (.ok a, s) => (.ok (.ok a), s)
      | (.failed failure, s) => (.ok (.error failure), s)
      | (.overflow, s) => (.overflow, s) := by
  induction t generalizing s with
  | ended outcome => cases outcome <;> rfl
  | act update next ih => exact ih s (update s)
  | pause next ih => exact ih s
  | await ready next ih => exact ih s

/-! ## Laws -/

theorem bind_pure (t : Task σ α) : t.bind (fun a => ended (.ok a)) = t := by
  induction t with
  | ended outcome => cases outcome <;> rfl
  | act update next ih => exact congrArg (act update) (funext ih)
  | pause next ih => exact congrArg pause ih
  | await ready next ih => exact congrArg (await ready) ih

theorem bind_assoc (t : Task σ α) (f : α → Task σ β) (g : β → Task σ γ) :
    (t.bind f).bind g = t.bind fun a => (f a).bind g := by
  induction t with
  | ended outcome => cases outcome <;> rfl
  | act update next ih => exact congrArg (act update) (funext ih)
  | pause next ih => exact congrArg pause ih
  | await ready next ih => exact congrArg (await ready) ih

instance : LawfulMonad (Task σ) :=
  LawfulMonad.mk' _ bind_pure (fun _ _ => rfl) bind_assoc

end Task

end Federation
