/-
# Tasks that nothing cuts short

A task that meets a date or duration out of range is cut short. Whether it does may depend on what
it finds in the state, which other tasks change meanwhile. So what is needed is a condition on states
that every update of the task preserves, whatever it found before, and in which the task never gets
to such a date. Others may then do anything that preserves the condition as well, and the condition
is all that the task may rely on.

## Main definitions

- `Task.Safe`: where a condition holds, a task preserves it and is not cut short.
- `Drift.keeping`: whatever preserves a condition may happen.

## Main results

- `Safe.bind`, `Safe.attempt`, `safe_collect`: one part after another.
- `Safe.on`: a task on a part of the state.
- `Safe.runs`: what comes of a task, however the state drifts.
-/

import Federation.Proofs.Task.Runs

namespace Federation

/-- Whatever preserves a condition may happen. -/
def Drift.keeping {σ : Type} (valid : σ → Prop) : Drift σ where
  rel s s' := valid s → valid s'
  refl _ := id
  trans first second holds := second (first holds)

namespace Task

variable {σ τ α β : Type}

/-- Where a condition holds, every update of a task leaves it holding, the task does not meet a date
or duration out of range, and something is true of its value if it has one. -/
def Safe (valid : σ → Prop) (result : α → Prop) : Task σ α → Prop
  | ended (.ok a) => result a
  | ended (.failed _) => True
  | ended .overflow => False
  | act update next => ∀ s, valid s → valid (update s) ∧ (next s).Safe valid result
  | pause next => next.Safe valid result
  | await _ next => next.Safe valid result

variable {valid : σ → Prop} {result : α → Prop} {final : β → Prop} {t : Task σ α}

theorem safe_pure {a : α} (found : result a) : (pure a : Task σ α).Safe valid result := found

theorem safe_fail (failure : Failure) : (fail failure : Task σ α).Safe valid result := trivial

theorem safe_ofExcept {x : Except Failure α} (found : ∀ a, x = .ok a → result a) :
    (ofExcept x : Task σ α).Safe valid result := by
  cases x with
  | ok a => exact found a rfl
  | error failure => exact trivial

theorem safe_ofOutcome {x : Outcome α} (inRange : x ≠ .overflow) (found : ∀ a, x = .ok a → result a) :
    (ofOutcome x : Task σ α).Safe valid result := by
  cases x with
  | ok a => exact found a rfl
  | failed failure => exact trivial
  | overflow => exact inRange rfl

theorem safe_read {f : σ → α} (found : ∀ s, valid s → result (f s)) :
    (read f).Safe valid result :=
  fun s holds => ⟨holds, found s holds⟩

theorem safe_change {f : σ → σ} (kept : ∀ s, valid s → valid (f s)) :
    (change f).Safe valid fun _ => True :=
  fun s holds => ⟨kept s holds, trivial⟩

theorem safe_perform {f : σ → α × σ} (kept : ∀ s, valid s → valid (f s).2 ∧ result (f s).1) :
    (perform f).Safe valid result :=
  kept

theorem safe_pauseIf (wanted : Bool) : (pauseIf wanted : Task σ Unit).Safe valid fun _ => True := by
  cases wanted <;> exact trivial

theorem safe_waitFor (ready : σ → Bool) : (waitFor ready).Safe valid fun _ => True := trivial

/-! ## Part by part -/

/-- The second part relies on what is true of the value of the first. -/
theorem Safe.bind {k : α → Task σ β} (first : t.Safe valid result)
    (second : ∀ a, result a → (k a).Safe valid final) : (t >>= k).Safe valid final := by
  show (t.bind k).Safe valid final
  induction t with
  | ended outcome =>
    cases outcome with
    | ok a => exact second a first
    | failed failure => exact trivial
    | overflow => exact first
  | act update next ih => exact fun s holds => ⟨(first s holds).1, ih s (first s holds).2⟩
  | pause next ih => exact ih first
  | await ready next ih => exact ih first

theorem safe_read_bind {f : σ → α} {k : α → Task σ β} (next : ∀ a, (k a).Safe valid final) :
    (read f >>= k).Safe valid final :=
  fun s holds => ⟨holds, next (f s)⟩

theorem safe_change_bind {f : σ → σ} {k : Unit → Task σ β} (kept : ∀ s, valid s → valid (f s))
    (next : (k ()).Safe valid final) : (change f >>= k).Safe valid final :=
  fun s holds => ⟨kept s holds, next⟩

theorem safe_perform_bind {f : σ → α × σ} {k : α → Task σ β}
    (kept : ∀ s, valid s → valid (f s).2) (next : ∀ a, (k a).Safe valid final) :
    (perform f >>= k).Safe valid final :=
  fun s holds => ⟨kept s holds, next (f s).1⟩

/-- A failure is a value of an attempt. -/
theorem Safe.attempt (safe : t.Safe valid result) :
    t.attempt.Safe valid fun x => ∀ a, x = .ok a → result a := by
  induction t with
  | ended outcome =>
    cases outcome with
    | ok a =>
      intro b same
      exact Except.ok.inj same ▸ safe
    | failed failure =>
      intro b same
      cases same
    | overflow => exact safe
  | act update next ih => exact fun s holds => ⟨(safe s holds).1, ih s (safe s holds).2⟩
  | pause next ih => exact ih safe
  | await ready next ih => exact ih safe

theorem safe_forEach {items : List α} {f : α → Task σ Unit}
    (each : ∀ a ∈ items, (f a).Safe valid fun _ => True) :
    (forEach items f).Safe valid fun _ => True := by
  induction items with
  | nil => exact trivial
  | cons a rest ih =>
    refine (each a List.mem_cons_self).bind fun _ _ => ih fun b listed => ?_
    exact each b (List.mem_cons_of_mem a listed)

theorem safe_collect {items : List α} {f : α → Task σ β}
    (each : ∀ a ∈ items, (f a).Safe valid fun _ => True) :
    (collect items f).Safe valid fun _ => True := by
  induction items with
  | nil => exact trivial
  | cons a rest ih =>
    refine (each a List.mem_cons_self).bind fun b _ => ?_
    refine (ih fun c listed => each c (List.mem_cons_of_mem a listed)).bind fun bs _ => ?_
    exact safe_pure trivial

/-- A task on a part of the state, if the condition on the whole is one on the part and on what is
not in the part. -/
theorem Safe.on {valid' : τ → Prop} (place : Place τ σ) (safe : t.Safe valid result)
    (part : ∀ whole, valid' whole → valid (place.get whole))
    (kept : ∀ whole s, valid' whole → valid s → valid' (place.put whole s)) :
    (t.on place).Safe valid' result := by
  induction t with
  | ended outcome => cases outcome <;> exact safe
  | act update next ih =>
    intro whole holds
    obtain ⟨updated, rest⟩ := safe _ (part whole holds)
    exact ⟨kept whole _ holds updated, ih _ rest⟩
  | pause next ih => exact ih safe
  | await ready next ih => exact ih safe

/-! ## Runs -/

/-- **What comes of a safe task**, however the state drifts as long as the condition is preserved. -/
theorem Safe.runs {drift : Drift σ} {s s' : σ} {outcome : Outcome α} (safe : t.Safe valid result)
    (kept : drift.Below (.keeping valid)) (holds : valid s) (ran : t.Runs drift s outcome s') :
    outcome ≠ .overflow ∧ valid s' ∧ ∀ a, outcome = .ok a → result a := by
  induction t generalizing s with
  | ended came =>
    obtain ⟨rfl, rfl⟩ := ran
    cases outcome with
    | ok a => exact ⟨nofun, holds, fun b same => Outcome.ok.inj same ▸ safe⟩
    | failed failure => exact ⟨nofun, holds, nofun⟩
    | overflow => exact safe.elim
  | act update next ih =>
    -- Others have moved the state before the update.
    obtain ⟨m, moved, ran⟩ := ran
    obtain ⟨updated, rest⟩ := safe m (kept s m moved holds)
    exact ih m rest updated ran
  | pause next ih => exact ih safe holds ran
  | await ready next ih => exact ih safe holds ran

end Task

end Federation
