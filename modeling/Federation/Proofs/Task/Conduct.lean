/-
# Conduct among parties

Tasks that interleave must not rely on what the state was at their last update, for others have
changed it since. What a party knows for certain is its standing: something that only the party
itself changes, and that a condition on all standings and the state ties to the state. Besides,
there may be a course of things that all parties advance together. A party conforms if every update
of its task, made in any state in which the condition holds, leaves it holding with the standing
that the party goes on from. If all parties conform, the condition holds throughout.

Standings and courses are not part of the program. They are there so that a task can be looked at
on its own, part by part.

## Main definitions

- `Task.Conduct`: a condition on the course of things, standings and states.
- `Task.Conforms`: a task keeps to the conduct from a standing on.
- `Task.Parties`: something is true of the calls in the standings of the parties to them.
- `Task.HasStandings`: the parties to some calls conform from the standings they have.

## Main results

- `Conforms.bind`, `Conforms.attempt_bind`: one part after another.
- `Within.conforms`: parts that do nothing of importance.
- `Parties.later`: parties fit to go on have standings at any time.
- `HasStandings.later`: so have parties that conform.
-/

import Mathlib.Logic.Function.Basic
import Federation.Proofs.Task.Interleaving

namespace Federation.Task

variable {κ χ γ σ τ α β : Type}

/-- A condition that ties the course of things and the standings of all parties to the state, and
how the course goes on. -/
structure Conduct (χ γ σ : Type) where
  holds : χ → (Nat → γ) → σ → Prop
  course : Drift χ

/-- A party in a standing may take one state to another, and then is in a standing of which
something is true. -/
def Conduct.Leads (conduct : Conduct χ γ σ) (standing : γ) (s s' : σ) (next : γ → Prop) : Prop :=
  ∀ x standings place, standings place = standing → conduct.holds x standings s →
    ∃ x' standing', conduct.course.rel x x' ∧
      conduct.holds x' (Function.update standings place standing') s' ∧ next standing'

/-- Whoever in a standing carries out a task keeps to the conduct, waits only for what may be waited
for in the standing it has then, and comes to a result in the end. -/
def Conforms (conduct : Conduct χ γ σ) (waits : γ → (σ → Bool) → Prop)
    (result : Outcome α → γ → Prop) : Task σ α → γ → Prop
  | ended outcome, standing => result outcome standing
  | act update next, standing => ∀ s, conduct.Leads standing s (update s) fun standing' =>
      (next s).Conforms conduct waits result standing'
  | pause next, standing => next.Conforms conduct waits result standing
  | await ready next, standing => waits standing ready ∧
      ∀ s, ready s = true → conduct.Leads standing s s fun standing' =>
        next.Conforms conduct waits result standing'

variable {conduct : Conduct χ γ σ} {waits : γ → (σ → Bool) → Prop}
  {result result' : Outcome α → γ → Prop}
  {final : Outcome β → γ → Prop} {t : Task σ α} {standing : γ} {s s' : σ} {next next' : γ → Prop}

theorem Conduct.Leads.imp (h : conduct.Leads standing s s' next)
    (implies : ∀ standing', next standing' → next' standing') :
    conduct.Leads standing s s' next' := by
  intro x standings place own holds
  obtain ⟨x', standing', later, holds', found⟩ := h x standings place own holds
  exact ⟨x', standing', later, holds', implies standing' found⟩

/-- The standing need not change if the condition goes on holding. -/
theorem Conduct.leads_stay
    (kept : ∀ x standings, conduct.holds x standings s → conduct.holds x standings s')
    (found : next standing) : conduct.Leads standing s s' next := by
  intro x standings place own holds
  refine ⟨x, standing, conduct.course.refl x, ?_, found⟩
  rw [← own, Function.update_eq_self]
  exact kept x standings holds

/-- Whoever looks at the state may rely on the condition. -/
theorem Conduct.leads_look
    (found : ∀ x standings, conduct.holds x standings s → next standing) :
    conduct.Leads standing s s next := by
  intro x standings place own holds
  refine ⟨x, standing, conduct.course.refl x, ?_, found x standings holds⟩
  rw [← own, Function.update_eq_self]
  exact holds

/-! ## Part by part -/

theorem Conforms.imp (h : t.Conforms conduct waits result standing)
    (implies : ∀ outcome standing, result outcome standing → result' outcome standing) :
    t.Conforms conduct waits result' standing := by
  induction t generalizing standing with
  | ended outcome => exact implies outcome standing h
  | act update next ih => exact fun s => (h s).imp fun standing' rest => ih s rest
  | pause next ih => exact ih h
  | await ready next ih =>
    exact ⟨h.1, fun s isReady => (h.2 s isReady).imp fun standing' rest => ih rest⟩

/-- What is true between two parts: the second conforms from the standing in which the first
succeeds, and how else the first ends is the result. -/
def Between (conduct : Conduct χ γ σ) (waits : γ → (σ → Bool) → Prop)
    (final : Outcome β → γ → Prop) (f : α → Task σ β) : Outcome α → γ → Prop
  | .ok a, standing => (f a).Conforms conduct waits final standing
  | .failed failure, standing => final (.failed failure) standing
  | .overflow, standing => final .overflow standing

theorem Conforms.bind_between {f : α → Task σ β}
    (first : t.Conforms conduct waits (Between conduct waits final f) standing) :
    (t >>= f).Conforms conduct waits final standing := by
  show (t.bind f).Conforms conduct waits final standing
  induction t generalizing standing with
  | ended outcome => cases outcome <;> exact first
  | act update next ih => exact fun s => (first s).imp fun standing' rest => ih s rest
  | pause next ih => exact ih first
  | await ready next ih =>
    exact ⟨first.1, fun s isReady => (first.2 s isReady).imp fun standing' rest => ih rest⟩

/-- One part after another. -/
theorem Conforms.bind {f : α → Task σ β} (first : t.Conforms conduct waits result standing)
    (second : ∀ a standing, result (.ok a) standing → (f a).Conforms conduct waits final standing)
    (fails : ∀ failure standing, result (.failed failure) standing →
      final (.failed failure) standing)
    (overflows : ∀ standing, result .overflow standing → final .overflow standing) :
    (t >>= f).Conforms conduct waits final standing := by
  refine Conforms.bind_between (first.imp fun outcome standing came => ?_)
  cases outcome with
  | ok a => exact second a standing came
  | failed failure => exact fails failure standing came
  | overflow => exact overflows standing came

/-- What is true of an attempt: a failure is a value. -/
def Attempted (result : Outcome (Except Failure α) → γ → Prop) : Outcome α → γ → Prop
  | .ok a, standing => result (.ok (.ok a)) standing
  | .failed failure, standing => result (.ok (.error failure)) standing
  | .overflow, standing => result .overflow standing

theorem Conforms.attempt {result : Outcome (Except Failure α) → γ → Prop}
    (h : t.Conforms conduct waits (Attempted result) standing) :
    t.attempt.Conforms conduct waits result standing := by
  induction t generalizing standing with
  | ended outcome => cases outcome <;> exact h
  | act update next ih => exact fun s => (h s).imp fun standing' rest => ih s rest
  | pause next ih => exact ih h
  | await ready next ih =>
    exact ⟨h.1, fun s isReady => (h.2 s isReady).imp fun standing' rest => ih rest⟩

/-- An attempt, and what follows it. -/
theorem Conforms.attempt_bind {f : Except Failure α → Task σ β}
    (first : t.Conforms conduct waits result standing)
    (succeeds : ∀ a standing, result (.ok a) standing →
      (f (.ok a)).Conforms conduct waits final standing)
    (fails : ∀ failure standing, result (.failed failure) standing →
      (f (.error failure)).Conforms conduct waits final standing)
    (overflows : ∀ standing, result .overflow standing → final .overflow standing) :
    (t.attempt >>= f).Conforms conduct waits final standing := by
  refine Conforms.bind_between (Conforms.attempt (first.imp fun outcome standing came => ?_))
  cases outcome with
  | ok a => exact succeeds a standing came
  | failed failure => exact fails failure standing came
  | overflow => exact overflows standing came

theorem conforms_pure {a : α} (came : result (.ok a) standing) :
    (pure a : Task σ α).Conforms conduct waits result standing :=
  came

theorem conforms_fail {failure : Failure} (came : result (.failed failure) standing) :
    (fail failure : Task σ α).Conforms conduct waits result standing :=
  came

theorem conforms_ofExcept {x : Except Failure α} (came : result (.ofExcept x) standing) :
    (ofExcept x : Task σ α).Conforms conduct waits result standing :=
  came

/-- An outcome that may be out of range, and what follows it. -/
theorem conforms_ofOutcome_bind {x : Outcome α} {k : α → Task σ β}
    (next : ∀ a, x = .ok a → (k a).Conforms conduct waits final standing)
    (fails : ∀ failure, x = .failed failure → final (.failed failure) standing)
    (overflows : x = .overflow → final .overflow standing) :
    (ofOutcome x >>= k).Conforms conduct waits final standing := by
  cases x with
  | ok a => exact next a rfl
  | failed failure => exact fails failure rfl
  | overflow => exact overflows rfl

/-- One update. The standing may change with it, and what follows may rely on the new one. -/
theorem conforms_perform_bind {f : σ → α × σ} {k : α → Task σ β}
    (each : ∀ s, conduct.Leads standing s (f s).2 ((k (f s).1).Conforms conduct waits final)) :
    (perform f >>= k).Conforms conduct waits final standing :=
  each

theorem conforms_change_bind {f : σ → σ} {k : Unit → Task σ β}
    (each : ∀ s, conduct.Leads standing s (f s) ((k ()).Conforms conduct waits final)) :
    (change f >>= k).Conforms conduct waits final standing :=
  each

/-- Reading changes nothing, though the standing may change with what is found. -/
theorem conforms_read_bind {f : σ → α} {k : α → Task σ β}
    (each : ∀ s, conduct.Leads standing s s ((k (f s)).Conforms conduct waits final)) :
    (read f >>= k).Conforms conduct waits final standing :=
  each

theorem conforms_waitFor_bind {ready : σ → Bool} {k : Unit → Task σ β}
    (may : waits standing ready)
    (each : ∀ s, ready s = true →
      conduct.Leads standing s s ((k ()).Conforms conduct waits final)) :
    (waitFor ready >>= k).Conforms conduct waits final standing :=
  ⟨may, each⟩

/-! ## Parts that do nothing of importance -/

/-- Every update of a task is of some kind. The task does not fail unless it may. Unless there is
leeway, it neither waits nor meets a date or duration out of range. -/
def Within (allowed : σ → σ → Prop) (mayFail leeway : Prop) : Task σ α → Prop
  | ended (.ok _) => True
  | ended (.failed _) => mayFail
  | ended .overflow => leeway
  | act update next => ∀ s, allowed s (update s) ∧ (next s).Within allowed mayFail leeway
  | pause next => next.Within allowed mayFail leeway
  | await _ next => leeway ∧ next.Within allowed mayFail leeway

variable {allowed : σ → σ → Prop} {mayFail leeway : Prop}

theorem within_pure (a : α) : (pure a : Task σ α).Within allowed mayFail leeway := trivial

theorem within_ofExcept (x : Except Failure α) :
    (ofExcept x : Task σ α).Within allowed True leeway := by
  cases x <;> exact trivial

theorem within_ofOutcome (x : Outcome α) : (ofOutcome x : Task σ α).Within allowed True True := by
  cases x <;> exact trivial

theorem within_read (same : ∀ s, allowed s s) (f : σ → α) :
    (read f).Within allowed mayFail leeway :=
  fun s => ⟨same s, trivial⟩

theorem within_change {f : σ → σ} (changes : ∀ s, allowed s (f s)) :
    (change f).Within allowed mayFail leeway :=
  fun s => ⟨changes s, trivial⟩

theorem within_perform {f : σ → α × σ} (changes : ∀ s, allowed s (f s).2) :
    (perform f).Within allowed mayFail leeway :=
  fun s => ⟨changes s, trivial⟩

theorem within_pauseIf (wanted : Bool) :
    (pauseIf wanted : Task σ Unit).Within allowed mayFail leeway := by
  cases wanted <;> exact trivial

theorem Within.bind {f : α → Task σ β} (first : t.Within allowed mayFail leeway)
    (second : ∀ a, (f a).Within allowed mayFail leeway) :
    (t >>= f).Within allowed mayFail leeway := by
  show (t.bind f).Within allowed mayFail leeway
  induction t with
  | ended outcome =>
    cases outcome with
    | ok a => exact second a
    | failed failure => exact first
    | overflow => exact first
  | act update next ih => exact fun s => ⟨(first s).1, ih s (first s).2⟩
  | pause next ih => exact ih first
  | await ready next ih => exact ⟨first.1, ih first.2⟩

/-- An attempt does not fail. -/
theorem Within.attempt (h : t.Within allowed True leeway) :
    t.attempt.Within allowed mayFail leeway := by
  induction t with
  | ended outcome =>
    cases outcome with
    | ok a => exact trivial
    | failed failure => exact trivial
    | overflow => exact h
  | act update next ih => exact fun s => ⟨(h s).1, ih s (h s).2⟩
  | pause next ih => exact ih h
  | await ready next ih => exact ⟨h.1, ih h.2⟩

theorem within_forEach {f : α → Task σ Unit} (each : ∀ a, (f a).Within allowed mayFail leeway)
    (items : List α) : (forEach items f).Within allowed mayFail leeway := by
  induction items with
  | nil => exact trivial
  | cons a rest ih => exact (each a).bind fun _ => ih

/-- Nothing is known of a task. -/
theorem within_free (t : Task σ α) : t.Within (fun _ _ => True) True True := by
  induction t with
  | ended outcome => cases outcome <;> exact trivial
  | act update next ih => exact fun s => ⟨trivial, ih s⟩
  | pause next ih => exact ih
  | await ready next ih => exact ⟨trivial, ih⟩

/-- A task on a part of the state, if whatever changes in the part is allowed. -/
theorem Within.on {allowed' : τ → τ → Prop} (place : Place τ σ)
    (h : t.Within allowed mayFail leeway)
    (each : ∀ whole part, allowed (place.get whole) part → allowed' whole (place.put whole part)) :
    (t.on place).Within allowed' mayFail leeway := by
  induction t with
  | ended outcome => cases outcome <;> exact h
  | act update next ih => exact fun whole => ⟨each whole _ (h _).1, ih _ (h _).2⟩
  | pause next ih => exact ih h
  | await ready next ih => exact ⟨h.1, ih h.2⟩

theorem Within.mono {wider : σ → σ → Prop} (h : t.Within allowed mayFail leeway)
    (below : ∀ s s', allowed s s' → wider s s') : t.Within wider True True := by
  induction t with
  | ended outcome => cases outcome <;> exact trivial
  | act update next ih => exact fun s => ⟨below _ _ (h s).1, ih s (h s).2⟩
  | pause next ih => exact ih h
  | await ready next ih => exact ⟨trivial, ih h.2⟩

/-- A task that runs alone changes what its updates may change. -/
theorem Within.run (h : t.Within allowed mayFail leeway) (same : ∀ s, allowed s s)
    (twice : ∀ s m s', allowed s m → allowed m s' → allowed s s') (s : σ) :
    allowed s (t.run s).2 := by
  induction t generalizing s with
  | ended outcome => exact same s
  | act update next ih => exact twice _ _ _ (h s).1 (ih s (h s).2 _)
  | pause next ih => exact ih h s
  | await ready next ih => exact ih h.2 s

/-- In a world that moves by a drift, the task keeps to any wider drift that allows its updates. -/
theorem Within.keeps {drift wider : Drift σ} (h : t.Within allowed mayFail leeway)
    (below : drift.Below wider) (moves : ∀ s s', allowed s s' → wider.rel s s') :
    t.Keeps drift wider := by
  induction t with
  | ended outcome => exact keeps_ended outcome
  | act update next ih => exact keeps_act below (fun s => moves _ _ (h s).1) fun s => ih s (h s).2
  | pause next ih => exact ih h
  | await ready next ih => exact ih h.2

/-- A task that may not fail does not, however the world moves. -/
theorem Within.runs_ne_failed {drift : Drift σ} {outcome : Outcome α}
    (h : t.Within allowed False leeway) (ran : t.Runs drift s outcome s') (failure : Failure) :
    outcome ≠ .failed failure := by
  induction t generalizing s with
  | ended result =>
    obtain ⟨rfl, -⟩ := ran
    cases outcome with
    | failed failure => exact h.elim
    | ok a | overflow => exact nofun
  | act update next ih =>
    obtain ⟨m, -, ran⟩ := ran
    exact ih m (h m).2 ran
  | pause next ih => exact ih h ran
  | await ready next ih => exact ih h.2 ran

/-- A task without leeway is not cut short, however the world moves. -/
theorem Within.runs_ne_overflow {drift : Drift σ} {outcome : Outcome α}
    (h : t.Within allowed mayFail False) (ran : t.Runs drift s outcome s') :
    outcome ≠ .overflow := by
  induction t generalizing s with
  | ended result =>
    obtain ⟨rfl, -⟩ := ran
    cases outcome with
    | overflow => exact h.elim
    | ok a | failed failure => exact nofun
  | act update next ih =>
    obtain ⟨m, -, ran⟩ := ran
    exact ih m (h m).2 ran
  | pause next ih => exact ih h ran
  | await ready next ih => exact h.1.elim

/-- If what begins with a task that may not fail returns, the task gave a value. -/
theorem Within.exists_runs {drift : Drift σ} {k : α → Task σ β} {outcome : Outcome β}
    (h : t.Within allowed False leeway) (ran : (t >>= k).Runs drift s outcome s')
    (ends : outcome ≠ .overflow) :
    ∃ a m, t.Runs drift s (.ok a) m ∧ (k a).Runs drift m outcome s' := by
  rcases runs_bind.1 ran with ⟨a, m, first, second⟩ | ⟨failure, -, first⟩ | ⟨rfl, -⟩
  · exact ⟨a, m, first, second⟩
  · exact absurd rfl (h.runs_ne_failed first failure)
  · exact absurd rfl ends

/-- What comes of a part that does nothing of importance: the standing is as before. -/
def Unmoved (standing : γ) (mayFail leeway : Prop) : Outcome α → γ → Prop
  | .ok _, standing' => standing' = standing
  | .failed _, standing' => standing' = standing ∧ mayFail
  | .overflow, standing' => standing' = standing ∧ leeway

/-- What matters to nobody can be done in any standing. -/
theorem Within.conforms (h : t.Within allowed mayFail leeway)
    (kept : ∀ x standings s s', allowed s s' → conduct.holds x standings s →
      conduct.holds x standings s')
    (may : leeway → ∀ ready, waits standing ready) :
    t.Conforms conduct waits (Unmoved standing mayFail leeway) standing := by
  induction t with
  | ended outcome =>
    cases outcome with
    | ok a => exact rfl
    | failed failure => exact ⟨rfl, h⟩
    | overflow => exact ⟨rfl, h⟩
  | act update next ih =>
    intro s
    exact conduct.leads_stay (fun x standings => kept x standings s _ (h s).1) (ih s (h s).2)
  | pause next ih => exact ih h
  | await ready next ih =>
    exact ⟨may h.1 ready, fun s _ => conduct.leads_stay (fun _ _ holds => holds) (ih h.2)⟩

/-- So it can be done before anything else. -/
theorem Within.conforms_bind {k : α → Task σ β} (h : t.Within allowed False False)
    (kept : ∀ x standings s s', allowed s s' → conduct.holds x standings s →
      conduct.holds x standings s')
    (next : ∀ a, (k a).Conforms conduct waits final standing) :
    (t >>= k).Conforms conduct waits final standing := by
  refine (h.conforms kept False.elim).bind ?_ ?_ ?_
  · rintro a _ rfl
    exact next a
  · rintro failure _ ⟨-, never⟩
    exact never.elim
  · rintro _ ⟨-, never⟩
    exact never.elim

/-! ## All parties together -/

/-- The condition holds, something is true of every call in the standing that the party to it has,
and everyone else has the standing from which calls start. -/
structure Parties (conduct : Conduct χ γ σ) (own : κ → Task σ α → γ → Prop) (start : γ)
    (calls : List (κ × Task σ α)) (s : σ) (x : χ) (standings : Nat → γ) : Prop where
  holds : conduct.holds x standings s
  beyond : ∀ place, calls.length ≤ place → standings place = start
  own : ∀ place c (t : Task σ α), calls[place]? = some (c, t) → own c t (standings place)

section Parties

variable {go : Task σ α → σ → Task σ α × σ} {world : Drift σ} {body : κ → Task σ α}
  {may : κ → Prop} {own : κ → Task σ α → γ → Prop} {start : γ}
  {before after : List (κ × Task σ α) × σ} {x : χ} {standings : Nat → γ}

/-- If the world leaves the condition alone, and every call is fit to be started and to go on, the
parties go on having standings. -/
theorem Parties.afterStep
    (kept : ∀ x standings s s', world.rel s s' → conduct.holds x standings s →
      conduct.holds x standings s')
    (starts : ∀ c, may c → own c (body c) start)
    (goes : ∀ c (t : Task σ α) x standings place s, own c t (standings place) →
      conduct.holds x standings s → ∃ x' standing', conduct.course.rel x x' ∧
        conduct.holds x' (Function.update standings place standing') (go t s).2 ∧
        own c (go t s).1 standing')
    (h : Parties conduct own start before.1 before.2 x standings)
    (step : Interleaves go world body may before after) :
    ∃ x' standings', conduct.course.rel x x' ∧
      Parties conduct own start after.1 after.2 x' standings' := by
  obtain ⟨holds, beyond, all⟩ := h
  cases step with
  | world calls moved =>
    exact ⟨x, standings, conduct.course.refl x, kept x standings _ _ moved holds, beyond, all⟩
  | start calls s allowed =>
    -- A call that starts takes the first place that nobody has taken yet.
    refine ⟨x, standings, conduct.course.refl x, holds, fun place outside => beyond place ?_, ?_⟩
    · rw [List.length_append] at outside
      exact Nat.le_of_add_right_le outside
    · refine forall_start all ?_
      rw [beyond calls.length (Nat.le_refl _)]
      exact starts _ allowed
  | @go calls place c t s found =>
    -- The call that goes on changes its own standing only.
    obtain ⟨x', standing', later, holds', rest⟩ :=
      goes c t x standings place s (all place c t found) holds
    have inside : place < calls.length := (List.getElem?_eq_some_iff.1 found).1
    refine ⟨x', Function.update standings place standing', later, holds', ?_, ?_⟩
    · intro other outside
      rw [List.length_set] at outside
      rw [Function.update_of_ne (Nat.ne_of_gt (Nat.lt_of_lt_of_le inside outside))]
      exact beyond other outside
    · -- What is left of the call goes with its new standing, and every other call is where it was.
      intro other c' t' found'
      rw [List.getElem?_set] at found'
      by_cases same : place = other
      · subst same
        rw [if_pos rfl, if_pos inside] at found'
        obtain ⟨rfl, rfl⟩ := Prod.mk.inj (Option.some_inj.1 found')
        rw [Function.update_self]
        exact rest
      · rw [if_neg same] at found'
        rw [Function.update_of_ne (Ne.symm same)]
        exact all other c' t' found'

/-- So they have standings at any time. -/
theorem Parties.later
    (kept : ∀ x standings s s', world.rel s s' → conduct.holds x standings s →
      conduct.holds x standings s')
    (starts : ∀ c, may c → own c (body c) start)
    (goes : ∀ c (t : Task σ α) x standings place s, own c t (standings place) →
      conduct.holds x standings s → ∃ x' standing', conduct.course.rel x x' ∧
        conduct.holds x' (Function.update standings place standing') (go t s).2 ∧
        own c (go t s).1 standing')
    (h : Parties conduct own start before.1 before.2 x standings)
    (steps : Relation.ReflTransGen (Interleaves go world body may) before after) :
    ∃ x' standings', conduct.course.rel x x' ∧
      Parties conduct own start after.1 after.2 x' standings' := by
  induction steps with
  | refl => exact ⟨x, standings, conduct.course.refl x, h⟩
  | tail _ step ih =>
    obtain ⟨x₁, standings₁, later, h₁⟩ := ih
    obtain ⟨x₂, standings₂, later', h₂⟩ := h₁.afterStep kept starts goes step
    exact ⟨x₂, standings₂, conduct.course.trans later later', h₂⟩

end Parties

/-! ### Parties that conform -/

/-- One step keeps to the conduct, and what is left of the task goes on doing so. -/
theorem Conforms.oneStep {x : χ} {standings : Nat → γ} {place : Nat}
    (h : t.Conforms conduct waits result (standings place)) (holds : conduct.holds x standings s) :
    ∃ x' standing', conduct.course.rel x x' ∧
      conduct.holds x' (Function.update standings place standing') (t.oneStep s).2 ∧
      (t.oneStep s).1.Conforms conduct waits result standing' := by
  have stay (rest : Task σ α) (conforms : rest.Conforms conduct waits result (standings place)) :
      ∃ x' standing', conduct.course.rel x x' ∧
        conduct.holds x' (Function.update standings place standing') s ∧
        rest.Conforms conduct waits result standing' :=
    conduct.leads_stay (fun _ _ holds => holds) conforms x standings place rfl holds
  cases t with
  | ended outcome => exact stay _ h
  | act update next => exact h s x standings place rfl holds
  | pause next => exact stay next h
  | await ready next =>
    cases isReady : ready s with
    | true =>
      rw [Task.oneStep, isReady]
      exact h.2 s isReady x standings place rfl holds
    | false =>
      rw [Task.oneStep, isReady]
      exact stay _ h

/-- The parties to some calls have standings from which the calls conform, and everyone else has
the standing from which calls start. -/
structure HasStandings (conduct : Conduct χ γ σ) (waits : κ → γ → (σ → Bool) → Prop)
    (result : κ → Outcome α → γ → Prop) (start : γ) (calls : List (κ × Task σ α)) (s : σ) (x : χ)
    (standings : Nat → γ) : Prop where
  holds : conduct.holds x standings s
  beyond : ∀ place, calls.length ≤ place → standings place = start
  conforms : ∀ place c (t : Task σ α), calls[place]? = some (c, t) →
    t.Conforms conduct (waits c) (result c) (standings place)

variable {world : Drift σ} {body : κ → Task σ α} {may : κ → Prop} {start : γ}
  {waits : κ → γ → (σ → Bool) → Prop} {result : κ → Outcome α → γ → Prop}
  {before after : List (κ × Task σ α) × σ} {x : χ} {standings : Nat → γ}

/-- If the world leaves the condition alone and every call that may be started conforms, the
parties go on having standings. -/
theorem HasStandings.later
    (kept : ∀ x standings s s', world.rel s s' → conduct.holds x standings s →
      conduct.holds x standings s')
    (starts : ∀ c, may c → (body c).Conforms conduct (waits c) (result c) start)
    (h : HasStandings conduct waits result start before.1 before.2 x standings)
    (steps : Relation.ReflTransGen (Interleaves oneStep world body may) before after) :
    ∃ x' standings', conduct.course.rel x x' ∧
      HasStandings conduct waits result start after.1 after.2 x' standings' := by
  have parties : Parties conduct (fun c t => t.Conforms conduct (waits c) (result c)) start
      before.1 before.2 x standings := ⟨h.holds, h.beyond, h.conforms⟩
  obtain ⟨x', standings', later, h'⟩ := parties.later kept starts
    (fun c t x standings place s conforms holds => conforms.oneStep holds) steps
  exact ⟨x', standings', later, h'.holds, h'.beyond, h'.own⟩

end Federation.Task
