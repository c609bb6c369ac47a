/-
# Taking what one has waited for

A lock is taken in the step in which it is found free. So a task that has waited for a condition
goes on in the very state in which the condition is true: looking and taking are one step.

A party to calls that take such steps abides by a conduct if every update of its task, made in any
state in which the condition on all standings holds, leaves that condition holding with the standing
that the party goes on from. It keeps to a pact besides, which says what its updates may do to the
state. All of this is told of the task alone, part by part.

## Main definitions

- `Task.guardedStep`: the next update of a task that takes what it has waited for.
- `Task.Abides`: a task abides by a conduct and a pact from a standing on.

## Main results

- `Abides.bind`, `abides_forEach`, `abides_collect`: one part after another.
- `Abides.guardedStep`: what one step comes to.
-/

import Federation.Proofs.Task.Conduct

namespace Federation

/-- Nothing moves. -/
def Drift.still {σ : Type} : Drift σ where
  rel := Eq
  refl _ := rfl
  trans := Eq.trans

namespace Task

variable {κ χ γ σ α β : Type}

/-- The next update of a task. If a condition is waited for, it is true in the state in which the
update is made. -/
def guardedStep : Task σ α → σ → Task σ α × σ
  | ended outcome, s => (ended outcome, s)
  | act update next, s => (next s, update s)
  | pause next, s => (next, s)
  | await ready next, s => if ready s then next.guardedStep s else (await ready next, s)

/-- Takes steps of calls, by their places. -/
def takeSteps : List Nat → List (κ × Task σ α) × σ → List (κ × Task σ α) × σ
  | [], now => now
  | place :: rest, (calls, s) =>
    match calls[place]? with
    | none => takeSteps rest (calls, s)
    | some (c, t) =>
      takeSteps rest (calls.set place (c, (t.guardedStep s).1), (t.guardedStep s).2)

/-- Steps may be taken in any order. -/
theorem reflTransGen_takeSteps {world : Drift σ} {body : κ → Task σ α} {may : κ → Prop}
    (places : List Nat) (before : List (κ × Task σ α) × σ) :
    Relation.ReflTransGen (Interleaves guardedStep world body may) before
      (takeSteps places before) := by
  induction places generalizing before with
  | nil => exact .refl
  | cons place rest ih =>
    obtain ⟨calls, s⟩ := before
    rw [takeSteps]
    split
    · exact ih _
    · rename_i c t found
      exact .head (.go s found) (ih _)

/-- Whoever carries out a task that makes its next update only in certain states abides by the
conduct, keeps to the pact in every update, and comes to a result in the end. -/
def AbidesWhen (conduct : Conduct χ γ σ) (pact : γ → σ → σ → Prop) (result : α → γ → Prop) :
    (σ → Prop) → Task σ α → γ → Prop
  | _, ended (.ok a), standing => result a standing
  | _, ended _, _ => False
  | certain, act update next, standing => ∀ s, certain s →
      conduct.Leads standing s (update s) fun standing' =>
        pact standing s (update s) ∧
          AbidesWhen conduct pact result (fun _ => True) (next s) standing'
  | _, pause next, standing => AbidesWhen conduct pact result (fun _ => True) next standing
  | _, await ready next, standing =>
      AbidesWhen conduct pact result (fun s => ready s = true) next standing

/-- Whoever carries out a task abides by the conduct, keeps to the pact in every update, and comes
to a result in the end. -/
def Abides (conduct : Conduct χ γ σ) (pact : γ → σ → σ → Prop) (result : α → γ → Prop)
    (t : Task σ α) (standing : γ) : Prop :=
  t.AbidesWhen conduct pact result (fun _ => True) standing

variable {conduct : Conduct χ γ σ} {pact : γ → σ → σ → Prop} {result : α → γ → Prop}
  {final : β → γ → Prop} {certain : σ → Prop} {t : Task σ α} {standing : γ} {s : σ}

/-! ## Part by part -/

theorem AbidesWhen.bind {f : α → Task σ β}
    (first : t.AbidesWhen conduct pact result certain standing)
    (second : ∀ a standing, result a standing → ∀ certain,
      (f a).AbidesWhen conduct pact final certain standing) :
    (t.bind f).AbidesWhen conduct pact final certain standing := by
  induction t generalizing certain standing with
  | ended outcome =>
    cases outcome with
    | ok a => exact second a standing first certain
    | failed failure => exact first.elim
    | overflow => exact first.elim
  | act update next ih =>
    exact fun s met => (first s met).imp fun standing' rest => ⟨rest.1, ih s rest.2⟩
  | pause next ih => exact ih first
  | await ready next ih => exact ih first

theorem Abides.when (h : t.Abides conduct pact result standing) (certain : σ → Prop) :
    t.AbidesWhen conduct pact result certain standing := by
  cases t with
  | ended outcome => cases outcome <;> exact h
  | act update next => exact fun s _ => h s trivial
  | pause next => exact h
  | await ready next => exact h

/-- One part after another. -/
theorem Abides.bind {f : α → Task σ β} (first : t.Abides conduct pact result standing)
    (second : ∀ a standing, result a standing → (f a).Abides conduct pact final standing) :
    (t >>= f).Abides conduct pact final standing :=
  AbidesWhen.bind first fun a standing came => (second a standing came).when

theorem Abides.imp {result' : α → γ → Prop} (h : t.Abides conduct pact result standing)
    (implies : ∀ a standing, result a standing → result' a standing) :
    t.Abides conduct pact result' standing := by
  have same : (t >>= fun a => ended (.ok a)) = t := bind_pure t
  rw [← same]
  exact h.bind implies

theorem abides_pure {a : α} (came : result a standing) :
    (pure a : Task σ α).Abides conduct pact result standing :=
  came

theorem abides_perform {f : σ → α × σ} (each : ∀ s, conduct.Leads standing s (f s).2
    fun standing' => pact standing s (f s).2 ∧ result (f s).1 standing') :
    (perform f).Abides conduct pact result standing :=
  fun s _ => each s

theorem abides_read {f : σ → α} (each : ∀ s, conduct.Leads standing s s fun standing' =>
    pact standing s s ∧ result (f s) standing') :
    (read f).Abides conduct pact result standing :=
  fun s _ => each s

theorem abides_change {f : σ → σ} {result : Unit → γ → Prop}
    (each : ∀ s, conduct.Leads standing s (f s) fun standing' =>
      pact standing s (f s) ∧ result () standing') :
    (change f).Abides conduct pact result standing :=
  fun s _ => each s

/-- Waiting for a condition, and an update in the state in which it is found to be true. -/
theorem abides_waitFor_perform {ready : σ → Bool} {f : σ → α × σ}
    (each : ∀ s, ready s = true → conduct.Leads standing s (f s).2 fun standing' =>
      pact standing s (f s).2 ∧ result (f s).1 standing') :
    (waitFor ready >>= fun _ => perform f).Abides conduct pact result standing :=
  each

/-- A task for each of some items, if there is an invariant of those that are left to do. -/
theorem abides_forEach {f : α → Task σ Unit} {result : Unit → γ → Prop}
    (left : List α → γ → Prop)
    (each : ∀ a rest standing, left (a :: rest) standing →
      (f a).Abides conduct pact (fun _ => left rest) standing) {items : List α}
    (start : left items standing) (done : ∀ standing, left [] standing → result () standing) :
    (forEach items f).Abides conduct pact result standing := by
  induction items generalizing standing with
  | nil => exact done standing start
  | cons a rest ih => exact (each a rest standing start).bind fun _ standing came => ih came

/-- The same if what is given is collected. -/
theorem abides_collect {f : α → Task σ β} {kept : γ → Prop} {items : List α}
    (each : ∀ a ∈ items, ∀ standing, kept standing →
      (f a).Abides conduct pact (fun _ => kept) standing)
    (start : kept standing) :
    (collect items f).Abides conduct pact (fun _ => kept) standing := by
  induction items generalizing standing with
  | nil => exact start
  | cons a rest ih =>
    have others (standing : γ) (came : kept standing) :=
      ih (fun b listed => each b (List.mem_cons_of_mem a listed)) came
    exact (each a List.mem_cons_self standing start).bind fun b standing came =>
      (others standing came).bind fun bs standing came => came

/-! ## One step -/

/-- One step changes nothing or abides by the conduct and the pact, and what is left of the task
goes on doing so. -/
theorem AbidesWhen.guardedStep {x : χ} {standings : Nat → γ} {place : Nat}
    (h : t.AbidesWhen conduct pact result certain (standings place)) (met : certain s)
    (holds : conduct.holds x standings s) :
    ∃ x' standing', conduct.course.rel x x' ∧
      conduct.holds x' (Function.update standings place standing') (t.guardedStep s).2 ∧
      ((t.guardedStep s).2 = s ∨ pact (standings place) s (t.guardedStep s).2) ∧
      (t.guardedStep s).1.Abides conduct pact result standing' := by
  -- Going on without an update changes nothing, and no standing.
  have stay (rest : Task σ α) (abides : rest.Abides conduct pact result (standings place)) :
      ∃ x' standing', conduct.course.rel x x' ∧
        conduct.holds x' (Function.update standings place standing') s ∧
        (s = s ∨ pact (standings place) s s) ∧ rest.Abides conduct pact result standing' := by
    refine ⟨x, standings place, conduct.course.refl x, ?_, .inl rfl, abides⟩
    rw [Function.update_eq_self]
    exact holds
  induction t generalizing certain with
  | ended outcome => cases outcome <;> exact stay _ h
  | act update next =>
    obtain ⟨x', standing', later, holds', pact', rest⟩ := h s met x standings place rfl holds
    exact ⟨x', standing', later, holds', .inr pact', rest⟩
  | pause next => exact stay next h
  | await ready next ih =>
    rw [Task.guardedStep]
    cases isReady : ready s with
    | true =>
      rw [if_pos rfl]
      -- The test and the update behind it are one step, so that the update finds what was tested.
      exact ih h isReady
    | false =>
      rw [if_neg Bool.false_ne_true]
      exact stay _ h

theorem Abides.guardedStep {x : χ} {standings : Nat → γ} {place : Nat}
    (h : t.Abides conduct pact result (standings place)) (holds : conduct.holds x standings s) :
    ∃ x' standing', conduct.course.rel x x' ∧
      conduct.holds x' (Function.update standings place standing') (t.guardedStep s).2 ∧
      ((t.guardedStep s).2 = s ∨ pact (standings place) s (t.guardedStep s).2) ∧
      (t.guardedStep s).1.Abides conduct pact result standing' :=
  AbidesWhen.guardedStep h trivial holds

end Task

end Federation
