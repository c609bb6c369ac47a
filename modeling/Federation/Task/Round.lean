/-
# Rounds

Tasks that run side by side take turns. A turn lasts until its task ends, pauses or has to
wait. Turns are given in rounds: a task that pauses has its next turn in the next round, and
a task whose condition comes true is put at the end of the present round. Background tasks
have a turn between two rounds.
-/

import Federation.Task.Basic

namespace Federation

namespace Task

variable {σ α : Type}

/-- One turn of a task. -/
def turn : Task σ α → σ → Task σ α × σ
  | ended outcome, s => (ended outcome, s)
  | act update next, s => (next s).turn (update s)
  | pause next, s => (pause next, s)
  | await ready next, s => if ready s then next.turn s else (await ready next, s)

/-- The next turn of a task that may have paused. -/
def resume : Task σ α → σ → Task σ α × σ
  | pause next, s => next.turn s
  | task, s => task.turn s

/-- Can a task go on in a state? -/
def isReady : Task σ α → σ → Bool
  | await ready _, s => ready s
  | _, _ => true

/-- Is a task over? -/
def isEnded : Task σ α → Bool
  | ended _ => true
  | _ => false

end Task

/-- Tasks that run side by side, each with its number. -/
structure Crew (σ α : Type) where
  /-- Those that have a turn in this round. -/
  queue : List (Nat × Task σ α)
  /-- Those that have paused. -/
  later : List (Nat × Task σ α)
  /-- Those that wait for a condition. -/
  waiting : List (Nat × Task σ α)
  /-- Those that are over, with what came of them. -/
  finished : List (Nat × Outcome α)
  /-- Has one of them met a date or duration out of range? That ends all of them. -/
  overflowed : Bool

namespace Crew

variable {σ α : Type}

/-- Tasks before their first turn. -/
def ofTasks (tasks : List (Task σ α)) : Crew σ α :=
  ⟨(List.range tasks.length).zip tasks, [], [], [], false⟩

/-- Files a task after its turn. -/
def file (crew : Crew σ α) (number : Nat) (task : Task σ α) : Crew σ α :=
  match task with
  | .ended .overflow => { crew with overflowed := true }
  | .ended outcome => { crew with finished := crew.finished ++ [(number, outcome)] }
  | .pause _ => { crew with later := crew.later ++ [(number, task)] }
  | _ => { crew with waiting := crew.waiting ++ [(number, task)] }

/-- Puts those that need not wait any longer at the end of the round. -/
def wake (crew : Crew σ α) (s : σ) : Crew σ α :=
  { crew with
    queue := crew.queue ++ crew.waiting.filter fun (_, task) => task.isReady s
    waiting := crew.waiting.filter fun (_, task) => !task.isReady s }

/-- Gives turns until the round is over, but not more than a number of them. -/
def round : (turns : Nat) → Crew σ α → σ → Crew σ α × σ
  | 0, crew, s => (crew, s)
  | turns + 1, crew, s =>
    match crew.queue with
    | [] => (crew, s)
    | (number, task) :: rest =>
      if crew.overflowed then (crew, s)
      else
        -- What this turn has made possible for others counts from the next turn on.
        let (task, s) := task.resume s
        round turns (({ crew with queue := rest }.file number task).wake s) s

/-- What came of the tasks, by their numbers; a task that is not over is left out. -/
def outcomes (crew : Crew σ α) : List (Outcome α) :=
  (crew.finished.mergeSort fun a b => a.1 ≤ b.1).map (·.2)

end Crew

/-- Gives every background task a turn; those that are over are dismissed. -/
def takeTurns {σ : Type} : List (Task σ Unit) → σ → List (Task σ Unit) × σ
  | [], s => ([], s)
  | task :: rest, s =>
    let (task, s) := task.resume s
    let (others, s) := takeTurns rest s
    (if task.isEnded then others else task :: others, s)

/-- A state and the background tasks that work on it. -/
structure Stage (σ : Type) where
  state : σ
  background : List (Task σ Unit)

namespace Stage

variable {σ α : Type}

/-- Gives every background task a turn. -/
def attend (stage : Stage σ) : Stage σ :=
  let (background, state) := takeTurns stage.background stage.state
  ⟨state, background⟩

/-- Runs rounds of a crew with turns of the background between them. Both the number of
rounds and that of the turns in a round are bounded. -/
def rounds (turns : Nat) : (count : Nat) → Crew σ α → Stage σ → Crew σ α × Stage σ
  | 0, crew, stage => (crew, stage)
  | count + 1, crew, stage =>
    let (crew, state) := crew.round turns stage.state
    let stage := { stage with state }
    if crew.overflowed || (crew.later.isEmpty && crew.waiting.isEmpty) then (crew, stage)
    else
      let stage := stage.attend
      let crew := { crew with queue := crew.later, later := [] }.wake stage.state
      rounds turns count crew stage

/-- Turns and rounds enough for any task that is not meant to run for ever. -/
def patience : Nat := 1000000

/-- Runs tasks side by side; nothing if one of them overflows. -/
def runAll (tasks : List (Task σ α)) (stage : Stage σ) : Option (List (Outcome α)) × Stage σ :=
  let (crew, stage) := stage.rounds patience patience (.ofTasks tasks)
  (if crew.overflowed then none else some crew.outcomes, stage)

/-- Runs one task. -/
def run (task : Task σ α) (stage : Stage σ) : Outcome α × Stage σ :=
  match runAll [task] stage with
  | (some [outcome], stage) => (outcome, stage)
  | (_, stage) => (.overflow, stage)

/-- Runs the background tasks for as long as they can go on. -/
def settle : (count : Nat) → Stage σ → Stage σ
  | 0, stage => stage
  | count + 1, stage =>
    if stage.background.any fun task => task.isReady stage.state then settle count stage.attend
    else stage

end Stage

end Federation
