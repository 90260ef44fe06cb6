import DocStore.Task.Action

/-!
# Running background tasks

A `Runner` holds tasks that act on shared targets, and the phase of each of them. Its moves are the
steps that workers make: pick up a task, lock its target, advance its action, report to its callback
and finish. `Runner.move?` makes a move if it is possible, and any order of possible moves is a run.

* The workers of a pool take tasks out of one queue, in the order in which they were submitted; without
  a pool each task has a worker of its own and is picked up at any time.
* A target is locked from the first step of an action to its ending, and while a callback looks at it.
  A callback that does not look at the target is called at any time.
  After an action that broke off it is unlocked like any other, with the changes made so far.
* A callback is called once the action has ended, unless the action broke off, and the task is
  finished after that.
* A runner that has been closed takes no more tasks.  The workers of its pool go home when the queue is
  empty.

`Runner.complete` takes one task through all its phases with nothing in between.
-/

namespace DocStore

/-- What can be seen of a task. -/
inductive TaskState where
  /-- Submitted and not picked up. -/
  | idle
  | running
  | completed
  | failed (message : String)
deriving DecidableEq, Repr

/-- Whether a task has come to its end. -/
def TaskState.isFinished : TaskState → Bool
  | completed | failed _ => true
  | idle | running => false

/-- The end of a task in which something broke off. -/
def TaskState.panicked : TaskState := failed "task panicked"

/-- The end of a task after an action, if its callback does not break off. -/
def TaskState.ofEnding : Ending → TaskState
  | .completed => completed
  | .failed e => failed e.message
  | .panicked => panicked

/-- What a callback does, apart from looking at outcome and target. -/
inductive Callback where
  | returns
  /-- It breaks off. -/
  | panics
deriving DecidableEq, Repr

/-- Something to do in the background on one of the targets. -/
structure Task (ω τ : Type) where
  target : Nat
  action : Action ω τ
  callback : Option Callback := none
  /-- Whether the callback looks at the target. -/
  looks : Bool := true

/-- Where a task is. -/
inductive Phase (ω τ : Type) where
  | waiting
  | pickedUp
  /-- The target is locked and the rest of the action is still to come. -/
  | acting (rest : Action ω τ)
  | acted (ending : Ending)
  | reported (last : TaskState)
  | finished (last : TaskState)

namespace Phase

variable {ω τ : Type}

/-- The state that a phase shows. -/
def state : Phase ω τ → TaskState
  | waiting => .idle
  | finished last => last
  | _ => .running

/-- Whether a worker is busy with a task. -/
def isBusy : Phase ω τ → Bool
  | waiting | finished _ => false
  | _ => true

/-- Whether a task holds the lock of its target. -/
def holdsLock : Phase ω τ → Bool
  | acting _ => true
  | _ => false

/-- Whether a task has not been picked up. -/
def isWaiting : Phase ω τ → Bool
  | waiting => true
  | _ => false

/-- Whether a task has come to its end. -/
def isFinished : Phase ω τ → Bool
  | finished _ => true
  | _ => false

end Phase

/-- A call of a callback: of which task, with which outcome, and the target that it saw if it looked. -/
structure Event (τ : Type) where
  task : Nat
  outcome : Outcome
  seen : τ

/-- A task and where it is. -/
structure Job (ω τ : Type) where
  task : Task ω τ
  phase : Phase ω τ := .waiting

/-- Tasks, their targets and their surroundings. -/
structure Runner (ω τ : Type) where
  /-- The number of workers in the pool; without a pool every task has a worker of its own. -/
  workers : Option Nat
  surroundings : ω
  targets : Nat → τ
  /-- The tasks in the order in which they were submitted. -/
  jobs : List (Job ω τ) := []
  /-- The calls of callbacks so far, in order. -/
  events : List (Event τ) := []
  /-- Whether nothing can be submitted any more. -/
  isClosed : Bool := false
  /-- The number of workers of the pool that have gone home. -/
  gone : Nat := 0

/-- A step of the worker that is busy with a task, named by the task's place, or of an idle one. -/
inductive Move where
  | pickUp (task : Nat)
  | lock (task : Nat)
  | advance (task : Nat)
  | report (task : Nat)
  | finish (task : Nat)
  /-- A worker of the pool goes home. -/
  | leave
deriving DecidableEq, Repr

namespace Runner

variable {ω τ : Type}

/-- Submit a task. -/
def submit (r : Runner ω τ) (task : Task ω τ) : Runner ω τ :=
  { r with jobs := r.jobs ++ [{ task }] }

/-- Submit tasks in order. -/
def submitAll (r : Runner ω τ) (tasks : List (Task ω τ)) : Runner ω τ := tasks.foldl submit r

/-- What can be seen of the tasks. -/
def states (r : Runner ω τ) : List TaskState := r.jobs.map fun job => job.phase.state

/-- Take no more tasks. -/
def close (r : Runner ω τ) : Runner ω τ := { r with isClosed := true }

/-- Whether a worker is free to pick up a task.  Workers take tasks out of the queue in order, so that
every earlier task that still waits to be picked up has kept a worker from this one. -/
def canPickUp (r : Runner ω τ) (i : Nat) : Bool :=
  match r.workers with
  | none => true
  | some n =>
    r.gone + r.jobs.countP (fun job => job.phase.isBusy) +
      (r.jobs.take i).countP (fun job => job.phase.isWaiting) < max n 1

/-- Whether a worker of the pool can go home: nothing can be submitted, and the others have all tasks
that are not finished. -/
def canLeave (r : Runner ω τ) : Bool :=
  match r.workers with
  | none => false
  | some n => r.isClosed && r.gone + r.jobs.countP (fun job => !job.phase.isFinished) < max n 1

/-- Whether some task holds the lock of a target. -/
def isLocked (r : Runner ω τ) (target : Nat) : Bool :=
  r.jobs.any fun job => job.phase.holdsLock && job.task.target == target

/-- The runner with a task in another phase. -/
def setPhase (r : Runner ω τ) (i : Nat) (phase : Phase ω τ) : Runner ω τ :=
  { r with jobs := r.jobs.modify i fun job => { job with phase } }

/-- The runner with other surroundings and another value of a target. -/
def setTarget (r : Runner ω τ) (target : Nat) (w : ω) (t : τ) : Runner ω τ :=
  { r with surroundings := w, targets := fun k => if k = target then t else r.targets k }

/-- The call of a task's callback, if it has one and its action did not break off. -/
def eventOf (r : Runner ω τ) (i : Nat) (task : Task ω τ) (ending : Ending) : List (Event τ) :=
  match task.callback, ending.outcome? with
  | some _, some outcome => [⟨i, outcome, r.targets task.target⟩]
  | _, _ => []

/-- The end of a task after its callback. -/
def lastState (task : Task ω τ) (ending : Ending) : TaskState :=
  match task.callback, ending with
  | _, .panicked => .panicked
  | some .panics, _ => .panicked
  | _, ending => .ofEnding ending

/-- Make a move, if it is possible. -/
def move? (r : Runner ω τ) : Move → Option (Runner ω τ)
  | .pickUp i =>
    match r.jobs[i]? with
    | some ⟨_, .waiting⟩ => if r.canPickUp i then some (r.setPhase i .pickedUp) else none
    | _ => none
  | .lock i =>
    match r.jobs[i]? with
    | some ⟨task, .pickedUp⟩ =>
      if r.isLocked task.target then none else some (r.setPhase i (.acting task.action))
    | _ => none
  | .advance i =>
    match r.jobs[i]? with
    | some ⟨_, .acting (.finish ending)⟩ => some (r.setPhase i (.acted ending))
    | some ⟨task, .acting (.step change next)⟩ =>
      let t := r.targets task.target
      let after := change r.surroundings t
      some ((r.setTarget task.target after.1 after.2).setPhase i
        (.acting (next r.surroundings t)))
    | _ => none
  | .report i =>
    match r.jobs[i]? with
    | some ⟨task, .acted ending⟩ =>
      if task.callback.isSome && task.looks && r.isLocked task.target then none
      else
        some { r.setPhase i (.reported (lastState task ending)) with
          events := r.events ++ r.eventOf i task ending }
    | _ => none
  | .finish i =>
    match r.jobs[i]? with
    | some ⟨_, .reported last⟩ => some (r.setPhase i (.finished last))
    | _ => none
  | .leave => if r.canLeave then some { r with gone := r.gone + 1 } else none

/-- The runner after a move, or as it is if the move is not possible. -/
def perform (r : Runner ω τ) (move : Move) : Runner ω τ := (r.move? move).getD r

/-- A run: possible moves in some order. -/
inductive Run : Runner ω τ → Runner ω τ → Prop where
  | refl (r : Runner ω τ) : Run r r
  | tail {r s t : Runner ω τ} (move : Move) : Run r s → s.move? move = some t → Run r t

/-- Advance an action to its ending. -/
def advanceAll (i target : Nat) : Action ω τ → Runner ω τ → Runner ω τ
  | .finish _, r => r.perform (.advance i)
  | .step _ next, r =>
    advanceAll i target (next r.surroundings (r.targets target)) (r.perform (.advance i))

/-- Take a task from its submission to its end. -/
def complete (r : Runner ω τ) (i : Nat) : Runner ω τ :=
  match r.jobs[i]? with
  | none => r
  | some ⟨task, _⟩ =>
    let r := (r.perform (.pickUp i)).perform (.lock i)
    ((advanceAll i task.target task.action r).perform (.report i)).perform (.finish i)

/-- Submit a task and take it to its end. -/
def submitAndComplete (r : Runner ω τ) (task : Task ω τ) : Runner ω τ :=
  (r.submit task).complete r.jobs.length

/-- Submit all tasks and then take them to their ends in order. -/
def runAll (r : Runner ω τ) (tasks : List (Task ω τ)) : Runner ω τ :=
  (List.range tasks.length).foldl (fun s k => s.complete (r.jobs.length + k)) (r.submitAll tasks)

/-- Submit the tasks one at a time and take each to its end before the next one. -/
def runEach (r : Runner ω τ) (tasks : List (Task ω τ)) : Runner ω τ :=
  tasks.foldl submitAndComplete r

theorem run_perform (r : Runner ω τ) (move : Move) : Run r (r.perform move) := by
  unfold perform
  cases h : r.move? move with
  | none => exact .refl r
  | some s => exact .tail move (.refl r) h

theorem Run.trans {r s t : Runner ω τ} (h : Run r s) (h' : Run s t) : Run r t := by
  induction h' with
  | refl => exact h
  | tail move _ hm ih => exact .tail move ih hm

theorem run_advanceAll (i target : Nat) (action : Action ω τ) (r : Runner ω τ) :
    Run r (advanceAll i target action r) := by
  induction action generalizing r with
  | finish => exact run_perform r _
  | step change next ih => exact (run_perform r _).trans (ih _ _ _)

/-- Taking a task to its end is a run. -/
theorem run_complete (r : Runner ω τ) (i : Nat) : Run r (r.complete i) := by
  unfold complete
  split
  · exact .refl r
  · exact (((run_perform r _).trans (run_perform _ _)).trans (run_advanceAll i _ _ _)).trans
      ((run_perform _ _).trans (run_perform _ _))

end Runner

end DocStore
