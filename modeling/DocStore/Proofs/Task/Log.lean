import Mathlib.Data.List.Basic
import DocStore.Task.Runner

/-!
# What the workers of a runner do

The workers of a runner leave a log: who was picked up, what the steps of an action found, how the
action ended, which calls of callbacks were made.  At any time a task may be submitted, the runner may
be closed, and the rest of the program may change the surroundings.

* `Task.Step` : how a task goes from one phase to the next, and what it shows of itself; it is the
  same for every task and does not depend on the others;
* `Runner.Step` : one step of a worker on one task; with `Runner.exists_move?_iff` these and the workers
  who go home are exactly the moves of a runner;
* `Runner.Happens`, `Runner.Reached` : one event, and what any course of events leads to with its log;
* `Runner.Reached.life` : what a task has shown is its own life so far, **whatever the other tasks did
  in between**;
* `Runner.Reached.callsOf_eq` : the calls of a task's callback are those that the task has shown.

The log is not part of a runner.  It is what the properties of a course of events are stated with.
-/

namespace DocStore

variable {ω τ : Type}

/-- What a step of a worker shows of its task. -/
inductive Mark (ω τ : Type) where
  | pickedUp
  | locked
  /-- A step of the action, with the surroundings and the value of the target that it found. -/
  | advanced (surroundings : ω) (target : τ)
  | ended (ending : Ending)
  /-- The callback is done, with its call if there was one. -/
  | reported (calls : List (Event τ))
  | finished (last : TaskState)

namespace Mark

/-- The calls of a callback that are shown. -/
def calls : Mark ω τ → List (Event τ)
  | reported calls => calls
  | _ => []

/-- Whether the task holds the lock of its target at this step. -/
def isUnderLock : Mark ω τ → Bool
  | locked | advanced .. | ended _ => true
  | _ => false

end Mark

/-! ### One task -/

namespace Task

/-- The outcomes with which the callback of a task is called after an ending. -/
def reports (task : Task ω τ) (ending : Ending) : List Outcome :=
  match task.callback with
  | some _ => ending.outcome?.toList
  | none => []

/-- A task goes from one phase to the next and shows a mark. -/
inductive Step (task : Task ω τ) : Phase ω τ → Mark ω τ → Phase ω τ → Prop
  | pickUp : Step task .waiting .pickedUp .pickedUp
  | lock : Step task .pickedUp .locked (.acting task.action)
  | advance (change : ω → τ → ω × τ) (next : ω → τ → Action ω τ) (w : ω) (t : τ) :
      Step task (.acting (.step change next)) (.advanced w t) (.acting (next w t))
  | stop (ending : Ending) : Step task (.acting (.finish ending)) (.ended ending) (.acted ending)
  | report {ending : Ending} {calls : List (Event τ)}
      (h : calls.map Event.outcome = task.reports ending) :
      Step task (.acted ending) (.reported calls) (.reported (Runner.lastState task ending))
  | finish (last : TaskState) : Step task (.reported last) (.finished last) (.finished last)

/-- A task has come to a phase and has shown these marks on the way. -/
inductive Life (task : Task ω τ) : List (Mark ω τ) → Phase ω τ → Prop
  | submitted : Life task [] .waiting
  | next {marks : List (Mark ω τ)} {mark : Mark ω τ} {phase phase' : Phase ω τ}
      (h : Life task marks phase) (hstep : task.Step phase mark phase') :
      Life task (marks ++ [mark]) phase'

end Task

/-! ### The steps of the workers -/

namespace Runner

/-- A line of the log: a task, its target and what it showed. -/
structure Entry (ω τ : Type) where
  task : Nat
  target : Nat
  mark : Mark ω τ

/-- What the tasks have shown, in order. -/
abbrev Log (ω τ : Type) := List (Entry ω τ)

namespace Log

/-- What one task has shown. -/
def of (log : Log ω τ) (i : Nat) : List (Mark ω τ) :=
  (log.filter fun entry => entry.task = i).map Entry.mark

/-- What was shown under the lock of a target. -/
def on (log : Log ω τ) (target : Nat) : Log ω τ :=
  log.filter fun entry => entry.target = target && entry.mark.isUnderLock

theorem of_append (log more : Log ω τ) (i : Nat) : of (log ++ more) i = log.of i ++ more.of i := by
  simp [of]

theorem on_append (log more : Log ω τ) (k : Nat) : on (log ++ more) k = log.on k ++ more.on k :=
  List.filter_append ..

end Log

/-- A step of a worker on a task, with its line in the log. -/
inductive Step (r : Runner ω τ) : Entry ω τ → Runner ω τ → Prop
  | pickUp {i : Nat} {task : Task ω τ} (h : r.jobs[i]? = some ⟨task, .waiting⟩)
      (hfree : r.canPickUp i = true) :
      Step r ⟨i, task.target, .pickedUp⟩ (r.setPhase i .pickedUp)
  | lock {i : Nat} {task : Task ω τ} (h : r.jobs[i]? = some ⟨task, .pickedUp⟩)
      (hfree : r.isLocked task.target = false) :
      Step r ⟨i, task.target, .locked⟩ (r.setPhase i (.acting task.action))
  | advance {i : Nat} {task : Task ω τ} {change : ω → τ → ω × τ} {next : ω → τ → Action ω τ}
      (h : r.jobs[i]? = some ⟨task, .acting (.step change next)⟩) :
      Step r ⟨i, task.target, .advanced r.surroundings (r.targets task.target)⟩
        ((r.setTarget task.target (change r.surroundings (r.targets task.target)).1
          (change r.surroundings (r.targets task.target)).2).setPhase i
            (.acting (next r.surroundings (r.targets task.target))))
  | stop {i : Nat} {task : Task ω τ} {ending : Ending}
      (h : r.jobs[i]? = some ⟨task, .acting (.finish ending)⟩) :
      Step r ⟨i, task.target, .ended ending⟩ (r.setPhase i (.acted ending))
  | report {i : Nat} {task : Task ω τ} {ending : Ending} (h : r.jobs[i]? = some ⟨task, .acted ending⟩)
      (hfree : task.callback.isSome = true → task.looks = true → r.isLocked task.target = false) :
      Step r ⟨i, task.target, .reported (r.eventOf i task ending)⟩
        { r.setPhase i (.reported (lastState task ending)) with
          events := r.events ++ r.eventOf i task ending }
  | finish {i : Nat} {task : Task ω τ} {last : TaskState}
      (h : r.jobs[i]? = some ⟨task, .reported last⟩) :
      Step r ⟨i, task.target, .finished last⟩ (r.setPhase i (.finished last))

variable {r s : Runner ω τ} {entry : Entry ω τ} {i : Nat}

/-- **The moves of a runner** are the steps of its workers on tasks and the workers who go home. -/
theorem exists_move?_iff :
    (∃ move, r.move? move = some s) ↔
      (∃ entry, Step r entry s) ∨ (r.canLeave = true ∧ s = { r with gone := r.gone + 1 }) := by
  constructor
  · rintro ⟨move, h⟩
    cases move with
    | pickUp i =>
      simp only [move?] at h
      split at h
      · rename_i task hjob
        obtain ⟨hfree, hs⟩ := Option.ite_none_right_eq_some.1 h
        cases hs
        exact .inl ⟨_, .pickUp hjob hfree⟩
      · cases h
    | lock i =>
      simp only [move?] at h
      split at h
      · rename_i task hjob
        obtain ⟨hfree, hs⟩ := Option.ite_none_left_eq_some.1 h
        cases hs
        exact .inl ⟨_, .lock hjob (by simpa using hfree)⟩
      · cases h
    | advance i =>
      simp only [move?] at h
      split at h
      · rename_i task ending hjob
        cases h
        exact .inl ⟨_, .stop hjob⟩
      · rename_i task change next hjob
        cases h
        exact .inl ⟨_, .advance hjob⟩
      · cases h
    | report i =>
      simp only [move?] at h
      split at h
      · rename_i task ending hjob
        obtain ⟨hfree, hs⟩ := Option.ite_none_left_eq_some.1 h
        cases hs
        exact .inl ⟨_, .report hjob (by simpa using hfree)⟩
      · cases h
    | finish i =>
      simp only [move?] at h
      split at h
      · rename_i task last hjob
        cases h
        exact .inl ⟨_, .finish hjob⟩
      · cases h
    | leave =>
      obtain ⟨hleave, hs⟩ := Option.ite_none_right_eq_some.1 h
      cases hs
      exact .inr ⟨hleave, rfl⟩
  · rintro (⟨entry, h⟩ | ⟨h, rfl⟩)
    · cases h with
      | @pickUp i task h hfree => exact ⟨.pickUp i, by simp [move?, h, hfree]⟩
      | @lock i task h hfree => exact ⟨.lock i, by simp [move?, h, hfree]⟩
      | @advance i task change next h => exact ⟨.advance i, by simp [move?, h]⟩
      | @stop i task ending h => exact ⟨.advance i, by simp [move?, h]⟩
      | @report i task ending h hfree =>
        refine ⟨.report i, ?_⟩
        simp only [move?, h]
        rw [if_neg (by simpa using hfree)]
      | @finish i task last h => exact ⟨.finish i, by simp [move?, h]⟩
    · exact ⟨.leave, by simp [move?, h]⟩

/-! ### What a step changes -/

theorem jobs_setPhase {task : Task ω τ} {phase : Phase ω τ} (h : r.jobs[i]? = some ⟨task, phase⟩)
    (phase' : Phase ω τ) : (r.setPhase i phase').jobs = r.jobs.set i ⟨task, phase'⟩ := by
  simp [setPhase, List.modify_eq_set_getElem?, h]

/-- A step puts its task into another phase, and no other. -/
theorem Step.job (h : Step r entry s) :
    ∃ task phase phase', r.jobs[entry.task]? = some ⟨task, phase⟩ ∧ entry.target = task.target ∧
      task.Step phase entry.mark phase' ∧ s.jobs = r.jobs.set entry.task ⟨task, phase'⟩ := by
  cases h with
  | @pickUp i task hjob hfree => exact ⟨task, _, _, hjob, rfl, .pickUp, jobs_setPhase hjob _⟩
  | @lock i task hjob hfree => exact ⟨task, _, _, hjob, rfl, .lock, jobs_setPhase hjob _⟩
  | @advance i task change next hjob =>
    exact ⟨task, _, _, hjob, rfl, .advance change next _ _, jobs_setPhase hjob _⟩
  | @stop i task ending hjob => exact ⟨task, _, _, hjob, rfl, .stop ending, jobs_setPhase hjob _⟩
  | @report i task ending hjob hfree =>
    refine ⟨task, _, _, hjob, rfl, .report ?_, jobs_setPhase hjob _⟩
    unfold eventOf Task.reports
    cases task.callback <;> cases ending <;> rfl
  | @finish i task last hjob => exact ⟨task, _, _, hjob, rfl, .finish last, jobs_setPhase hjob _⟩

/-- The calls of callbacks that a step makes are those in its line, and they are its own task's. -/
theorem Step.events (h : Step r entry s) :
    s.events = r.events ++ entry.mark.calls ∧
      ∀ event ∈ entry.mark.calls, event.task = entry.task := by
  cases h with
  | @report i task ending hjob hfree =>
    refine ⟨rfl, fun event hevent => ?_⟩
    simp only [Mark.calls, eventOf] at hevent
    split at hevent
    · rw [List.mem_singleton.1 hevent]
    · cases hevent
  | _ => exact ⟨(List.append_nil _).symm, fun event hevent => nomatch hevent⟩

/-! ### Courses of events -/

/-- What can happen to a runner, with the lines that it adds to the log. -/
inductive Happens (r : Runner ω τ) : Log ω τ → Runner ω τ → Prop
  | step {entry : Entry ω τ} {s : Runner ω τ} (h : Step r entry s) : Happens r [entry] s
  | leave (h : r.canLeave = true) : Happens r [] { r with gone := r.gone + 1 }
  | submit (task : Task ω τ) (h : r.isClosed = false) : Happens r [] (r.submit task)
  | close : Happens r [] r.close
  /-- The rest of the program changes the surroundings. -/
  | elsewhere (w : ω) : Happens r [] { r with surroundings := w }

/-- A runner that comes out of another one, and the log of what happened in between. -/
inductive Reached (r₀ : Runner ω τ) : Runner ω τ → Log ω τ → Prop
  | start : Reached r₀ r₀ []
  | next {r s : Runner ω τ} {log more : Log ω τ} (h : Reached r₀ r log)
      (hnext : Happens r more s) : Reached r₀ s (log ++ more)

/-- A runner to which nothing has been submitted. -/
def fresh (workers : Option Nat) (w : ω) (targets : Nat → τ) : Runner ω τ :=
  { workers, surroundings := w, targets }

/-- The calls of a task's callback so far. -/
def callsOf (r : Runner ω τ) (i : Nat) : List (Event τ) := r.events.filter fun event => event.task = i

variable {r₀ : Runner ω τ} {log more : Log ω τ} {task : Task ω τ} {phase : Phase ω τ}

theorem run_foldl_perform (moves : List Move) (r : Runner ω τ) : Run r (moves.foldl perform r) := by
  induction moves generalizing r with
  | nil => exact .refl r
  | cons move moves ih => exact (run_perform r move).trans (ih _)

/-- A run is a course of events in which nothing is submitted. -/
theorem Reached.run (h : Reached r₀ r log) (hrun : Run r s) : ∃ log', Reached r₀ s log' := by
  induction hrun with
  | refl => exact ⟨log, h⟩
  | tail move _ hmove ih =>
    obtain ⟨log', h'⟩ := ih
    obtain ⟨entry, hstep⟩ | ⟨hleave, rfl⟩ := exists_move?_iff.1 ⟨move, hmove⟩
    · exact ⟨_, h'.next (.step hstep)⟩
    · exact ⟨_, h'.next (.leave hleave)⟩

theorem Reached.submitAll (h : Reached r₀ r log) (hopen : r.isClosed = false)
    (tasks : List (Task ω τ)) : ∃ log', Reached r₀ (r.submitAll tasks) log' := by
  induction tasks generalizing r log with
  | nil => exact ⟨log, h⟩
  | cons task tasks ih => exact ih (h.next (.submit task hopen)) hopen

/-- **One event and one task**: the task stays where it is, and either nothing happens to it or it
takes one step. -/
theorem Happens.job (h : Happens r more s) (hi : r.jobs[i]? = some ⟨task, phase⟩) :
    ∃ phase', s.jobs[i]? = some ⟨task, phase'⟩ ∧
      ((Log.of more i = [] ∧ phase' = phase) ∨
        ∃ mark, Log.of more i = [mark] ∧ task.Step phase mark phase') := by
  cases h with
  | @step entry s h =>
    obtain ⟨task', phase₁, phase₂, hjob, -, hstep, hjobs⟩ := h.job
    by_cases heq : entry.task = i
    · obtain rfl := heq
      obtain ⟨rfl, rfl⟩ : task' = task ∧ phase₁ = phase := by simpa [hjob] using hi
      have hlt := (List.getElem?_eq_some_iff.1 hjob).1
      refine ⟨phase₂, by rw [hjobs, List.getElem?_set_self hlt], .inr ⟨entry.mark, ?_, hstep⟩⟩
      simp [Log.of]
    · refine ⟨phase, by rw [hjobs, List.getElem?_set_ne heq, hi], .inl ⟨?_, rfl⟩⟩
      simp [Log.of, heq]
  | submit task' h =>
    have hlt := (List.getElem?_eq_some_iff.1 hi).1
    exact ⟨phase, (List.getElem?_append_left hlt).trans hi, .inl ⟨rfl, rfl⟩⟩
  | leave h => exact ⟨phase, hi, .inl ⟨rfl, rfl⟩⟩
  | close => exact ⟨phase, hi, .inl ⟨rfl, rfl⟩⟩
  | elsewhere w => exact ⟨phase, hi, .inl ⟨rfl, rfl⟩⟩

/-- A task that is there after an event was there before, or it has just been submitted. -/
theorem Happens.job_before (h : Happens r more s) (hi : s.jobs[i]? = some ⟨task, phase⟩) :
    (∃ before, r.jobs[i]? = some ⟨task, before⟩) ∨
      (r.jobs.length ≤ i ∧ more = [] ∧ phase = .waiting) := by
  cases hbefore : r.jobs[i]? with
  | some job =>
    obtain ⟨task', before⟩ := job
    obtain ⟨phase', hafter, -⟩ := h.job hbefore
    obtain ⟨rfl, rfl⟩ : task' = task ∧ phase' = phase := by simpa [hafter] using hi
    exact .inl ⟨before, rfl⟩
  | none =>
    have hle := List.getElem?_eq_none_iff.1 hbefore
    cases h with
    | @step entry s h =>
      obtain ⟨task', phase₁, phase₂, hjob, -, -, hjobs⟩ := h.job
      rw [hjobs, List.getElem?_eq_none (by simpa using hle)] at hi
      cases hi
    | submit task' h =>
      have hjob : Job.mk task phase = { task := task' } := by
        change (r.jobs ++ [{ task := task' }])[i]? = _ at hi
        rw [List.getElem?_append_right hle] at hi
        exact List.mem_singleton.1 (List.mem_of_getElem? hi)
      exact .inr ⟨hle, rfl, congrArg Job.phase hjob⟩
    | _ => exact absurd (hbefore.symm.trans hi) (by simp)

/-- What a task shows is shown by a task that is there. -/
theorem Happens.of_eq_nil (h : Happens r more s) (hi : r.jobs[i]? = none) : more.of i = [] := by
  cases h with
  | @step entry s h =>
    obtain ⟨task, phase, phase', hjob, -⟩ := h.job
    have hne : entry.task ≠ i := by
      rintro rfl
      exact absurd (hi.symm.trans hjob) (by simp)
    simp [Log.of, hne]
  | _ => rfl

/-! ### What the log says -/

variable {workers : Option Nat} {w : ω} {targets : Nat → τ}

theorem Reached.of_eq_nil (h : Reached (fresh workers w targets) r log) (hi : r.jobs[i]? = none) :
    log.of i = [] := by
  induction h with
  | start => rfl
  | @next r s log more _ hnext ih =>
    have hr : r.jobs[i]? = none := by
      cases hjob : r.jobs[i]? with
      | none => rfl
      | some job =>
        obtain ⟨phase, hs, -⟩ := hnext.job hjob
        exact absurd (hi.symm.trans hs) (by simp)
    rw [Log.of_append, ih hr, hnext.of_eq_nil hr, List.append_nil]

/-- **What a task has shown is its life so far**, whatever the other tasks did in between. -/
theorem Reached.life (h : Reached (fresh workers w targets) r log)
    (hi : r.jobs[i]? = some ⟨task, phase⟩) : task.Life (log.of i) phase := by
  -- Along the course of events; a task that was not there before has shown nothing yet.
  induction h generalizing phase with
  | start => cases hi
  | @next r s log more h hnext ih =>
    rw [Log.of_append]
    obtain ⟨before, hbefore⟩ | ⟨hle, rfl, rfl⟩ := hnext.job_before hi
    · obtain ⟨phase', hafter, hmore⟩ := hnext.job hbefore
      obtain rfl : phase' = phase := by simpa [hafter] using hi
      obtain ⟨hnone, rfl⟩ | ⟨mark, hmark, hstep⟩ := hmore
      · rw [hnone, List.append_nil]
        exact ih hbefore
      · rw [hmark]
        exact (ih hbefore).next hstep
    · rw [h.of_eq_nil (List.getElem?_eq_none hle)]
      exact .submitted

/-- The calls of a task's callback are those that the task has shown. -/
theorem Reached.callsOf_eq (h : Reached (fresh workers w targets) r log) (i : Nat) :
    r.callsOf i = (log.of i).flatMap Mark.calls := by
  induction h with
  | start => rfl
  | @next r s log more _ hnext ih =>
    rw [Log.of_append, List.flatMap_append, ← ih]
    cases hnext with
    | @step entry s h =>
      obtain ⟨hevents, hown⟩ := h.events
      rw [callsOf, hevents, List.filter_append]
      by_cases heq : entry.task = i
      · have hall : entry.mark.calls.filter (fun event => event.task = i) = entry.mark.calls :=
          List.filter_eq_self.2 fun event hevent => by simp [hown event hevent, heq]
        rw [hall]
        simp [Log.of, heq, callsOf]
      · have hnone : entry.mark.calls.filter (fun event => event.task = i) = [] :=
          List.filter_eq_nil_iff.2 fun event hevent => by simp [hown event hevent, heq]
        rw [hnone]
        simp [Log.of, heq, callsOf]
    | _ => simp [Log.of, callsOf, submit, close]

/-- Every line of the log names the target of its task. -/
theorem Reached.target (h : Reached (fresh workers w targets) r log) {entry : Entry ω τ}
    (hentry : entry ∈ log) :
    ∃ task phase, r.jobs[entry.task]? = some ⟨task, phase⟩ ∧ entry.target = task.target := by
  induction h with
  | start => cases hentry
  | @next r s log more _ hnext ih =>
    have hold : ∃ task phase, r.jobs[entry.task]? = some ⟨task, phase⟩ ∧
        entry.target = task.target := by
      obtain hlog | hmore := List.mem_append.1 hentry
      · exact ih hlog
      · cases hnext with
        | step h =>
          obtain rfl := List.mem_singleton.1 hmore
          obtain ⟨task, phase, -, hjob, htarget, -⟩ := h.job
          exact ⟨task, phase, hjob, htarget⟩
        | _ => cases hmore
    obtain ⟨task, phase, hjob, htarget⟩ := hold
    obtain ⟨phase', hjob', -⟩ := hnext.job hjob
    exact ⟨task, phase', hjob', htarget⟩

end Runner

end DocStore
