import DocStore.Proofs.Task.Outlook

/-!
# A pool of one worker

A pool of one worker carries its tasks out one after another, in the order in which they were submitted,
also while others are still being submitted.

* `Runner.Course` : tasks are submitted and the workers make their moves meanwhile, in any way;
* `Runner.OneByOne` : each task is submitted when the one before is finished;
* `Runner.InTurn` : whoever is not waiting any more comes after tasks that are finished, which is what
  the single worker keeps (`Runner.Course.inTurn`);
* `Runner.one_worker_is_sequential` : such a pool, and a runner without a pool that is given one task at a
  time, end with **the same states, targets and calls of callbacks**.

A job that is submitted without a target is a task without a callback, on a target of its own.

The proof compares both with the tasks carried out undivided (`Runner.carryOut`): each step of the single
worker leaves the outlook as it is.
-/

namespace DocStore

namespace Runner

variable {ω τ : Type} {r s r₀ : Runner ω τ} {entry : Entry ω τ} {tasks : List (Task ω τ)}
  {task : Task ω τ} {workers n : Nat} {w : ω} {targets : Nat → τ}

/-- A runner to which these tasks have been submitted, in this order.  Its workers make moves at any
time, and it may have been closed after the last task. -/
inductive Course (r₀ : Runner ω τ) : List (Task ω τ) → Runner ω τ → Prop
  | start : Course r₀ [] r₀
  | submit {tasks : List (Task ω τ)} {r : Runner ω τ} (h : Course r₀ tasks r) (task : Task ω τ)
      (hopen : r.isClosed = false) : Course r₀ (tasks ++ [task]) (r.submit task)
  | move {tasks : List (Task ω τ)} {r s : Runner ω τ} (h : Course r₀ tasks r) (move : Move)
      (hmove : r.move? move = some s) : Course r₀ tasks s
  | close {tasks : List (Task ω τ)} {r : Runner ω τ} (h : Course r₀ tasks r) :
      Course r₀ tasks r.close

/-- A runner to which these tasks have been submitted, each when the one before was finished, and the
last is finished too. -/
inductive OneByOne (r₀ : Runner ω τ) : List (Task ω τ) → Runner ω τ → Prop
  | start : OneByOne r₀ [] r₀
  | next {tasks : List (Task ω τ)} {r s : Runner ω τ} (h : OneByOne r₀ tasks r) (task : Task ω τ)
      (hrun : Run (r.submit task) s) (hdone : s.IsDone) : OneByOne r₀ (tasks ++ [task]) s

/-! ### Courses can be brought to an end -/

theorem Course.run (h : Course r₀ tasks r) (hrun : Run r s) : Course r₀ tasks s := by
  induction hrun with
  | refl => exact h
  | tail move _ hmove ih => exact ih.move move hmove

theorem Course.submitAll (h : Course r₀ [] r) (hopen : r.isClosed = false)
    (tasks : List (Task ω τ)) : Course r₀ tasks (r.submitAll tasks) := by
  suffices hall : ∀ (tasks before : List (Task ω τ)) (r : Runner ω τ), Course r₀ before r →
      r.isClosed = false → Course r₀ (before ++ tasks) (r.submitAll tasks) from hall tasks [] r h hopen
  intro tasks
  induction tasks with
  | nil => exact fun before r h _ => (List.append_nil before).symm ▸ h
  | cons task tasks ih =>
    intro before r h hopen
    rw [List.append_cons]
    exact ih _ _ (h.submit task hopen) hopen

/-- A course of submissions and moves is one of events. -/
theorem Course.reached (h : Course r₀ tasks r) : ∃ log, Reached r₀ r log := by
  induction h with
  | start => exact ⟨[], .start⟩
  | submit _ task hopen ih =>
    obtain ⟨log, h⟩ := ih
    exact ⟨_, h.next (.submit task hopen)⟩
  | move _ move hmove ih =>
    obtain ⟨log, h⟩ := ih
    exact h.run (.tail move (.refl _) hmove)
  | close _ ih =>
    obtain ⟨log, h⟩ := ih
    exact ⟨_, h.next .close⟩

theorem Run.isClosed_eq (h : Run r s) : s.isClosed = r.isClosed := by
  induction h with
  | refl => rfl
  | tail move _ hmove ih =>
    obtain ⟨entry, hstep⟩ | ⟨-, rfl⟩ := exists_move?_iff.1 ⟨move, hmove⟩
    · exact hstep.pool_eq.2.1.trans ih
    · exact ih

/-- One task at a time is one of the ways to submit tasks. -/
theorem OneByOne.course (h : OneByOne (fresh none w targets) tasks r) :
    Course (fresh none w targets) tasks r ∧ r.isClosed = false ∧ r.IsDone := by
  induction h with
  | start => exact ⟨.start, rfl, fun job hjob => nomatch hjob⟩
  | next _ task hrun hdone ih =>
    obtain ⟨hcourse, hopen, -⟩ := ih
    exact ⟨(hcourse.submit task hopen).run hrun, hrun.isClosed_eq.trans hopen, hdone⟩

theorem exists_oneByOne (w : ω) (targets : Nat → τ) (tasks : List (Task ω τ)) :
    ∃ r, OneByOne (fresh none w targets) tasks r := by
  induction tasks using List.reverseRecOn with
  | nil => exact ⟨_, .start⟩
  | append_singleton tasks task ih =>
    obtain ⟨r, h⟩ := ih
    obtain ⟨hcourse, hopen, -⟩ := h.course
    obtain ⟨log, hreached⟩ := (hcourse.submit task hopen).reached
    obtain ⟨s, -, hrun, -, hdone⟩ := hreached.exists_run_finished
    exact ⟨s, h.next task hrun hdone⟩

/-! ### The single worker takes tasks in turn -/

/-- Who is not waiting any more comes after tasks that are finished. -/
def InTurn (r : Runner ω τ) : Prop :=
  ∀ j job, r.jobs[j]? = some job → job.phase.isWaiting = false → r.FinishedBefore j

/-- The single worker is at a task only when those before are finished. -/
theorem Step.finishedBefore_task (h : Step r entry s) (hr : r.InTurn) (hn : r.workers = some n)
    (hone : n ≤ 1) : r.FinishedBefore entry.task := by
  cases h with
  | @pickUp i task hi hfree =>
    -- The worker is not busy, and no task before this one is waiting for it.
    rw [canPickUp, hn, decide_eq_true_eq] at hfree
    have hbusy : r.jobs.countP (fun job => job.phase.isBusy) = 0 := by omega
    have hwaiting : (r.jobs.take i).countP (fun job => job.phase.isWaiting) = 0 := by omega
    intro j hj job hjob
    have hidle := List.countP_eq_zero.1 hbusy job (List.mem_of_getElem? hjob)
    have htaken := List.countP_eq_zero.1 hwaiting job
      (List.mem_of_getElem? ((List.getElem?_take_of_lt hj).trans hjob))
    obtain ⟨task, phase⟩ := job
    cases phase with
    | waiting => exact absurd rfl htaken
    | finished last => rfl
    | _ => exact absurd rfl hidle
  | lock hi => exact hr _ _ hi rfl
  | advance hi => exact hr _ _ hi rfl
  | stop hi => exact hr _ _ hi rfl
  | report hi => exact hr _ _ hi rfl
  | finish hi => exact hr _ _ hi rfl

theorem Step.inTurn (h : Step r entry s) (hr : r.InTurn) (hbefore : r.FinishedBefore entry.task) :
    s.InTurn := by
  obtain ⟨task, phase, phase', hjob, -, -, hjobs⟩ := h.job
  intro j job hj hphase
  by_cases heq : entry.task = j
  · exact heq ▸ h.finishedBefore hbefore
  · rw [hjobs, List.getElem?_set_ne heq] at hj
    exact h.finishedBefore (hr j job hj hphase)

theorem InTurn.submit (hr : r.InTurn) (task : Task ω τ) : (r.submit task).InTurn := by
  intro j job hj hphase
  -- The new task is waiting, so that it is an older one which is not.
  have hlt : j < r.jobs.length := by
    refine Nat.lt_of_not_le fun hle => ?_
    rw [Runner.submit, List.getElem?_append_right hle] at hj
    obtain rfl := List.mem_singleton.1 (List.mem_of_getElem? hj)
    cases hphase
  rw [getElem?_submit_of_lt hlt] at hj
  exact (hr j job hj hphase).submit hlt.le task

/-- **The single worker takes tasks in turn**, and what will come of them is what comes of them when
they are carried out undivided. -/
theorem Course.inTurn (h : Course (fresh (some workers) w targets) tasks r) (hone : workers ≤ 1) :
    r.workers = some workers ∧ r.InTurn ∧
      r.outlook.unpooled = tasks.foldl carryOut (fresh none w targets) := by
  induction h with
  | start => exact ⟨rfl, fun j job hj => (nomatch hj), rfl⟩
  | @submit tasks r _ task _ ih =>
    obtain ⟨hworkers, hturn, houtlook⟩ := ih
    refine ⟨hworkers, hturn.submit task, ?_⟩
    rw [outlook_submit, ← carryOut_unpooled, houtlook, List.foldl_append]
    rfl
  | @move tasks r s _ move hmove ih =>
    obtain ⟨hworkers, hturn, houtlook⟩ := ih
    obtain ⟨entry, hstep⟩ | ⟨-, rfl⟩ := exists_move?_iff.1 ⟨move, hmove⟩
    · have hbefore := hstep.finishedBefore_task hturn hworkers hone
      refine ⟨hstep.pool_eq.1.trans hworkers, hstep.inTurn hturn hbefore, ?_⟩
      rw [hstep.outlook_eq hbefore, houtlook]
    · have hleave := outlook_congr (r := { r with gone := r.gone + 1 }) (s := r) rfl
      exact ⟨hworkers, hturn, hleave.trans houtlook⟩
  | @close tasks r _ ih =>
    obtain ⟨hworkers, hturn, houtlook⟩ := ih
    exact ⟨hworkers, hturn, (outlook_congr (r := r.close) (s := r) rfl).trans houtlook⟩

/-! ### Without a pool, one task at a time -/

theorem OneByOne.unpooled_eq (h : OneByOne (fresh none w targets) tasks r) :
    r.unpooled = tasks.foldl carryOut (fresh none w targets) := by
  induction h with
  | start => rfl
  | @next tasks r s h task hrun hdone ih =>
    rw [hrun.eq_carryOut h.course.2.2 hdone, ← carryOut_unpooled, ih, List.foldl_append]
    rfl

/-- **A pool of one worker is sequential execution.**  Whatever tasks are submitted to a pool of one
worker, which is also what a pool without workers has, and however its moves come between the
submissions:

* its worker does not go on for ever, and all tasks can be brought to their ends; so they can when a runner
  without a pool is given one task at a time;
* once all tasks are finished, they have ended in **the same states**, the targets and the surroundings
  are the same, and the same calls of callbacks have been made in the same order, with the same outcomes
  and the same values of the targets, as when **a runner without a pool is given one task at a time**. -/
theorem one_worker_is_sequential (hone : workers ≤ 1) (w : ω) (targets : Nat → τ)
    (tasks : List (Task ω τ)) :
    (∃ p, Course (fresh (some workers) w targets) tasks p) ∧
    (∀ p, Course (fresh (some workers) w targets) tasks p →
      Acc (fun s r : Runner ω τ => ∃ entry, Step r entry s) p ∧ ∃ s, Run p s ∧ s.IsDone) ∧
    (∃ q, OneByOne (fresh none w targets) tasks q) ∧
    ∀ p q, Course (fresh (some workers) w targets) tasks p → p.IsDone →
      OneByOne (fresh none w targets) tasks q →
        p.states = q.states ∧ p.targets = q.targets ∧ p.events = q.events ∧
          p.surroundings = q.surroundings := by
  refine ⟨⟨_, Course.start.submitAll rfl tasks⟩, fun p hp => ?_, exists_oneByOne w targets tasks,
    fun p q hp hdone hq => ?_⟩
  · obtain ⟨log, hreached⟩ := hp.reached
    obtain ⟨s, -, hrun, -, hdone⟩ := hreached.exists_run_finished
    exact ⟨wellFounded_step.apply p, s, hrun, hdone⟩
  · refine eq_of_unpooled_eq ?_
    rw [hq.unpooled_eq, ← (hp.inTurn hone).2.2, hdone.outlook_eq]

/-- Two tasks on one target, of which the first breaks off after it has added one and the second, which
has a callback that breaks off, fails after it has doubled the target; and a job without a callback, on
a target of its own. -/
def mixedTasks : List (Task Unit Nat) :=
  [{ target := 0, action := .step (fun w t => (w, t + 1)) fun _ _ => .finish .panicked,
     callback := some .returns },
   { target := 0,
     action := .step (fun w t => (w, 2 * t)) fun _ _ => .finish (.failed .missingObjectId),
     callback := some .panics },
   { target := 1, action := .step (fun w t => (w, t)) fun _ _ => .finish .completed }]

theorem one_worker_is_sequential_mixedTasks :
    let p := runAll (fresh (some 0) () fun _ => 20) mixedTasks
    p.states = [.failed "task panicked", .failed "task panicked", .completed] ∧
      Course (fresh (some 0) () fun _ => 20) mixedTasks p ∧ p.IsDone ∧
      ∃ q, OneByOne (fresh none () fun _ => 20) mixedTasks q ∧
        q.targets 0 = 42 ∧ q.events.map Event.seen = [42] ∧ q.states = p.states := by
  have hsubmitted : Course (fresh (some 0) () fun _ => 20) mixedTasks _ :=
    Course.start.submitAll rfl mixedTasks
  have hcourse := ((hsubmitted.run (run_complete _ 0)).run (run_complete _ 1)).run (run_complete _ 2)
  have hall : (runAll (fresh (some 0) () fun _ => 20) mixedTasks).jobs.all
      (fun job => job.phase.isFinished) = true := rfl
  have hdone : (runAll (fresh (some 0) () fun _ => 20) mixedTasks).IsDone := List.all_eq_true.1 hall
  obtain ⟨-, -, ⟨q, hq⟩, hsame⟩ :=
    one_worker_is_sequential (Nat.zero_le 1) () (fun _ => 20) mixedTasks
  obtain ⟨hstates, htargets, hevents, -⟩ := hsame _ q hcourse hdone hq
  exact ⟨rfl, hcourse, hdone, q, hq, congrFun htargets.symm 0,
    (congrArg (List.map Event.seen) hevents).symm, hstates.symm⟩

end Runner

end DocStore
