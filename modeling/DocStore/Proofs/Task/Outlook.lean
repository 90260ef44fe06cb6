import DocStore.Proofs.Task.Progress

/-!
# Where the tasks of a runner lead

The outlook of a runner is what it will be when all its tasks have been taken to their ends, one after
another in the order in which they were submitted and each undivided (`Runner.outlook`).  What has been
done of a task and what is still to come of it make up the same whole at each of its steps, so that

* `Runner.Step.outlook_eq` : a step of a worker leaves the outlook as it is, **if the tasks before that one
  are finished**;
* `Runner.outlook_submit` : a new task is carried out after all that is to come
  (`Runner.carryOut`);
* `Runner.Run.eq_carryOut` : a task that is submitted when all others are finished ends as if it had been
  carried out undivided, whatever moves its workers make on the way.
-/

namespace DocStore

variable {ω τ : Type}

namespace Runner

/-! ### Taking a task to its end -/

/-- The runner when a task that has come to an ending is finished. -/
def settleEnding (r : Runner ω τ) (i : Nat) (task : Task ω τ) (ending : Ending) : Runner ω τ :=
  { r.setPhase i (.finished (lastState task ending)) with
    events := r.events ++ r.eventOf i task ending }

/-- The runner when a task of whose action only a rest is to come is finished, the rest undivided. -/
def settleAction (r : Runner ω τ) (i : Nat) (task : Task ω τ) (rest : Action ω τ) : Runner ω τ :=
  match rest.run r.surroundings (r.targets task.target) with
  | (ending, w, t) => (r.setTarget task.target w t).settleEnding i task ending

/-- The runner when a task is finished, and nothing has happened but what was still to come of it. -/
def settleJob (r : Runner ω τ) (i : Nat) (job : Job ω τ) : Runner ω τ :=
  match job.phase with
  | .waiting | .pickedUp => r.settleAction i job.task job.task.action
  | .acting rest => r.settleAction i job.task rest
  | .acted ending => r.settleEnding i job.task ending
  | .reported last => r.setPhase i (.finished last)
  | .finished _ => r

/-- The runner when the task at a place is finished, if there is one. -/
def settle (r : Runner ω τ) (i : Nat) : Runner ω τ := (r.jobs[i]?).elim r (r.settleJob i)

/-- The runner when all its tasks are finished in their order. -/
def outlook (r : Runner ω τ) : Runner ω τ := (List.range r.jobs.length).foldl settle r

/-- Submit a task and take it to its end undivided. -/
def carryOut (r : Runner ω τ) (task : Task ω τ) : Runner ω τ :=
  (r.submit task).settle r.jobs.length

variable {r s : Runner ω τ} {entry : Entry ω τ} {i : Nat} {task : Task ω τ} {phase : Phase ω τ}
  {rest : Action ω τ}

@[simp] theorem setPhase_setPhase (r : Runner ω τ) (i : Nat) (phase phase' : Phase ω τ) :
    (r.setPhase i phase).setPhase i phase' = r.setPhase i phase' := by
  simp [setPhase, List.modify_modify_eq, Function.comp_def]

@[simp] theorem setTarget_setTarget (r : Runner ω τ) (k : Nat) (w w' : ω) (t t' : τ) :
    (r.setTarget k w t).setTarget k w' t' = r.setTarget k w' t' := by
  simp only [setTarget]
  congr 1
  funext j
  split <;> rfl

@[simp] theorem setTarget_self (r : Runner ω τ) (k : Nat) :
    r.setTarget k r.surroundings (r.targets k) = r := by
  have htargets : (fun j => if j = k then r.targets k else r.targets j) = r.targets := by
    funext j
    split
    · rename_i h
      rw [h]
    · rfl
  simp only [setTarget, htargets]

@[simp] theorem targets_setTarget_self (r : Runner ω τ) (k : Nat) (w : ω) (t : τ) :
    (r.setTarget k w t).targets k = t := if_pos rfl

theorem settleEnding_setPhase (r : Runner ω τ) (i : Nat) (phase : Phase ω τ) (task : Task ω τ)
    (ending : Ending) : (r.setPhase i phase).settleEnding i task ending = r.settleEnding i task ending := by
  simp only [settleEnding, setPhase_setPhase]
  rfl

theorem settleAction_setPhase (r : Runner ω τ) (i : Nat) (phase : Phase ω τ) (task : Task ω τ)
    (rest : Action ω τ) : (r.setPhase i phase).settleAction i task rest = r.settleAction i task rest := by
  have hcommute : ∀ w t, (r.setPhase i phase).setTarget task.target w t =
      (r.setTarget task.target w t).setPhase i phase := fun _ _ => rfl
  simp only [settleAction, hcommute, settleEnding_setPhase]
  rfl

theorem settleAction_finish (r : Runner ω τ) (i : Nat) (task : Task ω τ) (ending : Ending) :
    r.settleAction i task (.finish ending) = r.settleEnding i task ending := by
  simp only [settleAction, Action.run, setTarget_self]

/-- Of an action that is underway, what has been done and what is to come make up the same whole. -/
theorem settleAction_step (r : Runner ω τ) (i : Nat) (task : Task ω τ) (change : ω → τ → ω × τ)
    (next : ω → τ → Action ω τ) :
    r.settleAction i task (.step change next) =
      (r.setTarget task.target (change r.surroundings (r.targets task.target)).1
        (change r.surroundings (r.targets task.target)).2).settleAction i task
          (next r.surroundings (r.targets task.target)) := by
  simp only [settleAction, Action.run, targets_setTarget_self, setTarget_setTarget]
  rfl

theorem settle_of_none (h : r.jobs[i]? = none) : r.settle i = r := by
  rw [settle, h]
  rfl

theorem settle_of_job {job : Job ω τ} (h : r.jobs[i]? = some job) :
    r.settle i = r.settleJob i job := by
  rw [settle, h]
  rfl

theorem getElem?_setPhase (h : r.jobs[i]? = some ⟨task, phase⟩) (phase' : Phase ω τ) :
    (r.setPhase i phase').jobs[i]? = some ⟨task, phase'⟩ := by
  rw [jobs_setPhase h, List.getElem?_set_self (List.getElem?_eq_some_iff.1 h).1]

/-- **A step of a task leaves its end as it is.** -/
theorem Step.settle_eq (h : Step r entry s) : s.settle entry.task = r.settle entry.task := by
  cases h with
  | @pickUp i task hi hfree =>
    rw [settle_of_job hi, settle_of_job (getElem?_setPhase hi _)]
    exact settleAction_setPhase ..
  | @lock i task hi hfree =>
    rw [settle_of_job hi, settle_of_job (getElem?_setPhase hi _)]
    exact settleAction_setPhase ..
  | @advance i task change next hi =>
    rw [settle_of_job hi]
    refine (settle_of_job (getElem?_setPhase (r := r.setTarget ..) hi _)).trans ?_
    exact (settleAction_setPhase ..).trans (settleAction_step ..).symm
  | @stop i task ending hi =>
    rw [settle_of_job hi, settle_of_job (getElem?_setPhase hi _)]
    exact (settleEnding_setPhase ..).trans (settleAction_finish ..).symm
  | @report i task ending hi hfree =>
    rw [settle_of_job hi]
    refine (settle_of_job (r := { r.setPhase i _ with events := r.events ++ _ })
      (getElem?_setPhase hi _)).trans ?_
    exact congrArg (fun t : Runner ω τ => { t with events := r.events ++ r.eventOf i task ending })
      (setPhase_setPhase r i (.reported (lastState task ending)) _)
  | @finish i task last hi =>
    rw [settle_of_job hi, settle_of_job (getElem?_setPhase hi _)]
    rfl

/-! ### Tasks that are finished -/

/-- All tasks before a place are finished. -/
def FinishedBefore (r : Runner ω τ) (n : Nat) : Prop :=
  ∀ j < n, ∀ job, r.jobs[j]? = some job → job.phase.isFinished = true

/-- All tasks are finished. -/
def IsDone (r : Runner ω τ) : Prop := ∀ job ∈ r.jobs, job.phase.isFinished = true

theorem finishedBefore_length_iff : r.FinishedBefore r.jobs.length ↔ r.IsDone := by
  constructor
  · intro h job hjob
    obtain ⟨j, hj⟩ := List.getElem?_of_mem hjob
    exact h j (List.getElem?_eq_some_iff.1 hj).1 job hj
  · exact fun h _ _ _ hjob => h _ (List.mem_of_getElem? hjob)

/-- What is finished stays as it is, so that a step is always at a task that is not. -/
theorem Step.le_of_finishedBefore {n : Nat} (h : Step r entry s) (hr : r.FinishedBefore n) :
    n ≤ entry.task := by
  obtain ⟨task, phase, phase', hjob, -, hstep, -⟩ := h.job
  refine Nat.le_of_not_lt fun hlt => ?_
  exact Bool.false_ne_true (hstep.isFinished_eq_false.symm.trans (hr _ hlt _ hjob))

theorem Step.finishedBefore {n : Nat} (h : Step r entry s) (hr : r.FinishedBefore n) :
    s.FinishedBefore n := by
  obtain ⟨task, phase, phase', -, -, -, hjobs⟩ := h.job
  intro j hj job hs
  rw [hjobs, List.getElem?_set_ne (Nat.ne_of_gt (hj.trans_le (h.le_of_finishedBefore hr)))] at hs
  exact hr j hj job hs

theorem Step.length_jobs (h : Step r entry s) : s.jobs.length = r.jobs.length := by
  obtain ⟨task, phase, phase', -, -, -, hjobs⟩ := h.job
  rw [hjobs, List.length_set]

theorem settle_of_finished (h : ∀ job, r.jobs[i]? = some job → job.phase.isFinished = true) :
    r.settle i = r := by
  cases hi : r.jobs[i]? with
  | none => exact settle_of_none hi
  | some job =>
    obtain ⟨task, phase⟩ := job
    rw [settle_of_job hi]
    cases phase with
    | finished last => rfl
    | _ => cases h _ hi

/-- Finished tasks have nothing to come. -/
theorem FinishedBefore.foldl_settle {n : Nat} (h : r.FinishedBefore n) :
    (List.range n).foldl settle r = r := by
  induction n with
  | zero => rfl
  | succ n ih =>
    rw [List.range_succ, List.foldl_append, ih fun j hj => h j (Nat.lt_succ_of_lt hj)]
    exact settle_of_finished (h n (Nat.lt_succ_self n))

/-- When all tasks are finished, the outlook has come true. -/
theorem IsDone.outlook_eq (h : r.IsDone) : r.outlook = r :=
  (finishedBefore_length_iff.2 h).foldl_settle

/-! ### All tasks in their order -/

/-- **A step of a worker leaves the outlook as it is** if the tasks before that one are finished. -/
theorem Step.outlook_eq (h : Step r entry s) (hbefore : r.FinishedBefore entry.task) :
    s.outlook = r.outlook := by
  obtain ⟨task, phase, phase', hjob, -, -, -⟩ := h.job
  have hlt := (List.getElem?_eq_some_iff.1 hjob).1
  -- Nothing is to come of the tasks before, and after this one the two runners are the same.
  obtain ⟨m, hm⟩ := Nat.exists_eq_add_of_lt hlt
  have hrange : List.range r.jobs.length =
      List.range entry.task ++ entry.task :: List.range' (entry.task + 1) m := by
    rw [hm, List.range_eq_range', List.range_eq_range', Nat.add_assoc, ← List.range'_append_1,
      List.range'_succ, Nat.zero_add]
  rw [outlook, outlook, h.length_jobs, hrange, List.foldl_append, List.foldl_append,
    hbefore.foldl_settle, (h.finishedBefore hbefore).foldl_settle, List.foldl_cons, List.foldl_cons,
    h.settle_eq]

theorem length_jobs_settle (r : Runner ω τ) (i : Nat) : (r.settle i).jobs.length = r.jobs.length := by
  cases hi : r.jobs[i]? with
  | none => rw [settle_of_none hi]
  | some job =>
    obtain ⟨task, phase⟩ := job
    rw [settle_of_job hi]
    cases phase with
    | finished last => rfl
    | _ => exact List.length_modify ..

/-! ### A new task -/

theorem getElem?_submit_of_lt (hi : i < r.jobs.length) (task : Task ω τ) :
    (r.submit task).jobs[i]? = r.jobs[i]? :=
  List.getElem?_append_left hi

theorem getElem?_submit_length (r : Runner ω τ) (task : Task ω τ) :
    (r.submit task).jobs[r.jobs.length]? = some ⟨task, .waiting⟩ :=
  List.getElem?_concat_length ..

theorem FinishedBefore.submit {n : Nat} (h : r.FinishedBefore n) (hn : n ≤ r.jobs.length)
    (task : Task ω τ) : (r.submit task).FinishedBefore n := by
  intro j hj job hjob
  rw [getElem?_submit_of_lt (hj.trans_le hn)] at hjob
  exact h j hj job hjob

theorem setPhase_submit (hi : i < r.jobs.length) (task : Task ω τ) (phase : Phase ω τ) :
    (r.submit task).setPhase i phase = (r.setPhase i phase).submit task := by
  have hjob := List.getElem?_eq_getElem hi
  have hjob' := (getElem?_submit_of_lt hi task).trans hjob
  have hjobs : ((r.submit task).setPhase i phase).jobs =
      (r.setPhase i phase).jobs ++ [⟨task, .waiting⟩] := by
    rw [jobs_setPhase hjob, jobs_setPhase hjob', Runner.submit, List.set_append_left _ _ hi]
  exact congrArg (fun jobs => { r with jobs }) hjobs

/-- What is to come of a task does not depend on the tasks that are submitted after it. -/
theorem settle_submit (hi : i < r.jobs.length) (task : Task ω τ) :
    (r.submit task).settle i = (r.settle i).submit task := by
  have hjob := List.getElem?_eq_getElem hi
  have hending : ∀ (r' : Runner ω τ) (own : Task ω τ) (ending : Ending), r'.jobs = r.jobs →
      (r'.submit task).settleEnding i own ending = (r'.settleEnding i own ending).submit task := by
    intro r' own ending hjobs
    rw [settleEnding, setPhase_submit (hjobs ▸ hi)]
    rfl
  rw [settle_of_job hjob, settle_of_job ((getElem?_submit_of_lt hi task).trans hjob)]
  obtain ⟨own, phase⟩ := r.jobs[i]
  cases phase with
  | waiting | pickedUp | acting rest => exact hending (r.setTarget ..) own _ rfl
  | acted ending => exact hending r own ending rfl
  | reported last => exact setPhase_submit hi task _
  | finished last => rfl

/-- **A new task is carried out after all that is to come.** -/
theorem outlook_submit (r : Runner ω τ) (task : Task ω τ) :
    (r.submit task).outlook = r.outlook.carryOut task := by
  have hfold : ∀ n ≤ r.jobs.length, (List.range n).foldl settle (r.submit task) =
        ((List.range n).foldl settle r).submit task ∧
      ((List.range n).foldl settle r).jobs.length = r.jobs.length := by
    intro n hn
    induction n with
    | zero => exact ⟨rfl, rfl⟩
    | succ n ih =>
      obtain ⟨hsubmit, hlength⟩ := ih (Nat.le_of_succ_le hn)
      rw [List.range_succ, List.foldl_append, List.foldl_append, hsubmit]
      exact ⟨settle_submit (hlength.symm ▸ hn) task, (length_jobs_settle _ n).trans hlength⟩
  obtain ⟨hsubmit, hlength⟩ := hfold _ le_rfl
  have hlength' : (r.submit task).jobs.length = r.jobs.length + 1 := List.length_append
  rw [outlook, hlength', List.range_succ, List.foldl_append, hsubmit, carryOut, outlook, hlength]
  rfl

theorem setPhase_submit_length (r : Runner ω τ) (task : Task ω τ) (phase : Phase ω τ) :
    (r.submit task).setPhase r.jobs.length phase = { r with jobs := r.jobs ++ [⟨task, phase⟩] } := by
  have hjobs : ((r.submit task).setPhase r.jobs.length phase).jobs = r.jobs ++ [⟨task, phase⟩] := by
    rw [jobs_setPhase (getElem?_submit_length r task), submit, List.set_append_right _ _ le_rfl,
      Nat.sub_self]
    rfl
  exact congrArg (fun jobs => { r with jobs }) hjobs

/-- What a task leaves that is carried out: its action, undivided, and the call of its callback. -/
theorem carryOut_eq {ending : Ending} {w : ω} {t : τ}
    (h : task.action.run r.surroundings (r.targets task.target) = (ending, w, t)) :
    r.carryOut task = { r.setTarget task.target w t with
      jobs := r.jobs ++ [⟨task, .finished (lastState task ending)⟩]
      events := r.events ++ (r.setTarget task.target w t).eventOf r.jobs.length task ending } := by
  have hrun : task.action.run (r.submit task).surroundings ((r.submit task).targets task.target) =
      (ending, w, t) := h
  rw [carryOut, settle_of_job (getElem?_submit_length r task), settleJob, settleAction, hrun]
  have hphase := setPhase_submit_length (r.setTarget task.target w t) task
    (.finished (lastState task ending))
  exact congrArg (fun s : Runner ω τ => { s with
    events := r.events ++ (r.setTarget task.target w t).eventOf r.jobs.length task ending }) hphase

/-! ### Without the pool -/

/-- The tasks, targets and calls of a runner, whatever workers it has. -/
def unpooled (r : Runner ω τ) : Runner ω τ := { r with workers := none, isClosed := false, gone := 0 }

/-- All that can be seen of the tasks does not show the workers. -/
theorem eq_of_unpooled_eq (h : r.unpooled = s.unpooled) :
    r.states = s.states ∧ r.targets = s.targets ∧ r.events = s.events ∧
      r.surroundings = s.surroundings := by
  have hsame : ∀ {α : Type} (see : Runner ω τ → α), see r.unpooled = see s.unpooled :=
    fun see => congrArg see h
  exact ⟨hsame states, hsame targets, hsame events, hsame surroundings⟩

theorem settle_unpooled (r : Runner ω τ) (i : Nat) : r.unpooled.settle i = (r.settle i).unpooled := by
  cases hi : r.jobs[i]? with
  | none => rw [settle_of_none hi, settle_of_none (r := r.unpooled) hi]
  | some job =>
    rw [settle_of_job hi, settle_of_job (r := r.unpooled) hi]
    obtain ⟨task, phase⟩ := job
    cases phase <;> rfl

theorem carryOut_unpooled (r : Runner ω τ) (task : Task ω τ) :
    r.unpooled.carryOut task = (r.carryOut task).unpooled :=
  settle_unpooled (r.submit task) r.jobs.length

theorem outlook_unpooled (r : Runner ω τ) : r.unpooled.outlook = r.outlook.unpooled := by
  have hfold : ∀ (places : List Nat) (r : Runner ω τ),
      places.foldl settle r.unpooled = (places.foldl settle r).unpooled := by
    intro places
    induction places with
    | nil => exact fun _ => rfl
    | cons i places ih =>
      intro r
      rw [List.foldl_cons, List.foldl_cons, settle_unpooled, ih]
  exact hfold _ r

/-- What is to come of the tasks does not depend on the workers. -/
theorem outlook_congr (h : r.unpooled = s.unpooled) : r.outlook.unpooled = s.outlook.unpooled := by
  rw [← outlook_unpooled, ← outlook_unpooled, h]

/-- When all tasks but the last are finished, a run leaves the outlook as it is. -/
theorem Run.outlook_eq (h : Run r s) {n : Nat} (hr : r.FinishedBefore n)
    (hlength : r.jobs.length = n + 1) : s.outlook.unpooled = r.outlook.unpooled := by
  suffices hcourse : s.outlook.unpooled = r.outlook.unpooled ∧ s.FinishedBefore n ∧
      s.jobs.length = n + 1 from hcourse.1
  induction h with
  | refl => exact ⟨rfl, hr, hlength⟩
  | @tail t u move _ hmove ih =>
    obtain ⟨houtlook, hbefore, hlength'⟩ := ih
    obtain ⟨entry, hstep⟩ | ⟨-, rfl⟩ := exists_move?_iff.1 ⟨move, hmove⟩
    · -- Only the last task can take a step.
      have hlast : entry.task = n := by
        obtain ⟨task, phase, phase', hjob, -, -, -⟩ := hstep.job
        have hlt := (List.getElem?_eq_some_iff.1 hjob).1
        have hle := hstep.le_of_finishedBefore hbefore
        omega
      rw [hstep.outlook_eq (hlast ▸ hbefore), houtlook]
      exact ⟨rfl, hstep.finishedBefore hbefore, hstep.length_jobs.trans hlength'⟩
    · have hleave := outlook_congr (r := { t with gone := t.gone + 1 }) (s := t) rfl
      exact ⟨hleave.trans houtlook, hbefore, hlength'⟩

/-- **A task that is submitted when all others are finished** ends as if it had been carried out
undivided, whatever moves the workers make on the way. -/
theorem Run.eq_carryOut (hr : r.IsDone) (h : Run (r.submit task) s) (hs : s.IsDone) :
    s.unpooled = (r.carryOut task).unpooled := by
  have hsubmit := (finishedBefore_length_iff.2 hr).submit le_rfl task
  rw [← hs.outlook_eq, h.outlook_eq hsubmit List.length_append, outlook_submit, hr.outlook_eq]

end Runner

end DocStore
