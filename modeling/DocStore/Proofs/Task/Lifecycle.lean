import DocStore.Proofs.Task.Log

/-!
# The life of a background task

Whatever else goes on in a runner, a task is picked up once, its action is taken from its beginning to
its ending, its callback is called if there is something to report, and then the task is finished.

* `Task.Life.of_acting` and the lemmas after it : what a task has shown when it is in a given phase;
* `Task.Settled` : what an ending means for the callback and for the state that a task ends in;
* `Runner.state_next` : the state of a task only moves from idle to running and from there to one last
  state;
* `Runner.task_contract` : all of this, **for every task and any course of events**.

An ending is the action's own: it is where the action leads with what its steps found
(`Action.after`), not merely some ending.
-/

namespace DocStore

variable {ω τ : Type}

/-- The state of a task can change in these ways. -/
inductive TaskState.Next : TaskState → TaskState → Prop
  | pickedUp : Next .idle .running
  | finished {last : TaskState} (h : last.isFinished = true) : Next .running last

theorem TaskState.not_next_of_isFinished {state state' : TaskState} (h : state.isFinished = true) :
    ¬ state.Next state' := by
  rintro ⟨⟩ <;> cases h

/-- What is still to come of an action after steps that found these surroundings and targets. -/
def Action.after : Action ω τ → List (ω × τ) → Option (Action ω τ)
  | action, [] => some action
  | .step _ next, (w, t) :: found => (next w t).after found
  | .finish _, _ :: _ => none

@[simp] theorem Action.after_nil (action : Action ω τ) : action.after [] = some action := by
  cases action <;> rfl

theorem Action.after_concat {action : Action ω τ} {found : List (ω × τ)}
    {change : ω → τ → ω × τ} {next : ω → τ → Action ω τ}
    (h : action.after found = some (.step change next)) (w : ω) (t : τ) :
    action.after (found ++ [(w, t)]) = some (next w t) := by
  induction found generalizing action with
  | nil =>
    obtain rfl : action = .step change next := by simpa using h
    simp [after]
  | cons pair found ih =>
    cases action with
    | finish ending => simp [after] at h
    | step change' next' => exact ih h

namespace Task

variable {task : Task ω τ} {marks : List (Mark ω τ)} {phase phase' : Phase ω τ} {mark : Mark ω τ}
  {rest : Action ω τ} {ending : Ending} {last : TaskState}

/-! ### What a task has shown when it is in a given phase -/

/-- What a task shows up to and including the steps of its action. -/
def underway (found : List (ω × τ)) : List (Mark ω τ) :=
  .pickedUp :: .locked :: found.map fun pair => .advanced pair.1 pair.2

/-- What a task shows before it is finished. -/
def story (found : List (ω × τ)) (ending : Ending) (calls : List (Event τ)) : List (Mark ω τ) :=
  underway found ++ [.ended ending, .reported calls]

theorem flatMap_calls_underway (found : List (ω × τ)) :
    (underway found).flatMap Mark.calls = [] := by
  simp [underway, Mark.calls, List.flatMap_map]

theorem flatMap_calls_story (found : List (ω × τ)) (ending : Ending) (calls : List (Event τ)) :
    (story found ending calls).flatMap Mark.calls = calls := by
  rw [story, List.flatMap_append, flatMap_calls_underway]
  simp [Mark.calls]

theorem Life.of_waiting (h : task.Life marks .waiting) : marks = [] := by
  cases h with
  | submitted => rfl
  | next _ hstep => cases hstep

theorem Life.of_pickedUp (h : task.Life marks .pickedUp) : marks = [.pickedUp] := by
  cases h with
  | next h hstep =>
    cases hstep with
    | pickUp => rw [h.of_waiting, List.nil_append]

theorem Life.of_acting (h : task.Life marks (.acting rest)) :
    ∃ found, task.action.after found = some rest ∧ marks = underway found := by
  generalize hphase : Phase.acting rest = phase at h
  -- Along the life, because an action comes to each of its steps from the one before.
  induction h generalizing rest with
  | submitted => cases hphase
  | next h hstep ih =>
    subst hphase
    cases hstep with
    | lock => exact ⟨[], task.action.after_nil, by rw [h.of_pickedUp]; rfl⟩
    | advance change next w t =>
      obtain ⟨found, hafter, rfl⟩ := ih rfl
      exact ⟨found ++ [(w, t)], Action.after_concat hafter w t, by simp [underway]⟩

theorem Life.of_acted (h : task.Life marks (.acted ending)) :
    ∃ found, task.action.after found = some (.finish ending) ∧
      marks = underway found ++ [.ended ending] := by
  cases h with
  | next h hstep =>
    cases hstep with
    | stop =>
      obtain ⟨found, hafter, rfl⟩ := h.of_acting
      exact ⟨found, hafter, rfl⟩

theorem Life.of_reported (h : task.Life marks (.reported last)) :
    ∃ found ending calls, task.action.after found = some (.finish ending) ∧
      calls.map Event.outcome = task.reports ending ∧ last = Runner.lastState task ending ∧
      marks = story found ending calls := by
  cases h with
  | next h hstep =>
    cases hstep with
    | report hcalls =>
      obtain ⟨found, hafter, rfl⟩ := h.of_acted
      exact ⟨found, _, _, hafter, hcalls, rfl, by simp [story]⟩

theorem Life.of_finished (h : task.Life marks (.finished last)) :
    ∃ found ending calls, task.action.after found = some (.finish ending) ∧
      calls.map Event.outcome = task.reports ending ∧ last = Runner.lastState task ending ∧
      marks = story found ending calls ++ [.finished last] := by
  cases h with
  | next h hstep =>
    cases hstep with
    | finish =>
      obtain ⟨found, ending, calls, hafter, hcalls, hlast, rfl⟩ := h.of_reported
      exact ⟨found, ending, calls, hafter, hcalls, hlast, rfl⟩

/-! ### The last state and the callback -/

/-- How a task is settled after an ending: the calls of its callback and its last state. -/
structure Settled (task : Task ω τ) (ending : Ending) (calls : List (Event τ)) (last : TaskState) :
    Prop where
  called : task.callback.isSome = true → ∀ outcome, ending.outcome? = some outcome →
    calls.map Event.outcome = [outcome]
  not_called : task.callback = none ∨ ending = .panicked → calls = []
  completed : ending = .completed → task.callback ≠ some .panics → last = .completed
  failed : ∀ e, ending = .failed e → task.callback ≠ some .panics → last = .failed e.message
  panicked : ending = .panicked ∨ task.callback = some .panics → last = .failed "task panicked"

theorem settled {calls : List (Event τ)} (h : calls.map Event.outcome = task.reports ending) :
    task.Settled ending calls (Runner.lastState task ending) := by
  obtain ⟨target, action, callback, looks⟩ := task
  refine ⟨fun hsome outcome houtcome => ?_, fun hnone => ?_, fun hend hcallback => ?_,
    fun e hend hcallback => ?_, fun hpanicked => ?_⟩
  · obtain ⟨callback, rfl⟩ := Option.isSome_iff_exists.1 hsome
    simpa [reports, houtcome] using h
  · obtain rfl | rfl := hnone
    · exact List.map_eq_nil_iff.1 h
    · cases callback <;> exact List.map_eq_nil_iff.1 h
  · subst hend
    obtain _ | _ | _ := callback
    exacts [rfl, rfl, absurd rfl hcallback]
  · subst hend
    obtain _ | _ | _ := callback
    exacts [rfl, rfl, absurd rfl hcallback]
  · obtain rfl | rfl := hpanicked
    · cases callback <;> rfl
    · cases ending <;> rfl

theorem Settled.length_calls_le {calls : List (Event τ)} (h : task.Settled ending calls last) :
    calls.length ≤ 1 := by
  cases hcallback : task.callback with
  | none => simp [h.not_called (.inl hcallback)]
  | some callback =>
    have hcalled := h.called (by simp [hcallback])
    cases houtcome : ending.outcome? with
    | some outcome =>
      have hlength := congrArg List.length (hcalled outcome houtcome)
      rw [List.length_map] at hlength
      exact Nat.le_of_eq hlength
    | none =>
      have hpanicked : ending = .panicked := by
        cases ending with
        | panicked => rfl
        | _ => cases houtcome
      simp [h.not_called (.inr hpanicked)]

theorem isFinished_lastState (task : Task ω τ) (ending : Ending) :
    (Runner.lastState task ending).isFinished = true := by
  unfold Runner.lastState
  cases ending <;> split <;> rfl

/-! ### The state of a task -/

theorem Life.isFinished_of_reported (h : task.Life marks (.reported last)) :
    last.isFinished = true := by
  obtain ⟨found, ending, calls, -, -, rfl, -⟩ := h.of_reported
  exact isFinished_lastState task ending

/-- A step leaves the state of a task or moves it on. -/
theorem Life.state_step (h : task.Life marks phase) (hstep : task.Step phase mark phase') :
    phase'.state = phase.state ∨ phase.state.Next phase'.state := by
  cases hstep with
  | pickUp => exact .inr .pickedUp
  | finish last => exact .inr (.finished h.isFinished_of_reported)
  | _ => exact .inl rfl

/-- A task is idle for as long as it has shown nothing. -/
theorem Life.state_eq_idle_iff (h : task.Life marks phase) : phase.state = .idle ↔ marks = [] := by
  cases phase with
  | waiting => simp [h.of_waiting, Phase.state]
  | pickedUp => simp [h.of_pickedUp, Phase.state]
  | acting rest =>
    obtain ⟨found, -, rfl⟩ := h.of_acting
    simp [underway, Phase.state]
  | acted ending =>
    obtain ⟨found, -, rfl⟩ := h.of_acted
    simp [underway, Phase.state]
  | reported last =>
    obtain ⟨found, ending, calls, -, -, -, rfl⟩ := h.of_reported
    simp [story, underway, Phase.state]
  | finished last =>
    obtain ⟨found, ending, calls, -, -, rfl, rfl⟩ := h.of_finished
    have hlast := isFinished_lastState task ending
    constructor
    · intro hidle
      rw [show Runner.lastState task ending = .idle from hidle] at hlast
      cases hlast
    · simp [story, underway]

/-- When the callback of a task has been called, or the task is finished, then its action has ended
and the task is settled after that. -/
theorem Life.settled (h : task.Life marks phase)
    (hend : marks.flatMap Mark.calls ≠ [] ∨ phase.state.isFinished = true) :
    ∃ found ending last, task.action.after found = some (.finish ending) ∧
      task.Settled ending (marks.flatMap Mark.calls) last ∧
      ((phase.state = .running ∧ marks = story found ending (marks.flatMap Mark.calls)) ∨
        (phase.state = last ∧
          marks = story found ending (marks.flatMap Mark.calls) ++ [.finished last])) := by
  cases phase with
  | waiting =>
    obtain rfl := h.of_waiting
    simp [Phase.state, TaskState.isFinished] at hend
  | pickedUp =>
    obtain rfl := h.of_pickedUp
    simp [Mark.calls, Phase.state, TaskState.isFinished] at hend
  | acting rest =>
    obtain ⟨found, -, rfl⟩ := h.of_acting
    simp [flatMap_calls_underway, Phase.state, TaskState.isFinished] at hend
  | acted ending =>
    obtain ⟨found, -, rfl⟩ := h.of_acted
    simp [flatMap_calls_underway, Mark.calls, Phase.state, TaskState.isFinished] at hend
  | reported last =>
    obtain ⟨found, ending, calls, hafter, hcalls, rfl, rfl⟩ := h.of_reported
    rw [flatMap_calls_story]
    exact ⟨found, ending, _, hafter, Task.settled hcalls, .inl ⟨rfl, rfl⟩⟩
  | finished last =>
    obtain ⟨found, ending, calls, hafter, hcalls, rfl, rfl⟩ := h.of_finished
    have hmarks : (story found ending calls ++
        [Mark.finished (Runner.lastState task ending)]).flatMap Mark.calls = calls := by
      rw [List.flatMap_append, flatMap_calls_story]
      exact List.append_nil calls
    rw [hmarks]
    exact ⟨found, ending, _, hafter, Task.settled hcalls, .inr ⟨rfl, rfl⟩⟩

/-- A task calls its callback at most once. -/
theorem Life.length_calls_le (h : task.Life marks phase) :
    (marks.flatMap Mark.calls).length ≤ 1 := by
  by_cases hnone : marks.flatMap Mark.calls = []
  · simp [hnone]
  · obtain ⟨found, ending, last, -, hsettled, -⟩ := h.settled (.inl hnone)
    exact hsettled.length_calls_le

end Task

namespace Runner

variable {r s : Runner ω τ} {log more : Log ω τ} {i : Nat} {task : Task ω τ} {phase : Phase ω τ}
  {workers : Option Nat} {w : ω} {targets : Nat → τ}

/-- An event leaves the state of a task or moves it on. -/
theorem state_next (h : Reached (fresh workers w targets) r log)
    (hi : r.jobs[i]? = some ⟨task, phase⟩) (hnext : Happens r more s) :
    ∃ phase', s.jobs[i]? = some ⟨task, phase'⟩ ∧
      (phase'.state = phase.state ∨ phase.state.Next phase'.state) := by
  obtain ⟨phase', hjob, ⟨-, rfl⟩ | ⟨mark, -, hstep⟩⟩ := hnext.job hi
  · exact ⟨phase', hjob, .inl rfl⟩
  · exact ⟨phase', hjob, (h.life hi).state_step hstep⟩

/-- **What every task can rely on.**  In every course of events, for every task:

* it is idle until it is picked up, and each event leaves its state or moves it on; the state of a
  finished task stays;
* its callback is called at most once;
* when the callback has been called, and also when the task is finished, the action has come to its own
  ending and the task is settled after it; the call comes before the end. -/
theorem task_contract (h : Reached (fresh workers w targets) r log)
    (hi : r.jobs[i]? = some ⟨task, phase⟩) :
    (phase.state = .idle ↔ log.of i = []) ∧
    (∀ more s, Happens r more s → ∃ phase', s.jobs[i]? = some ⟨task, phase'⟩ ∧
      (phase'.state = phase.state ∨ phase.state.Next phase'.state) ∧
      (phase.state.isFinished = true → phase'.state = phase.state)) ∧
    (r.callsOf i).length ≤ 1 ∧
    (r.callsOf i ≠ [] ∨ phase.state.isFinished = true → ∃ found ending last,
      task.action.after found = some (.finish ending) ∧
      task.Settled ending (r.callsOf i) last ∧
      ((phase.state = .running ∧ log.of i = Task.story found ending (r.callsOf i)) ∨
        (phase.state = last ∧
          log.of i = Task.story found ending (r.callsOf i) ++ [.finished last]))) := by
  have hlife := h.life hi
  rw [h.callsOf_eq i]
  refine ⟨hlife.state_eq_idle_iff, fun more s hnext => ?_, hlife.length_calls_le, hlife.settled⟩
  obtain ⟨phase', hjob, hstate⟩ := state_next h hi hnext
  refine ⟨phase', hjob, hstate, fun hfinished => ?_⟩
  obtain hsame | hmoved := hstate
  · exact hsame
  · exact absurd hmoved (TaskState.not_next_of_isFinished hfinished)

/-- Two tasks on one target: the first adds one and its callback breaks off, the second fails after it
has added ten. -/
def twoTasks : List (Task Unit Nat) :=
  [{ target := 0, action := .step (fun w t => (w, t + 1)) fun _ _ => .finish .completed,
     callback := some .panics },
   { target := 0,
     action := .step (fun w t => (w, t + 10)) fun _ _ => .finish (.failed .missingObjectId),
     callback := some .returns }]

/-- Two workers take the tasks to their ends after nothing more is submitted; the second worker comes
to the target first and goes home early. -/
def twoWorkers : Runner Unit Nat :=
  [Move.pickUp 0, .pickUp 1, .lock 1, .advance 1, .advance 1, .lock 0, .advance 0, .advance 0, .report 0,
    .report 1, .finish 1, .leave, .finish 0].foldl perform
      ((fresh (some 2) () fun _ => 0).submitAll twoTasks).close

theorem reached_twoWorkers : ∃ log, Reached (fresh (some 2) () fun _ => 0) twoWorkers log := by
  have hstart : Reached (fresh (some 2) () fun _ => 0) _ [] := .start
  obtain ⟨log, h⟩ := hstart.submitAll rfl twoTasks
  exact (h.next .close).run (run_foldl_perform _ _)

theorem task_contract_twoWorkers :
    twoWorkers.states = [.failed "task panicked", .failed "object has no id"] ∧
      ∃ log task last found ending, Reached (fresh (some 2) () fun _ => 0) twoWorkers log ∧
        twoWorkers.jobs[0]? = some ⟨task, .finished last⟩ ∧
        (twoWorkers.callsOf 0).length ≤ 1 ∧ task.action.after found = some (.finish ending) ∧
        task.Settled ending (twoWorkers.callsOf 0) last ∧
        log.of 0 = Task.story found ending (twoWorkers.callsOf 0) ++ [.finished last] := by
  obtain ⟨log, h⟩ := reached_twoWorkers
  have hjob : ∃ task, twoWorkers.jobs[0]? = some ⟨task, .finished (.failed "task panicked")⟩ :=
    ⟨_, rfl⟩
  obtain ⟨task, hjob⟩ := hjob
  obtain ⟨-, -, hcalls, hsettled⟩ := task_contract h hjob
  obtain ⟨found, ending, last, hafter, hsettled, ⟨hrunning, -⟩ | ⟨rfl, hlog⟩⟩ := hsettled (.inr rfl)
  · cases hrunning
  · exact ⟨rfl, log, task, _, found, ending, h, hjob, hcalls, hafter, hsettled, hlog⟩

end Runner

end DocStore
