import DocStore.Proofs.Task.Lifecycle
import DocStore.Proofs.Task.Progress

/-!
# Tasks on one target follow one another

The actions of the tasks on a target take turns: as the target sees it, each of them is taken from its
beginning to its ending before the next one begins, also if one fails or breaks off on the way.

* `Action.Plays` : an action goes on from the value of the target that each of its steps left;
* `Turn`, `Serial` : whole actions one after another on a target, each on what the one before left;
* `Runner.Serialized` : what is true of a target at any time, and `Runner.Happens.serialized` that every
  event preserves it;
* `Runner.serializable` : once all tasks are finished, **every target is what its tasks' actions make of
  it one after another**, in one order of all submitted tasks.

Nothing is said about the order: two tasks that are submitted one after the other can take their turns
either way round.  The surroundings are not locked, so that a step finds whatever other tasks and the
rest of the program have made of them.
-/

namespace DocStore

variable {ω τ : Type}

/-! ### Undivided actions -/

/-- An action that began on `t` has only a rest still to come and has left the target as `t'`; each of
its steps found the target as the step before had left it. -/
inductive Action.Plays (action : Action ω τ) (t : τ) : List (ω × τ) → Action ω τ → τ → Prop
  | start : Plays action t [] action t
  | step {found : List (ω × τ)} {change : ω → τ → ω × τ} {next : ω → τ → Action ω τ} {t' : τ}
      (h : Plays action t found (.step change next) t') (w : ω) :
      Plays action t (found ++ [(w, t')]) (next w t') (change w t').2

/-- The target and the rest of an action do not depend on the surroundings. -/
def Action.Steady : Action ω τ → Prop
  | .finish _ => True
  | .step change next =>
    (∀ w w' t, (change w t).2 = (change w' t).2 ∧ next w t = next w' t) ∧ ∀ w t, (next w t).Steady

namespace Action

variable {action rest : Action ω τ} {found : List (ω × τ)} {t t' : τ} {ending : Ending}

theorem Steady.run_eq (h : action.Steady) (w w' : ω) (t : τ) :
    (action.run w t).1 = (action.run w' t).1 ∧ (action.run w t).2.2 = (action.run w' t).2.2 := by
  induction action generalizing w w' t with
  | finish ending => exact ⟨rfl, rfl⟩
  | step change next ih =>
    obtain ⟨hsame, hnext⟩ := h
    obtain ⟨htarget, hrest⟩ := hsame w w' t
    simp only [run, htarget, hrest]
    exact ih w' t (hnext w' t) _ _ _

/-- What a steady action makes of its target by steps is what it makes of it undivided. -/
theorem Plays.run_eq (h : action.Plays t found rest t') (hsteady : action.Steady) :
    rest.Steady ∧ ∀ w w', (action.run w t).1 = (rest.run w' t').1 ∧
      (action.run w t).2.2 = (rest.run w' t').2.2 := by
  induction h with
  | start => exact ⟨hsteady, fun w w' => hsteady.run_eq w w' t⟩
  | @step found change next t' _ w₁ ih =>
    obtain ⟨⟨hsame, hnext⟩, hrun⟩ := ih
    refine ⟨hnext w₁ t', fun w w' => ?_⟩
    obtain ⟨hending, htarget⟩ := hrun w w₁
    obtain ⟨hending', htarget'⟩ := (hnext w₁ t').run_eq (change w₁ t').1 w' (change w₁ t').2
    exact ⟨hending.trans hending', htarget.trans htarget'⟩

end Action

/-! ### Turns -/

/-- A turn of a task at a target: what the steps of its action found, and its ending. -/
structure Turn (ω τ : Type) where
  task : Nat
  found : List (ω × τ)
  ending : Ending

/-- Only under the lock of its target does a task come to hold it, or cease to. -/
theorem Task.Step.holdsLock_eq_false {task : Task ω τ} {phase phase' : Phase ω τ} {mark : Mark ω τ}
    (h : task.Step phase mark phase') (hmark : mark.isUnderLock = false) :
    phase.holdsLock = false ∧ phase'.holdsLock = false := by
  cases h <;> first | exact ⟨rfl, rfl⟩ | cases hmark

namespace Runner

/-- The lines of a task that has locked a target and taken these steps. -/
def opening (k i : Nat) (found : List (ω × τ)) : Log ω τ :=
  ⟨i, k, .locked⟩ :: found.map fun pair => ⟨i, k, .advanced pair.1 pair.2⟩

/-- The lines of a turn at a target. -/
def turnLines (k : Nat) (turn : Turn ω τ) : Log ω τ :=
  opening k turn.task turn.found ++ [⟨turn.task, k, .ended turn.ending⟩]

/-- Whole turns of tasks with these actions, one after another, that begin on `t`. -/
inductive Serial (actionOf? : Nat → Option (Action ω τ)) (t : τ) : List (Turn ω τ) → τ → Prop
  | start : Serial actionOf? t [] t
  | turn {turns : List (Turn ω τ)} (turn : Turn ω τ) {action : Action ω τ} {t' t'' : τ}
      (h : Serial actionOf? t turns t') (haction : actionOf? turn.task = some action)
      (hplays : action.Plays t' turn.found (.finish turn.ending) t'') :
      Serial actionOf? t (turns ++ [turn]) t''

/-- The action of a task that has been submitted. -/
def actionOf? (r : Runner ω τ) (i : Nat) : Option (Action ω τ) :=
  r.jobs[i]?.map fun job => job.task.action

/-- The lock of a target whose last whole turn left it as `t`, with the lines of the turn that is going
on: nobody holds it, or exactly one task does. -/
inductive Lock (r : Runner ω τ) (k : Nat) (t : τ) : Log ω τ → Prop
  | free
      (hfree : ∀ (i : Nat) (task : Task ω τ) (rest : Action ω τ),
        r.jobs[i]? = some ⟨task, .acting rest⟩ → task.target ≠ k)
      (htarget : r.targets k = t) : Lock r k t []
  | held {i : Nat} {task : Task ω τ} {rest : Action ω τ} {found : List (ω × τ)}
      (hi : r.jobs[i]? = some ⟨task, .acting rest⟩) (hk : task.target = k)
      (honly : ∀ (j : Nat) (task' : Task ω τ) (rest' : Action ω τ),
        r.jobs[j]? = some ⟨task', .acting rest'⟩ → task'.target = k → j = i)
      (hplays : task.action.Plays t found rest (r.targets k)) : Lock r k t (opening k i found)

/-- A target has gone through whole turns and at most one that is still going on. -/
def Serialized (r : Runner ω τ) (log : Log ω τ) (k : Nat) (t₀ : τ) : Prop :=
  ∃ turns t opened, Serial r.actionOf? t₀ turns t ∧ r.Lock k t opened ∧
    log.on k = turns.flatMap (turnLines k) ++ opened

variable {r s : Runner ω τ} {log more : Log ω τ} {entry : Entry ω τ} {i k : Nat} {task : Task ω τ}
  {phase phase' : Phase ω τ} {rest : Action ω τ} {t t₀ : τ} {opened : Log ω τ}
  {workers : Option Nat} {w : ω} {targets : Nat → τ}

/-! ### Events that leave a target alone -/

/-- Neither the value of a target nor those who act on it are changed. -/
structure Undisturbed (r s : Runner ω τ) (k : Nat) : Prop where
  target : s.targets k = r.targets k
  acting : ∀ (i : Nat) (task : Task ω τ) (rest : Action ω τ), task.target = k →
    (s.jobs[i]? = some ⟨task, .acting rest⟩ ↔ r.jobs[i]? = some ⟨task, .acting rest⟩)

theorem Lock.undisturbed (h : r.Lock k t opened) (hsame : Undisturbed r s k) :
    s.Lock k t opened := by
  cases h with
  | free hfree htarget =>
    refine .free (fun i task rest hi hk => ?_) (hsame.target.trans htarget)
    exact hfree i task rest ((hsame.acting i task rest hk).1 hi) hk
  | held hi hk honly hplays =>
    refine .held ((hsame.acting _ _ _ hk).2 hi) hk (fun j task' rest' hj hk' => ?_) ?_
    · exact honly j task' rest' ((hsame.acting j task' rest' hk').1 hj) hk'
    · rw [hsame.target]
      exact hplays

theorem Serial.mono {f g : Nat → Option (Action ω τ)} {turns : List (Turn ω τ)}
    (h : Serial f t₀ turns t) (hsub : ∀ i action, f i = some action → g i = some action) :
    Serial g t₀ turns t := by
  induction h with
  | start => exact .start
  | turn turn _ haction hplays ih => exact .turn turn ih (hsub _ _ haction) hplays

theorem Happens.actionOf? (h : Happens r more s) {action : Action ω τ}
    (hi : r.actionOf? i = some action) : s.actionOf? i = some action := by
  obtain ⟨⟨task, phase⟩, hjob, rfl⟩ := Option.map_eq_some_iff.1 hi
  obtain ⟨phase', hjob', -⟩ := h.job hjob
  exact Option.map_eq_some_iff.2 ⟨_, hjob', rfl⟩

theorem Serialized.undisturbed (hr : Serialized r log k t₀) (h : Happens r more s)
    (hsame : Undisturbed r s k) (hmore : more.on k = []) : Serialized s (log ++ more) k t₀ := by
  obtain ⟨turns, t, opened, hserial, hlock, hlog⟩ := hr
  refine ⟨turns, t, opened, hserial.mono fun _ _ => h.actionOf?, hlock.undisturbed hsame, ?_⟩
  rw [Log.on_append, hmore, List.append_nil, hlog]

/-- A task that goes from one phase to another disturbs a target only if it is its own and the task
holds its lock before or after that. -/
theorem undisturbed_of_set (hi : r.jobs[i]? = some ⟨task, phase⟩)
    (hjobs : s.jobs = r.jobs.set i ⟨task, phase'⟩) (htarget : s.targets k = r.targets k)
    (hidle : task.target = k → phase.holdsLock = false ∧ phase'.holdsLock = false) :
    Undisturbed r s k := by
  refine ⟨htarget, fun j task' rest hk => ?_⟩
  have hlt := (List.getElem?_eq_some_iff.1 hi).1
  by_cases hj : i = j
  · subst hj
    rw [hjobs, List.getElem?_set_self hlt, hi]
    constructor
    · intro h
      cases h
      cases (hidle hk).2
    · intro h
      cases h
      cases (hidle hk).1
  · rw [hjobs, List.getElem?_set_ne hj]

/-- A step that is not made under the lock of a target leaves its value as it is. -/
theorem Step.targets_eq (h : Step r entry s)
    (hk : ¬(entry.target = k ∧ entry.mark.isUnderLock = true)) : s.targets k = r.targets k := by
  cases h with
  | @advance i task change next _ =>
    have hne : k ≠ task.target := fun heq => hk ⟨heq.symm, rfl⟩
    exact if_neg hne
  | _ => rfl

/-- A step that is not made under the lock of a target does not disturb it. -/
theorem Step.undisturbed (h : Step r entry s)
    (hk : ¬(entry.target = k ∧ entry.mark.isUnderLock = true)) : Undisturbed r s k := by
  obtain ⟨task, phase, phase', hjob, htarget, hstep, hjobs⟩ := h.job
  refine undisturbed_of_set hjob hjobs (h.targets_eq hk) fun heq => hstep.holdsLock_eq_false ?_
  exact Bool.eq_false_iff.2 fun hmark => hk ⟨htarget.trans heq, hmark⟩

/-! ### Events at a target -/

/-- Who locks a target finds it as the last whole turn left it. -/
theorem Lock.lock (h : r.Lock task.target t opened) (hi : r.jobs[i]? = some ⟨task, .pickedUp⟩)
    (hfree : r.isLocked task.target = false) :
    opened = [] ∧ (r.setPhase i (.acting task.action)).Lock task.target t
      (opening task.target i []) := by
  have hnone := isLocked_eq_false_iff.1 hfree
  have hlt := (List.getElem?_eq_some_iff.1 hi).1
  have hjobs := jobs_setPhase hi (.acting task.action)
  cases h with
  | held hj hk => exact absurd hk (hnone _ _ _ hj)
  | free _ htarget =>
    refine ⟨rfl, .held (by rw [hjobs, List.getElem?_set_self hlt]) rfl (fun j task' rest' hj hk => ?_)
      ?_⟩
    · by_contra hne
      rw [hjobs, List.getElem?_set_ne (Ne.symm hne)] at hj
      exact hnone j task' rest' hj hk
    · rw [← htarget]
      exact .start

/-- The lock of a target is held by the task that acts on it, and by no other. -/
theorem Lock.of_acting (h : r.Lock task.target t opened) (hi : r.jobs[i]? = some ⟨task, .acting rest⟩) :
    ∃ found, opened = opening task.target i found ∧
      task.action.Plays t found rest (r.targets task.target) ∧
      ∀ (j : Nat) (task' : Task ω τ) (rest' : Action ω τ),
        r.jobs[j]? = some ⟨task', .acting rest'⟩ → task'.target = task.target → j = i := by
  cases h with
  | free hfree => exact absurd rfl (hfree i task rest hi)
  | @held j task' rest' found hj hk honly hplays =>
    obtain rfl := honly i task rest hi rfl
    obtain ⟨rfl, rfl⟩ : task' = task ∧ rest' = rest := by simpa [hi, eq_comm] using hj
    exact ⟨found, rfl, hplays, honly⟩

/-- A step of an action goes on from the target as it is. -/
theorem Lock.advance {change : ω → τ → ω × τ} {next : ω → τ → Action ω τ}
    (h : r.Lock task.target t opened)
    (hi : r.jobs[i]? = some ⟨task, .acting (.step change next)⟩)
    (hjobs : s.jobs = r.jobs.set i ⟨task, .acting (next r.surroundings (r.targets task.target))⟩)
    (htarget : s.targets task.target = (change r.surroundings (r.targets task.target)).2) :
    s.Lock task.target t
      (opened ++ [⟨i, task.target, .advanced r.surroundings (r.targets task.target)⟩]) := by
  obtain ⟨found, rfl, hplays, honly⟩ := h.of_acting hi
  have hlt := (List.getElem?_eq_some_iff.1 hi).1
  have hopened : opening task.target i found ++
      [⟨i, task.target, .advanced r.surroundings (r.targets task.target)⟩] =
        opening task.target i (found ++ [(r.surroundings, r.targets task.target)]) := by
    simp [opening]
  rw [hopened]
  refine .held (by rw [hjobs, List.getElem?_set_self hlt]) rfl (fun j task' rest' hj hk => ?_) ?_
  · by_contra hne
    rw [hjobs, List.getElem?_set_ne (Ne.symm hne)] at hj
    exact hne (honly j task' rest' hj hk)
  · rw [htarget]
    exact hplays.step r.surroundings

/-- An ending completes a turn and frees the lock, whatever the ending is. -/
theorem Lock.stop {ending : Ending} (h : r.Lock task.target t opened)
    (hi : r.jobs[i]? = some ⟨task, .acting (.finish ending)⟩) :
    ∃ found, opened ++ [⟨i, task.target, .ended ending⟩] = turnLines task.target ⟨i, found, ending⟩ ∧
      task.action.Plays t found (.finish ending) (r.targets task.target) ∧
      (r.setPhase i (.acted ending)).Lock task.target (r.targets task.target) [] := by
  obtain ⟨found, rfl, hplays, honly⟩ := h.of_acting hi
  have hlt := (List.getElem?_eq_some_iff.1 hi).1
  refine ⟨found, rfl, hplays, .free (fun j task' rest' hj hk => ?_) rfl⟩
  rw [jobs_setPhase hi] at hj
  by_cases hne : i = j
  · subst hne
    rw [List.getElem?_set_self hlt] at hj
    cases hj
  · rw [List.getElem?_set_ne hne] at hj
    exact hne (honly j task' rest' hj hk).symm

/-- **A step of a worker preserves what is true of a target.** -/
theorem Step.serialized (h : Step r entry s) (hr : Serialized r log k t₀) :
    Serialized s (log ++ [entry]) k t₀ := by
  have hevent : Happens r [entry] s := .step h
  by_cases hk : entry.target = k ∧ entry.mark.isUnderLock = true
  · obtain ⟨rfl, hmark⟩ := hk
    have hon : Log.on [entry] entry.target = [entry] := by simp [Log.on, hmark]
    obtain ⟨turns, t, opened, hserial, hlock, hlog⟩ := hr
    rw [Serialized, Log.on_append, hon, hlog]
    have hserial' := hserial.mono fun _ _ => hevent.actionOf?
    cases h with
    | @lock i task hi hfree =>
      -- A turn begins.
      obtain ⟨rfl, hlocked⟩ := hlock.lock hi hfree
      exact ⟨turns, t, _, hserial', hlocked, by rw [List.append_nil]; rfl⟩
    | @advance i task change next hi =>
      exact ⟨turns, t, _, hserial', hlock.advance hi (jobs_setPhase hi _) (if_pos rfl),
        List.append_assoc ..⟩
    | @stop i task ending hi =>
      -- The turn that was going on is whole now.
      obtain ⟨found, hlines, hplays, hfree⟩ := hlock.stop hi
      have haction : r.actionOf? i = some task.action := by simp [actionOf?, hi]
      have hturn := Serial.turn ⟨i, found, ending⟩ hserial' (hevent.actionOf? haction) hplays
      refine ⟨_, _, [], hturn, hfree, ?_⟩
      rw [List.append_nil, List.append_assoc, hlines, List.flatMap_append, List.flatMap_singleton]
    | _ => cases hmark
  · have hon : Log.on [entry] k = [] := by simpa [Log.on] using hk
    exact hr.undisturbed hevent (h.undisturbed hk) hon

/-- **Every event preserves what is true of a target.** -/
theorem Happens.serialized (h : Happens r more s) (hr : Serialized r log k t₀) :
    Serialized s (log ++ more) k t₀ := by
  have hevent := h
  cases h with
  | step h => exact h.serialized hr
  | leave _ => exact hr.undisturbed hevent ⟨rfl, fun _ _ _ _ => .rfl⟩ rfl
  | close => exact hr.undisturbed hevent ⟨rfl, fun _ _ _ _ => .rfl⟩ rfl
  | elsewhere w => exact hr.undisturbed hevent ⟨rfl, fun _ _ _ _ => .rfl⟩ rfl
  | submit task' _ =>
    refine hr.undisturbed hevent ⟨rfl, fun i task rest _ => ⟨fun hi => ?_, fun hi => ?_⟩⟩ rfl
    · obtain ⟨before, hbefore⟩ | ⟨-, -, hwaiting⟩ := hevent.job_before hi
      · obtain ⟨phase, hafter, ⟨-, rfl⟩ | ⟨mark, hmark, -⟩⟩ := hevent.job hbefore
        · obtain rfl : phase = .acting rest := by simpa [hafter] using hi
          exact hbefore
        · cases hmark
      · cases hwaiting
    · obtain ⟨phase, hafter, ⟨-, rfl⟩ | ⟨mark, hmark, -⟩⟩ := hevent.job hi
      · exact hafter
      · cases hmark

/-- **At any time every target has gone through whole turns and at most one that is still going on.** -/
theorem Reached.serialized (h : Reached (fresh workers w targets) r log) (k : Nat) :
    Serialized r log k (targets k) := by
  induction h with
  | start =>
    refine ⟨[], targets k, [], .start, .free (fun i task rest hi => ?_) rfl, rfl⟩
    cases hi
  | next _ hnext ih => exact hnext.serialized ih

end Runner

/-! ### The order of the tasks -/

/-- Whether an action ended. -/
def Mark.isEnding : Mark ω τ → Bool
  | ended _ => true
  | _ => false

theorem Task.Life.countP_isEnding {task : Task ω τ} {marks : List (Mark ω τ)} {last : TaskState}
    (h : task.Life marks (.finished last)) : marks.countP Mark.isEnding = 1 := by
  obtain ⟨found, ending, calls, -, -, -, rfl⟩ := h.of_finished
  have hsteps : (found.map fun pair => Mark.advanced pair.1 pair.2).countP Mark.isEnding = 0 := by
    simp [List.countP_map, Function.comp_def, Mark.isEnding]
  simp [story, underway, List.countP_append, List.countP_cons, hsteps, Mark.isEnding]

namespace Runner

/-- The tasks in the order in which their actions ended. -/
def Log.order (log : Log ω τ) : List Nat :=
  (log.filter fun entry => entry.mark.isEnding).map Entry.task

theorem Log.order_append (log more : Log ω τ) : (log ++ more).order = log.order ++ more.order := by
  simp [Log.order]

theorem Log.count_order (log : Log ω τ) (i : Nat) :
    log.order.count i = (log.of i).countP Mark.isEnding := by
  rw [Log.order, Log.of, List.count, List.countP_map, List.countP_map, List.countP_filter,
    List.countP_filter]
  refine List.countP_congr fun entry _ => ?_
  simp [and_comm]

theorem order_turnLines (k : Nat) (turn : Turn ω τ) : Log.order (turnLines k turn) = [turn.task] := by
  have hsteps : Log.order (opening k turn.task turn.found) = [] := by
    simp [Log.order, opening, Mark.isEnding, List.filter_map, Function.comp_def]
  rw [turnLines, Log.order_append, hsteps]
  rfl

theorem order_flatMap_turnLines (k : Nat) (turns : List (Turn ω τ)) :
    Log.order (turns.flatMap (turnLines k)) = turns.map Turn.task := by
  induction turns with
  | nil => rfl
  | cons turn turns ih =>
    rw [List.flatMap_cons, Log.order_append, ih, order_turnLines]
    rfl

variable {r : Runner ω τ} {log : Log ω τ} {workers : Option Nat} {w : ω} {targets : Nat → τ}

/-- **Each task has exactly one turn** when all tasks are finished. -/
theorem Reached.order_perm (h : Reached (fresh workers w targets) r log)
    (hall : ∀ job ∈ r.jobs, job.phase.isFinished = true) :
    log.order.Perm (List.range r.jobs.length) := by
  refine List.perm_iff_count.2 fun i => ?_
  rw [Log.count_order]
  cases hi : r.jobs[i]? with
  | none =>
    have hle := List.getElem?_eq_none_iff.1 hi
    rw [h.of_eq_nil hi, List.count_eq_zero_of_not_mem (by simpa using hle)]
    rfl
  | some job =>
    obtain ⟨task, phase⟩ := job
    have hlt := (List.getElem?_eq_some_iff.1 hi).1
    rw [List.count_eq_one_of_mem List.nodup_range (List.mem_range.2 hlt)]
    cases phase with
    | finished last => exact (h.life hi).countP_isEnding
    | _ => cases hall _ (List.mem_of_getElem? hi)

/-- Whether a task is one on a target. -/
def isOn (r : Runner ω τ) (k i : Nat) : Bool := (r.jobs[i]?).any fun job => job.task.target = k

/-- The order at a target is the order of all tasks, with those on other targets left out. -/
theorem Reached.order_on (h : Reached (fresh workers w targets) r log) (k : Nat) :
    (log.on k).order = log.order.filter (r.isOn k) := by
  rw [Log.order, Log.order, Log.on, List.filter_map, List.filter_filter, List.filter_filter]
  congr 1
  refine List.filter_congr fun entry hentry => ?_
  obtain ⟨task, phase, hjob, htarget⟩ := h.target hentry
  have hon : r.isOn k entry.task = decide (entry.target = k) := by
    simp [isOn, hjob, htarget]
  rw [Function.comp_apply, hon]
  cases entry.mark <;> simp [Mark.isEnding, Mark.isUnderLock]

/-- What a task's action makes of a target, undivided and in the given surroundings. -/
def applied (r : Runner ω τ) (w : ω) (i : Nat) (t : τ) : τ :=
  match r.actionOf? i with
  | some action => (action.run w t).2.2
  | none => t

/-- Turns of steady actions make of a target what the actions make of it one after another. -/
theorem Serial.eq_foldl {turns : List (Turn ω τ)} {t₀ t : τ} (h : Serial r.actionOf? t₀ turns t)
    (hsteady : ∀ turn ∈ turns, ∀ action, r.actionOf? turn.task = some action → action.Steady)
    (w : ω) : t = (turns.map Turn.task).foldl (fun t i => r.applied w i t) t₀ := by
  induction h with
  | start => rfl
  | @turn turns turn action t' t'' _ haction hplays ih =>
    have hbefore := ih fun turn' hmem => hsteady turn' (List.mem_append_left _ hmem)
    have hlast := hsteady turn (by simp) action haction
    have hrun := ((hplays.run_eq hlast).2 w w).2
    have happlied : r.applied w turn.task t' = t'' := by
      rw [applied, haction]
      exact hrun
    rw [List.map_append, List.foldl_append, ← hbefore]
    exact happlied.symm

/-- **No update is lost, duplicated or torn.**  In every course of events:

* the workers do not go on for ever, and as long as some task is not finished one of them can take a step;
* once all tasks are finished, there is an order of all submitted tasks such that every target has
  gone through whole turns of its tasks in that order, each on what the one before left, and nothing
  else has happened to it.  If their actions do not depend on the surroundings, then the target
  is what the actions, undivided and in that order, make of it. -/
theorem serializable (h : Reached (fresh workers w targets) r log) :
    Acc (fun s r : Runner ω τ => ∃ entry, Step r entry s) r ∧
    (∀ job ∈ r.jobs, job.phase.isFinished = false → ∃ entry s, Step r entry s) ∧
    ((∀ job ∈ r.jobs, job.phase.isFinished = true) →
      ∃ order : List Nat, order.Perm (List.range r.jobs.length) ∧ ∀ k,
        (∃ turns, turns.map Turn.task = order.filter (r.isOn k) ∧
          log.on k = turns.flatMap (turnLines k) ∧
          Serial r.actionOf? (targets k) turns (r.targets k)) ∧
        ((∀ i action, r.isOn k i = true → r.actionOf? i = some action → action.Steady) → ∀ w',
          r.targets k =
            (order.filter (r.isOn k)).foldl (fun t i => r.applied w' i t) (targets k))) := by
  refine ⟨wellFounded_step.apply r, fun job hjob hopen => h.exists_step hjob hopen,
    fun hall => ⟨log.order, h.order_perm hall, fun k => ?_⟩⟩
  obtain ⟨turns, t, opened, hserial, hlock, hlog⟩ := h.serialized k
  -- No turn is still going on, because no task is in the middle of its action.
  obtain ⟨rfl, rfl⟩ : opened = [] ∧ r.targets k = t := by
    cases hlock with
    | free _ htarget => exact ⟨rfl, htarget⟩
    | held hi => cases hall _ (List.mem_of_getElem? hi)
  rw [List.append_nil] at hlog
  have horder : turns.map Turn.task = log.order.filter (r.isOn k) := by
    rw [← h.order_on k, hlog, order_flatMap_turnLines]
  refine ⟨⟨turns, horder, hlog, hserial⟩, fun hsteady w' => ?_⟩
  rw [← horder]
  refine hserial.eq_foldl (fun turn hturn action haction => ?_) w'
  have hmem : turn.task ∈ log.order.filter (r.isOn k) := horder ▸ List.mem_map_of_mem hturn
  exact hsteady turn.task action (List.mem_filter.1 hmem).2 haction

theorem serializable_twoWorkers :
    twoWorkers.targets 0 = 11 ∧ ∃ log, Reached (fresh (some 2) () fun _ => 0) twoWorkers log ∧
      (∀ job ∈ twoWorkers.jobs, job.phase.isFinished = true) ∧
      ∃ order : List Nat, order.Perm [0, 1] ∧ ∃ turns, turns.map Turn.task = order ∧
        log.on 0 = turns.flatMap (turnLines 0) ∧
        Serial twoWorkers.actionOf? 0 turns (twoWorkers.targets 0) := by
  obtain ⟨log, h⟩ := reached_twoWorkers
  have hall : ∀ job ∈ twoWorkers.jobs, job.phase.isFinished = true :=
    List.all_eq_true.1 (show twoWorkers.jobs.all (fun job => job.phase.isFinished) = true from rfl)
  obtain ⟨-, -, hend⟩ := serializable h
  obtain ⟨order, hperm, hturns⟩ := hend hall
  obtain ⟨⟨turns, horder, hlog, hserial⟩, -⟩ := hturns 0
  have hon : order.filter (twoWorkers.isOn 0) = order := by
    refine List.filter_eq_self.2 fun i hi => ?_
    have hlt : i < 2 := List.mem_range.1 (hperm.mem_iff.1 hi)
    obtain rfl | rfl : i = 0 ∨ i = 1 := by omega
    · rfl
    · rfl
  exact ⟨rfl, log, h, hall, order, hperm, turns, horder.trans hon, hlog, hserial⟩

end Runner

end DocStore
