import Mathlib.Logic.Hydra
import DocStore.Proofs.Task.Log

/-!
# Tasks come to their ends

* `Runner.Reached.exists_step` : as long as some task is not finished, some worker can take a step,
  also after the runner has been closed and workers have gone home;
* `Runner.wellFounded_step` : the workers do not go on for ever, however they take turns;
* `Runner.Reached.exists_run_finished` : so that every course of events can be brought to an end in which
  all tasks are finished.

Who holds the lock of a target can always go on, and who waits for a lock waits for such a task.  The
workers of a pool are enough because they go home only when the others have all tasks that are left
(`Runner.Staffed`).
-/

namespace DocStore

variable {ω τ : Type}

/-! ### Steps lead to an end -/

theorem Task.Step.isFinished_eq_false {task : Task ω τ} {phase phase' : Phase ω τ} {mark : Mark ω τ}
    (h : task.Step phase mark phase') : phase.isFinished = false := by
  cases h <;> rfl

/-- A phase that some task can step to from another phase. -/
def Phase.Follows (phase' phase : Phase ω τ) : Prop :=
  ∃ (task : Task ω τ) (mark : Mark ω τ), task.Step phase mark phase'

namespace Phase

theorem acc_finished (last : TaskState) : Acc Follows (finished last : Phase ω τ) :=
  .intro _ fun _ ⟨_, _, h⟩ => nomatch h

theorem acc_reported (last : TaskState) : Acc Follows (reported last : Phase ω τ) := by
  refine .intro _ ?_
  rintro phase ⟨task, mark, h⟩
  cases h with
  | finish => exact acc_finished last

theorem acc_acted (ending : Ending) : Acc Follows (acted ending : Phase ω τ) := by
  refine .intro _ ?_
  rintro phase ⟨task, mark, h⟩
  cases h with
  | report => exact acc_reported _

/-- Each step of an action leads to an action that is part of it. -/
theorem acc_acting (rest : Action ω τ) : Acc Follows (acting rest) := by
  induction rest with
  | finish ending =>
    refine .intro _ ?_
    rintro phase ⟨task, mark, h⟩
    cases h with
    | stop => exact acc_acted ending
  | step change next ih =>
    refine .intro _ ?_
    rintro phase ⟨task, mark, h⟩
    cases h with
    | advance change next w t => exact ih w t

theorem acc_pickedUp : Acc Follows (pickedUp : Phase ω τ) := by
  refine .intro _ ?_
  rintro phase ⟨task, mark, h⟩
  cases h with
  | lock => exact acc_acting task.action

theorem acc_waiting : Acc Follows (waiting : Phase ω τ) := by
  refine .intro _ ?_
  rintro phase ⟨task, mark, h⟩
  cases h with
  | pickUp => exact acc_pickedUp

theorem wellFounded_follows : WellFounded (Follows (ω := ω) (τ := τ)) := by
  refine ⟨fun phase => ?_⟩
  cases phase with
  | waiting => exact acc_waiting
  | pickedUp => exact acc_pickedUp
  | acting rest => exact acc_acting rest
  | acted ending => exact acc_acted ending
  | reported last => exact acc_reported last
  | finished last => exact acc_finished last

end Phase

namespace Runner

variable {r s : Runner ω τ} {log more : Log ω τ} {entry : Entry ω τ} {i : Nat} {task : Task ω τ}
  {phase : Phase ω τ} {workers : Option Nat} {w : ω} {targets : Nat → τ}

/-- The phases of the tasks, in any order. -/
def phases (r : Runner ω τ) : Multiset (Phase ω τ) := ↑(r.jobs.map Job.phase)

/-- Another element at one place of a list is another element in the multiset. -/
theorem coe_set_add {α : Type} {l : List α} {i : Nat} {a : α} (h : l[i]? = some a) (b : α) :
    ((l.set i b : List α) : Multiset α) + {a} = l + {b} := by
  induction l generalizing i with
  | nil => cases h
  | cons c l ih =>
    cases i with
    | zero =>
      obtain rfl : c = a := by simpa using h
      rw [List.set_cons_zero, ← Multiset.cons_coe, ← Multiset.cons_coe, Multiset.cons_add,
        Multiset.cons_add, add_comm (l : Multiset α) {c}, add_comm (l : Multiset α) {b},
        Multiset.singleton_add, Multiset.singleton_add, Multiset.cons_swap]
    | succ i =>
      rw [List.set_cons_succ, ← Multiset.cons_coe, ← Multiset.cons_coe, Multiset.cons_add,
        Multiset.cons_add, ih h]

/-- A step replaces a phase by one that follows it. -/
theorem Step.cutExpand (h : Step r entry s) :
    Relation.CutExpand Phase.Follows s.phases r.phases := by
  obtain ⟨task, phase, phase', hjob, -, hstep, hjobs⟩ := h.job
  refine ⟨{phase'}, phase, fun phase'' hmem => ?_, ?_⟩
  · rw [Multiset.mem_singleton.1 hmem]
    exact ⟨task, entry.mark, hstep⟩
  · have hphase : (r.jobs.map Job.phase)[entry.task]? = some phase := by simp [hjob]
    rw [phases, hjobs, List.map_set]
    exact coe_set_add hphase phase'

/-- **The workers do not go on for ever**, however they take turns. -/
theorem wellFounded_step : WellFounded fun s r : Runner ω τ => ∃ entry, Step r entry s := by
  have hphases := InvImage.wf (phases (ω := ω) (τ := τ)) Phase.wellFounded_follows.cutExpand
  exact Subrelation.wf (fun ⟨_, h⟩ => h.cutExpand) hphases

/-! ### Some worker can always go on -/

/-- A step leaves the pool as it is. -/
theorem Step.pool_eq (h : Step r entry s) :
    s.workers = r.workers ∧ s.isClosed = r.isClosed ∧ s.gone = r.gone := by
  cases h <;> exact ⟨rfl, rfl, rfl⟩

/-- The number of tasks that are not finished. -/
def unfinished (r : Runner ω τ) : Nat := r.jobs.countP fun job => !job.phase.isFinished

theorem Step.unfinished_le (h : Step r entry s) : s.unfinished ≤ r.unfinished := by
  obtain ⟨task, phase, phase', hjob, -, hstep, hjobs⟩ := h.job
  obtain ⟨hlt, hget⟩ := List.getElem?_eq_some_iff.1 hjob
  have hphase := hstep.isFinished_eq_false
  have hpos : 0 < r.unfinished :=
    List.countP_pos_iff.2 ⟨_, List.getElem_mem hlt, by simp [hget, hphase]⟩
  have hset : s.unfinished = r.unfinished - 1 + if phase'.isFinished = false then 1 else 0 := by
    rw [unfinished, hjobs, List.countP_set hlt, hget]
    simp [hphase, unfinished]
  split at hset <;> omega

/-- There are enough workers for all tasks that are left: none has gone home, or nothing can be
submitted any more and there is a worker for each of them. -/
def Staffed (r : Runner ω τ) : Prop :=
  r.gone = 0 ∨
    (r.isClosed = true ∧ ∀ n, r.workers = some n → r.gone + r.unfinished ≤ max n 1)

theorem Happens.staffed (h : Happens r more s) (hr : r.Staffed) : s.Staffed := by
  cases h with
  | step h =>
    obtain ⟨hworkers, hclosed, hgone⟩ := h.pool_eq
    obtain hzero | ⟨hclosed', henough⟩ := hr
    · exact .inl (hgone.trans hzero)
    · refine .inr ⟨hclosed.trans hclosed', fun n hn => ?_⟩
      have hbefore := henough n (hworkers.symm.trans hn)
      have hle := h.unfinished_le
      omega
  | leave hleave =>
    unfold canLeave at hleave
    split at hleave
    · cases hleave
    · rename_i n hn
      simp only [Bool.and_eq_true, decide_eq_true_eq] at hleave
      refine .inr ⟨hleave.1, fun m hm => ?_⟩
      obtain rfl : n = m := Option.some.inj (hn.symm.trans hm)
      have hlt := hleave.2
      change r.gone + 1 + r.unfinished ≤ max n 1
      unfold unfinished
      omega
  | submit task hopen =>
    obtain hzero | ⟨hclosed, -⟩ := hr
    · exact .inl hzero
    · rw [hopen] at hclosed
      cases hclosed
  | close => exact hr.imp id fun ⟨_, henough⟩ => ⟨rfl, henough⟩
  | elsewhere w => exact hr

theorem Reached.staffed (h : Reached (fresh workers w targets) r log) : r.Staffed := by
  induction h with
  | start => exact .inl rfl
  | next _ hnext ih => exact hnext.staffed ih

theorem isLocked_eq_false_iff {k : Nat} :
    r.isLocked k = false ↔
      ∀ (i : Nat) (task : Task ω τ) (rest : Action ω τ),
        r.jobs[i]? = some ⟨task, .acting rest⟩ → task.target ≠ k := by
  constructor
  · intro h i task rest hi
    have hjob := List.any_eq_false.1 h _ (List.mem_of_getElem? hi)
    simpa [Phase.holdsLock] using hjob
  · intro h
    refine List.any_eq_false.2 fun job hjob => ?_
    obtain ⟨i, hi⟩ := List.getElem?_of_mem hjob
    obtain ⟨task, phase⟩ := job
    cases phase with
    | acting rest => simpa [Phase.holdsLock] using h i task rest hi
    | _ => simp [Phase.holdsLock]

/-- When no worker is busy, the first task that waits can be picked up. -/
theorem Staffed.exists_pickUp (hr : r.Staffed) (hi : r.jobs[i]? = some ⟨task, .waiting⟩)
    (hidle : ∀ job ∈ r.jobs, job.phase.isBusy = false) : ∃ entry s, Step r entry s := by
  classical
  have hwaiting : ∃ (k : Nat) (task : Task ω τ), r.jobs[k]? = some ⟨task, .waiting⟩ :=
    ⟨i, task, hi⟩
  -- The first of the waiting tasks, because an earlier one would keep a worker from it.
  obtain ⟨task', hfirst⟩ := Nat.find_spec hwaiting
  refine ⟨_, _, .pickUp hfirst ?_⟩
  unfold canPickUp
  split
  · rfl
  · rename_i n hn
    have hbusy : r.jobs.countP (fun job => job.phase.isBusy) = 0 :=
      List.countP_eq_zero.2 fun job hjob => by simp [hidle job hjob]
    have hearlier : (r.jobs.take (Nat.find hwaiting)).countP (fun job => job.phase.isWaiting) = 0 := by
      refine List.countP_eq_zero.2 fun job hjob hphase => ?_
      obtain ⟨m, hm⟩ := List.getElem?_of_mem hjob
      rw [List.getElem?_take] at hm
      split at hm
      · rename_i hlt
        obtain ⟨task, phase⟩ := job
        cases phase with
        | waiting => exact Nat.find_min hwaiting hlt ⟨task, hm⟩
        | _ => cases hphase
      · cases hm
    have hone : 0 < r.unfinished :=
      List.countP_pos_iff.2 ⟨_, List.mem_of_getElem? hi, rfl⟩
    rw [hbusy, hearlier, decide_eq_true_eq]
    obtain hzero | ⟨-, henough⟩ := hr
    · omega
    · have hn' := henough n hn
      omega

/-- **As long as some task is not finished, some worker can take a step.** -/
theorem Reached.exists_step (h : Reached (fresh workers w targets) r log) {job : Job ω τ}
    (hjob : job ∈ r.jobs) (hopen : job.phase.isFinished = false) : ∃ entry s, Step r entry s := by
  by_cases hacting : ∃ (i : Nat) (task : Task ω τ) (rest : Action ω τ),
      r.jobs[i]? = some ⟨task, .acting rest⟩
  · -- Who holds a lock waits for nobody.
    obtain ⟨i, task, rest, hi⟩ := hacting
    cases rest with
    | finish ending => exact ⟨_, _, .stop hi⟩
    | step change next => exact ⟨_, _, .advance hi⟩
  · -- Otherwise no target is locked, so that a busy worker can go on, and an idle one can pick up.
    have hunlocked : ∀ k, r.isLocked k = false := fun k =>
      isLocked_eq_false_iff.2 fun i task rest hi => absurd ⟨i, task, rest, hi⟩ hacting
    by_cases hbusy : ∃ job ∈ r.jobs, job.phase.isBusy = true
    · obtain ⟨⟨task, phase⟩, hmem, hphase⟩ := hbusy
      obtain ⟨i, hi⟩ := List.getElem?_of_mem hmem
      cases phase with
      | waiting => cases hphase
      | pickedUp => exact ⟨_, _, .lock hi (hunlocked _)⟩
      | acting rest => exact absurd ⟨i, task, rest, hi⟩ hacting
      | acted ending => exact ⟨_, _, .report hi fun _ _ => hunlocked _⟩
      | reported last => exact ⟨_, _, .finish hi⟩
      | finished last => cases hphase
    · have hidle : ∀ job ∈ r.jobs, job.phase.isBusy = false := fun job hmem =>
        Bool.eq_false_iff.2 fun hphase => hbusy ⟨job, hmem, hphase⟩
      obtain ⟨i, hi⟩ := List.getElem?_of_mem hjob
      obtain ⟨task, phase⟩ := job
      cases phase with
      | waiting => exact h.staffed.exists_pickUp hi hidle
      | finished last => cases hopen
      | _ => cases hidle _ hjob

/-- **Every course of events can be brought to an end** in which all tasks are finished, by steps of
the workers alone. -/
theorem Reached.exists_run_finished (h : Reached (fresh workers w targets) r log) :
    ∃ s log', Run r s ∧ Reached (fresh workers w targets) s log' ∧
      ∀ job ∈ s.jobs, job.phase.isFinished = true := by
  induction r using wellFounded_step.induction generalizing log with
  | _ r ih =>
    by_cases hopen : ∃ job ∈ r.jobs, job.phase.isFinished = false
    · obtain ⟨job, hmem, hphase⟩ := hopen
      obtain ⟨entry, s, hstep⟩ := h.exists_step hmem hphase
      obtain ⟨move, hmove⟩ := exists_move?_iff.2 (.inl ⟨entry, hstep⟩)
      obtain ⟨t, log', hrun, hreached, hall⟩ := ih s ⟨entry, hstep⟩ (h.next (.step hstep))
      exact ⟨t, log', (Run.tail move (.refl r) hmove).trans hrun, hreached, hall⟩
    · refine ⟨r, log, .refl r, h, fun job hmem => ?_⟩
      rw [← Bool.not_eq_false]
      exact fun hphase => hopen ⟨job, hmem, hphase⟩

end Runner

end DocStore
