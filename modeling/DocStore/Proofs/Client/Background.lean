import DocStore.Client.Background
import DocStore.Proofs.Client.Access
import DocStore.Proofs.Client.Session
import DocStore.Proofs.Record.Merge
import DocStore.Proofs.Task.Outlook

/-!
# What is done in the background

An operation that is run in the background with nothing else running does what it does when the caller
waits for it.

* `Client.Finished` : a background operation has come to its end with a result;
* `Client.EndsWith` : so it does in every runner that is idle, whatever moves the workers make;
* `Client.endsWith_run` : **every operation** ends with the result of its run;
* `Client.background_is_blocking_twin` : so do the eight that are offered in the background, two of
  which get their target from what the caller gives instead: a login is given a name and a password,
  and a password reset an address.

How the task gets through the runner is `Runner.Run.eq_carryOut`.
-/

namespace DocStore

namespace Runner

variable {ω τ : Type} {r s : Runner ω τ} {task : Task ω τ} {workers : Option Nat} {w : ω}
  {targets : Nat → τ} {log : Log ω τ}

/-- A runner that takes tasks, and all that have been submitted to it are finished. -/
structure IsIdle (r : Runner ω τ) : Prop where
  reached : ∃ workers w targets log, Reached (fresh workers w targets) r log
  isOpen : r.isClosed = false
  isDone : r.IsDone

theorem isIdle_fresh (workers : Option Nat) (w : ω) (targets : Nat → τ) :
    (fresh workers w targets).IsIdle :=
  ⟨⟨workers, w, targets, [], .start⟩, rfl, fun _ hjob => nomatch hjob⟩

/-- A task that is submitted to an idle runner comes to its end. -/
theorem IsIdle.exists_run (h : r.IsIdle) (task : Task ω τ) :
    ∃ s, Run (r.submit task) s ∧ s.IsDone := by
  obtain ⟨workers, w, targets, log, hreached⟩ := h.reached
  obtain ⟨s, -, hrun, -, hdone⟩ := (hreached.next (.submit task h.isOpen)).exists_run_finished
  exact ⟨s, hrun, hdone⟩

end Runner

namespace Client

open Runner

variable {σ τ : Type} {serve : Server σ}

/-- The state in which a task with this callback ends after its operation. -/
def stateAfter (callback : Option Callback) (outcome : Outcome) : TaskState :=
  match callback, outcome with
  | some .panics, _ => .failed "task panicked"
  | _, .ok () => .completed
  | _, .error e => .failed e.message

/-- From `r` to `s` an operation was done in the background on one of the targets, with this result:
outcome and target, and the world. -/
structure Finished (r s : Runner (World σ) τ) (place : Nat) (callback : Option Callback)
    (result : (Outcome × τ) × World σ) : Prop where
  target : s.targets place = result.1.2
  others : ∀ k, k ≠ place → s.targets k = r.targets k
  world : s.surroundings = result.2
  /-- The callback is called once, with the outcome and the target. -/
  calls : s.events = r.events ++
    callback.toList.map fun _ => ⟨r.jobs.length, result.1.1, result.1.2⟩
  states : s.states = r.states ++ [stateAfter callback result.1.1]

/-- In the background an operation ends with this result, on this target and in this world and with
nothing else running: in every idle runner it comes to its end, and it is the same end whatever
moves the workers make. -/
def EndsWith (serve : Server σ) (operation : Operation τ) (t : τ) (w : World σ)
    (result : (Outcome × τ) × World σ) : Prop :=
  ∀ (r : Runner (World σ) τ) (place : Nat) (callback : Option Callback),
    r.IsIdle → r.surroundings = w → r.targets place = t →
      let submitted := r.submit { task serve operation callback with target := place }
      Acc (fun s r : Runner (World σ) τ => ∃ entry, Step r entry s) submitted ∧
      (∃ s, Run submitted s ∧ s.IsDone) ∧
      ∀ s, Run submitted s → s.IsDone → Finished r s place callback result

theorem lastState_ofOutcome (task : Task (World σ) τ) (outcome : Outcome) :
    lastState task (.ofOutcome outcome) = stateAfter task.callback outcome := by
  obtain ⟨target, action, callback, looks⟩ := task
  cases outcome <;> rcases callback with _ | _ | _ <;> rfl

theorem eventOf_ofOutcome (r : Runner (World σ) τ) (i : Nat) (task : Task (World σ) τ)
    (outcome : Outcome) :
    r.eventOf i task (.ofOutcome outcome) =
      task.callback.toList.map fun _ => ⟨i, outcome, r.targets task.target⟩ := by
  obtain ⟨target, action, callback, looks⟩ := task
  cases outcome <;> cases callback <;> rfl

/-- **Every operation** ends in the background with the result of its run. -/
theorem endsWith_run (serve : Server σ) (operation : Operation τ) (t : τ) (w : World σ) :
    EndsWith serve operation t w ((operation t).run serve w) := by
  intro r place callback hidle hw ht
  subst hw ht
  refine ⟨wellFounded_step.apply _, hidle.exists_run _, fun s hrun hdone => ?_⟩
  let submitted : Task (World σ) τ := { task serve operation callback with target := place }
  have haction : submitted.action.run r.surroundings (r.targets submitted.target) = _ :=
    Action.run_ofCall serve (operation (r.targets place)) r.surroundings (r.targets place)
  have hcarried := hrun.eq_carryOut hidle.isDone hdone
  rw [carryOut_eq haction, lastState_ofOutcome, eventOf_ofOutcome, targets_setTarget_self] at hcarried
  obtain ⟨hstates, htargets, hevents, hworld⟩ := eq_of_unpooled_eq hcarried
  have htarget : ∀ k, s.targets k = _ := congrFun htargets
  exact {
    target := (htarget place).trans (if_pos rfl)
    others := fun k hk => (htarget k).trans (if_neg hk)
    world := hworld
    calls := hevents
    states := hstates.trans List.map_append }

/-- A user who is given an address has it. -/
theorem email?_setEmail (u : User) (email : String) : (u.setEmail email).email? = some email := by
  have hget := Record.get?_setAttribute u.record "email" "email" (.string email)
  rw [if_pos rfl] at hget
  exact congrArg (fun value => Option.bind value Json.asString?) hget

/-- To log in with a name and a password is to log a user in who has these. -/
theorem run_login (serve : Server σ) (c : Config) (username password : String) (w : World σ) :
    (login c username password).run serve w =
      (((logIn c (.ofCredentials username password)).run serve w).1.1.map fun _ =>
          ((logIn c (.ofCredentials username password)).run serve w).1.2,
        ((logIn c (.ofCredentials username password)).run serve w).2) :=
  Call.run_bind ..

/-- To have a link mailed to the address of a user leaves the user as it is. -/
theorem run_resetPassword (serve : Server σ) (c : Config) (u : User) (w : World σ) :
    (resetPassword c u).run serve w =
      ((((requestPasswordReset c (u.email?.getD "")).run serve w).1, u),
        ((requestPasswordReset c (u.email?.getD "")).run serve w).2) :=
  Call.run_bind ..

/-- **What is done in the background is what the caller can wait for.**  In every world, with every
configuration and however the server answers, an operation in the background with nothing else running
comes to the one end that its blocking form has: the same target, session, server and
requests, the same outcome for the callback and the state of the task, and all other targets as they
were.  This goes for

* saving, fetching, refreshing, updating and deleting any target that is stored as a record;
* signing up any user;
* logging in with a name and a password, on a user who has these; what the caller who waits gets is that
  user, if there was no error;
* having a link mailed to an address, on a user who holds only this. -/
theorem background_is_blocking_twin (serve : Server σ) (c : Config) (w : World σ) :
    (∀ {τ : Type} [Stored τ] (access : Access) (t : τ),
      EndsWith serve (access.operation c) t w ((access.operation c t).run serve w)) ∧
    (∀ u : User, EndsWith serve (signUp c) u w ((signUp c u).run serve w)) ∧
    (∀ username password : String, ∃ (outcome : Outcome) (u : User) (w' : World σ),
      (logIn c (.ofCredentials username password)).run serve w = ((outcome, u), w') ∧
      (login c username password).run serve w = (outcome.map fun _ => u, w') ∧
      EndsWith serve (logIn c) (.ofCredentials username password) w ((outcome, u), w')) ∧
    ∀ email : String, ∃ (outcome : Outcome) (w' : World σ),
      (requestPasswordReset c email).run serve w = (outcome, w') ∧
      EndsWith serve (resetPassword c) (User.setEmail {} email) w
        ((outcome, User.setEmail {} email), w') := by
  refine ⟨fun access t => endsWith_run serve _ t w, fun u => endsWith_run serve _ u w,
    fun username password => ⟨_, _, _, rfl, run_login .., endsWith_run serve _ _ w⟩,
    fun email => ⟨_, _, rfl, ?_⟩⟩
  have hend := endsWith_run serve (resetPassword c) (User.setEmail {} email) w
  rwa [run_resetPassword, email?_setEmail] at hend

theorem background_is_blocking_twin_login :
    let serve := answering (.object [("objectId", .string "u1"), ("sessionToken", .string "r:1")])
    let w : World Unit := { server := () }
    let r := fresh (some 1) w fun _ => User.ofCredentials "ann" "secret"
    ∃ u w' s, (login {} "ann" "secret").run serve w = (.ok u, w') ∧
      Run (r.submit (task serve (logIn {}) (some .returns))) s ∧ s.IsDone ∧
      s.targets 0 = u ∧ s.surroundings = w' ∧ s.events.map Event.seen = [u] ∧
      s.states = [.completed] := by
  intro serve w r
  have hok : ((login {} "ann" "secret").run serve w).1.isOk = true := by decide +kernel
  obtain ⟨-, -, hlogin, -⟩ := background_is_blocking_twin serve {} w
  obtain ⟨outcome, u, w', -, hrun, hend⟩ := hlogin "ann" "secret"
  rw [hrun] at hok
  obtain e | ⟨⟩ := outcome
  · cases hok
  · obtain ⟨-, ⟨s, hs, hdone⟩, hfinished⟩ :=
      hend r 0 (some .returns) (isIdle_fresh (some 1) w _) rfl rfl
    have hend := hfinished s hs hdone
    exact ⟨u, w', s, hrun, hs, hdone, hend.target, hend.world,
      congrArg (List.map Event.seen) hend.calls, hend.states⟩

end Client

end DocStore
