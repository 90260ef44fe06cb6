import DocStore.Client.Object

/-!
# Actions of background tasks

An `Action` is what a task does to its target: steps that change the target and the surroundings, and
an `Ending`. The target is locked from the first step to the ending, so that other tasks can come
between two steps but cannot touch it.

`Action.ofOperation` is the action of a client's operation, one step for each step of its call.
-/

namespace DocStore

/-- How an action ends. -/
inductive Ending where
  | completed
  | failed (error : Error)
  /-- The action broke off. -/
  | panicked
deriving Repr, BEq

/-- The ending of an operation. -/
def Ending.ofOutcome : Outcome → Ending
  | .ok () => .completed
  | .error e => .failed e

/-- The outcome that is reported, unless the action broke off. -/
def Ending.outcome? : Ending → Option Outcome
  | completed => some (.ok ())
  | failed e => some (.error e)
  | panicked => none

/-- What a task does to a target of type `τ` in surroundings of type `ω`. -/
inductive Action (ω τ : Type) where
  | finish (ending : Ending)
  /-- Change surroundings and target; what follows depends on what they were before. -/
  | step (change : ω → τ → ω × τ) (next : ω → τ → Action ω τ)

namespace Action

variable {ω τ σ : Type}

/-- The whole action, undivided: its ending, and surroundings and target after it. -/
def run : Action ω τ → ω → τ → Ending × ω × τ
  | finish ending, w, t => (ending, w, t)
  | step change next, w, t => run (next w t) (change w t).1 (change w t).2

/-- The action of a call that gives back the target. -/
def ofCall (serve : Server σ) : Call (Outcome × τ) → Action (World σ) τ
  | .done (outcome, target) => step (fun w _ => (w, target)) fun _ _ => finish (.ofOutcome outcome)
  | .readToken next =>
    step (fun w t => (w, t)) fun w _ => ofCall serve (next w.session.token)
  | .readUser next => step (fun w t => (w, t)) fun w _ => ofCall serve (next w.session.user)
  | .changeSession change next =>
    step (fun w t => (w.changeSession change, t)) fun _ _ => ofCall serve next
  | .send request next =>
    step (fun w t => ((w.send serve request).2, t)) fun w _ =>
      ofCall serve (next (w.send serve request).1)

/-- The action of an operation on the target as it is when the action starts. -/
def ofOperation (serve : Server σ) (operation : Operation τ) : Action (World σ) τ :=
  step (fun w t => (w, t)) fun _ t => ofCall serve (operation t)

/-- Undivided, the action of a call leaves the world and the target that a run of the call does. -/
theorem run_ofCall (serve : Server σ) (call : Call (Outcome × τ)) (w : World σ) (t : τ) :
    (ofCall serve call).run w t =
      (.ofOutcome (call.run serve w).1.1, (call.run serve w).2, (call.run serve w).1.2) := by
  induction call generalizing w with
  | done result => rfl
  | readToken next ih => exact ih _ w
  | readUser next ih => exact ih _ w
  | changeSession change next ih => exact ih _
  | send request next ih => exact ih _ _

end Action

end DocStore
