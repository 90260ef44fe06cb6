import DocStore.Client.Account
import DocStore.Task.Runner

/-!
# Operations in the background

An operation can be made a task on a shared target, and its outcome is then reported to a callback.
Several runs of one operation on one target follow one after the other in `Client.inBackground`.
-/

namespace DocStore.Client

variable {σ τ : Type}

/-- The task that performs an operation on the first target. -/
def task (serve : Server σ) (operation : Operation τ) (callback : Option Callback) :
    Task (World σ) τ :=
  { target := 0, action := .ofOperation serve operation, callback }

/-- Run an operation on a target a number of times, each time to its end. -/
def inBackground (serve : Server σ) (c : Config) (operation : Operation τ)
    (callback : Option Callback) (times : Nat) (w : World σ) (target : τ) : Runner (World σ) τ :=
  Runner.runEach { workers := c.workers, surroundings := w, targets := fun _ => target }
    (List.replicate times (task serve operation callback))

end DocStore.Client
