import DocStore.Proofs.Client.Access
import DocStore.Proofs.Client.Sent
import DocStore.Proofs.Success

/-!
# How many requests an operation sends

Nothing is sent twice: an operation sends one request, or none if it fails with an error that is
found on the spot (`Error.isLocal`).  No error is of both kinds, so that the result of a call tells
how many requests it has sent (`Call.Costs`).

* `Call.Costs.of_run` : a run adds as many requests to those sent before as its result tells;
* `Client.Answer.length_sentRequests` : sending a request costs one, unless its URL cannot be read;
* `Client.costs_access`, `Client.costs_find`, `Client.costs_logIn` and so on : so does every
  operation, unless it finds that something is missing.
-/

namespace DocStore

/-- Whether an error is found before anything is sent. -/
def Error.isLocal : Error → Bool
  | missingObjectId | missingField _ | url _ => true
  | _ => false

/-- The number of requests that have been sent when a result comes: none for an error that was found
before, and else one. -/
def requestsFor {ε α : Type} (isLocal : ε → Bool) : Except ε α → Nat
  | .error e => if isLocal e then 0 else 1
  | .ok _ => 1

namespace Call

variable {α β : Type}

/-- However a call goes, its result tells how many requests it has sent. -/
def Costs (cost : α → Nat) (call : Call α) : Prop :=
  ∀ ⦃events : List CallEvent⦄ ⦃x : α⦄, Trace call events x → (sentRequests events).length = cost x

theorem costs_done {cost : α → Nat} {x : α} (h : cost x = 0) : Costs cost (.done x) := by
  intro events y htrace
  obtain ⟨rfl, rfl⟩ := trace_done.1 htrace
  exact h.symm

/-- What is made of a result afterwards costs nothing. -/
theorem Costs.map {cost : α → Nat} {cost' : β → Nat} {call : Call α} (h : Costs cost call)
    {f : α → β} (hf : ∀ x, cost' (f x) = cost x) : Costs cost' (call.bind fun x => .done (f x)) := by
  intro events y htrace
  obtain ⟨first, x, second, rfl, hfirst, hsecond⟩ := trace_bind.1 htrace
  obtain ⟨rfl, rfl⟩ := trace_done.1 hsecond
  rw [List.append_nil, hf]
  exact h hfirst

/-- The requests that a run adds to those sent before are as many as its result tells. -/
theorem Costs.of_run {σ : Type} {cost : α → Nat} {call : Call α} (h : Costs cost call)
    {serve : Server σ} {w w' : World σ} {x : α} (hrun : call.run serve w = (x, w')) :
    ∃ requests, w'.sent = w.sent ++ requests ∧ requests.length = cost x := by
  obtain ⟨events, htrace, hplays⟩ := run_eq_iff.1 hrun
  exact ⟨sentRequests events, hplays.sent, h htrace⟩

end Call

namespace Client

open Call

variable {τ : Type} {c : Config} {request : Api.Request} {events : List CallEvent}

/-! ### One request -/

/-- A request is refused only for its URL. -/
theorem isLocal_of_resolve {active : Option String} {e : Error}
    (h : request.resolve c active = .error e) : e.isLocal = true := by
  unfold Api.Request.resolve Config.resourceUrl Config.checkUrl at h
  split at h <;> cases h
  rfl

/-- No error that a response stands for is one that is found before. -/
theorem isLocal_of_interpret {response : Http.Response} {e : Error}
    (h : Api.interpret response = .error e) : e.isLocal = false := by
  -- Every branch that fails builds its error from the status and the body.
  unfold Api.interpret at h
  repeat' split at h
  all_goals first | cases h; rfl | cases h

theorem isLocal_of_replyOf {delivery : Delivery} {e : Error}
    (h : replyOf delivery = .error e) : e.isLocal = false := by
  cases delivery with
  | error e => cases h; rfl
  | ok response => exact isLocal_of_interpret h

/-- To send a request costs one, unless it is refused. -/
theorem Answer.length_sentRequests {answer : Except Error Json}
    (h : Answer c request events answer) :
    (sentRequests events).length = requestsFor Error.isLocal answer := by
  cases h with
  | refused hresolve =>
    rw [requestsFor, isLocal_of_resolve hresolve]
    rfl
  | delivered _ delivery =>
    change 1 = requestsFor Error.isLocal (replyOf delivery)
    cases hreply : replyOf delivery with
    | error e =>
      rw [requestsFor, isLocal_of_replyOf hreply]
      rfl
    | ok reply => rfl

/-- What an operation costs, by the outcome with which it ends. -/
def costOf (x : Outcome × τ) : Nat := requestsFor Error.isLocal x.1

theorem costs_execute (request : Api.Request) :
    Costs (requestsFor Error.isLocal) (execute c request) :=
  fun _ _ htrace => (trace_execute.1 htrace).length_sentRequests

/-! ### Operations on objects -/

/-- A reply that cannot be taken in has been sent for. -/
theorem Exchanged.length_sentRequests {target : τ} {receive : Json → Except Error τ}
    {x : Outcome × τ} (hreceive : ∀ {reply e}, receive reply = .error e → e.isLocal = false)
    (h : Exchanged c request target receive events x) :
    (sentRequests events).length = costOf x := by
  cases h with
  | failed h => exact h.length_sentRequests
  | unusable h herror =>
    rw [h.length_sentRequests, costOf, requestsFor, requestsFor, hreceive herror]
    rfl
  | received h => exact h.length_sentRequests

theorem isLocal_of_receive {q : Query} {reply : Json} {e : Error}
    (h : q.receive reply = .error e) : e.isLocal = false := by
  unfold Query.receive at h
  split at h <;> cases h
  rfl

theorem costs_find (q : Query) : Costs costOf (find c q) :=
  fun _ _ htrace => (trace_exchange.1 htrace).length_sentRequests isLocal_of_receive

/-- An operation on a record needs its id, or else costs one request. -/
theorem costs_access [Stored τ] (access : Access) (target : τ) :
    Costs costOf (access.operation c target) := by
  intro events x htrace
  rw [Access.trace_iff] at htrace
  cases hrequest : access.request? (Stored.record target) with
  | none =>
    rw [hrequest] at htrace
    obtain ⟨rfl, rfl⟩ := htrace
    rfl
  | some request =>
    rw [hrequest] at htrace
    -- Whatever comes back is laid over the record, or not looked at: it is never refused.
    refine htrace.length_sentRequests fun herror => ?_
    cases access <;> cases herror

/-! ### Accounts -/

/-- The only thing that credentials can lack is a text. -/
theorem isLocal_of_credentials {u : User} {e : Error} (h : credentials u = .error e) :
    e.isLocal = true := by
  have hrequire : ∀ {key e}, u.require key = .error e → e.isLocal = true := by
    intro key e h
    unfold User.require at h
    repeat' split at h
    all_goals cases h
    all_goals rfl
  obtain h | ⟨_, -, h⟩ := bind_eq_error_iff.1 h
  · exact hrequire h
  · obtain h | ⟨_, -, h⟩ := bind_eq_error_iff.1 h
    · exact hrequire h
    · cases h

/-- Who starts a session has sent for it. -/
theorem Attempted.length_sentRequests {u : User} {x : Outcome × User}
    (h : Attempted c request u events x) : (sentRequests events).length = costOf x := by
  cases h with
  | failed h => exact h.length_sentRequests
  | succeeded h =>
    rw [sentRequests_append, sentRequests_captures, List.append_nil]
    exact h.length_sentRequests

theorem Submitted.length_sentRequests {request : String → String → Api.Request} {u : User}
    {x : Outcome × User} (h : Submitted c request u events x) :
    (sentRequests events).length = costOf x := by
  cases h with
  | refused h =>
    rw [costOf, requestsFor, isLocal_of_credentials h]
    rfl
  | attempted _ h => exact h.length_sentRequests

theorem costs_logIn (u : User) : Costs costOf (logIn c u) :=
  fun _ _ htrace => (trace_logIn.1 htrace).length_sentRequests

theorem costs_signUp (u : User) : Costs costOf (signUp c u) :=
  fun _ _ htrace => (trace_signUp.1 htrace).length_sentRequests

theorem costs_login (username password : String) :
    Costs (requestsFor Error.isLocal) (login c username password) := by
  refine (costs_logIn _).map fun x => ?_
  obtain ⟨outcome, u⟩ := x
  cases outcome <;> rfl

theorem costs_validate (token : String) : Costs (requestsFor Error.isLocal) (validate c token) := by
  intro events x htrace
  cases trace_validate.1 htrace with
  | missing => rfl
  | failed _ h => exact h.length_sentRequests
  | succeeded _ h =>
    rw [sentRequests_append, sentRequests_captures, List.append_nil]
    exact h.length_sentRequests

theorem costs_requestPasswordReset (email : String) :
    Costs (requestsFor Error.isLocal) (requestPasswordReset c email) := by
  intro events x htrace
  obtain ⟨-, rfl, rfl⟩ | ⟨-, answer, h, rfl⟩ := trace_requestPasswordReset.1 htrace
  · rfl
  · rw [h.length_sentRequests]
    cases answer <;> rfl

theorem costs_resetPassword (u : User) : Costs costOf (resetPassword c u) :=
  (costs_requestPasswordReset (u.email?.getD "")).map fun _ => rfl

end Client

end DocStore
