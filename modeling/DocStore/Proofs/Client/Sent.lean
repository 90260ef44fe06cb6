import DocStore.Proofs.Api.Request
import DocStore.Proofs.Client.Operation

/-!
# What the operations of a client send

Every operation hands at most one request to the server, and it is bound to the token that was
active at the first step of the operation (`Client.Sends`).  Which request it is, is said here once
for each operation (`trace_save`, `sends_logIn` and so on); what holds of the headers or of the body
of that request then holds of everything that is sent.

* `World.Plays.sent` : a world has sent what it had sent before, and the requests among the events;
* `Client.Sends.of_run` : the requests that a run adds to those sent before are bound to the token
  that was active when it started.
-/

namespace DocStore

/-- The request that an event hands to the server, if it does. -/
def CallEvent.request? : CallEvent → Option Http.Request
  | .send request _ => some request
  | _ => none

/-- The requests among events. -/
def sentRequests (events : List CallEvent) : List Http.Request :=
  events.filterMap CallEvent.request?

theorem sentRequests_append (first second : List CallEvent) :
    sentRequests (first ++ second) = sentRequests first ++ sentRequests second :=
  List.filterMap_append

/-- One request, if nothing is sent after it. -/
theorem sentRequests_once {active : Option String} {http : Http.Request} {delivery : Delivery}
    {rest : List CallEvent} (hrest : sentRequests rest = []) :
    sentRequests (.readToken active :: .send http delivery :: rest) = [http] := by
  have hcons : sentRequests (.readToken active :: .send http delivery :: rest) =
      http :: sentRequests rest := rfl
  rw [hcons, hrest]

namespace World

variable {σ : Type} {serve : Server σ} {w w' : World σ}

theorem Shows.sent {event : CallEvent} (h : w.Shows serve event w') :
    w'.sent = w.sent ++ sentRequests [event] := by
  cases event with
  | readToken token => rw [h.2]; exact (List.append_nil _).symm
  | readUser user => rw [h.2]; exact (List.append_nil _).symm
  | changeSession change =>
    rw [show w' = w.changeSession change from h]
    exact (List.append_nil _).symm
  | send request delivery =>
    have hw : w' = (w.send serve request).2 := congrArg Prod.snd h.symm
    rw [hw]
    rfl

/-- Nothing but the requests among the events is sent. -/
theorem Plays.sent {events : List CallEvent} (h : w.Plays serve events w') :
    w'.sent = w.sent ++ sentRequests events := by
  induction h with
  | nil => exact (List.append_nil _).symm
  | @cons w w' w'' event events h _ ih =>
    rw [ih, h.sent, List.append_assoc, ← sentRequests_append, List.singleton_append]

end World

namespace Client

open Call

variable {τ : Type} {c : Config} {request : Api.Request} {events : List CallEvent}

/-- The events hand at most one request to the server: a certain one, bound to the token that was
read at the first step. -/
inductive Sends (c : Config) (request : Api.Request) : List CallEvent → Prop
  | nothing {events : List CallEvent} (h : sentRequests events = []) : Sends c request events
  | once {active : Option String} {http : Http.Request} {rest : List CallEvent}
      (h : request.resolve c active = .ok http) (delivery : Delivery)
      (hrest : sentRequests rest = []) :
      Sends c request (.readToken active :: .send http delivery :: rest)

/-- Events that hand over nothing may follow. -/
theorem Sends.append (h : Sends c request events) {rest : List CallEvent}
    (hrest : sentRequests rest = []) : Sends c request (events ++ rest) := by
  cases h with
  | nothing h => exact .nothing (by rw [sentRequests_append, h, hrest]; rfl)
  | @once _ _ after h delivery hquiet =>
    have hafter : sentRequests (after ++ rest) = [] := by
      rw [sentRequests_append, hquiet, hrest]
      rfl
    exact .once h delivery hafter

/-- Whatever is handed over is the message of the request. -/
theorem Sends.eq_message {http : Http.Request} (h : Sends c request events)
    (hhttp : http ∈ sentRequests events) : ∃ active, http = request.message c active := by
  cases h with
  | nothing h =>
    rw [h] at hhttp
    cases hhttp
  | @once active http' _ h delivery hrest =>
    rw [sentRequests_once hrest, List.mem_singleton] at hhttp
    exact ⟨active, hhttp.trans (Api.Request.resolve_eq_ok_iff.1 h).2⟩

/-- What a run adds to the requests sent before is the one request, bound to the token that was
active when the run started. -/
theorem Sends.of_plays {σ : Type} {serve : Server σ} {w w' : World σ}
    (h : Sends c request events) (hplays : w.Plays serve events w') :
    w'.sent = w.sent ∨
      ∃ http, request.resolve c w.session.token = .ok http ∧ w'.sent = w.sent ++ [http] := by
  have hsent := hplays.sent
  cases h with
  | nothing h => exact .inl (by rw [hsent, h, List.append_nil])
  | @once active http rest h delivery hrest =>
    cases hplays with
    | cons hshows _ =>
      obtain ⟨rfl, -⟩ := hshows
      exact .inr ⟨http, h, by rw [hsent, sentRequests_once hrest]⟩

theorem Sends.of_run {α σ : Type} {call : Call α} {serve : Server σ} {w w' : World σ} {x : α}
    (h : ∀ {events x}, Trace call events x → Sends c request events)
    (hrun : call.run serve w = (x, w')) :
    w'.sent = w.sent ∨
      ∃ http, request.resolve c w.session.token = .ok http ∧ w'.sent = w.sent ++ [http] := by
  obtain ⟨events, htrace, hplays⟩ := run_eq_iff.1 hrun
  exact (h htrace).of_plays hplays

/-! ### The request of each operation -/

theorem Answer.sends {answer : Except Error Json} (h : Answer c request events answer) :
    Sends c request events := by
  cases h with
  | refused => exact .nothing rfl
  | delivered h delivery => exact .once h delivery rfl

/-- A request whose URL can be read is sent. -/
theorem Answer.sentRequests_eq {answer : Except Error Json} (h : Answer c request events answer)
    (hurl : Config.checkUrl (c.resourceText request.path) = .ok ()) :
    ∃ active, sentRequests events = [request.message c active] := by
  cases h with
  | @refused active e hresolve =>
    cases (Api.Request.resolve_eq_ok_iff.2 ⟨hurl, rfl⟩).symm.trans hresolve
  | @delivered active http hresolve delivery =>
    obtain ⟨-, rfl⟩ := Api.Request.resolve_eq_ok_iff.1 hresolve
    exact ⟨active, rfl⟩

theorem Exchanged.exists_answer {target : τ} {receive : Json → Except Error τ} {x : Outcome × τ}
    (h : Exchanged c request target receive events x) : ∃ answer, Answer c request events answer := by
  cases h with
  | failed h => exact ⟨_, h⟩
  | unusable h => exact ⟨_, h⟩
  | received h => exact ⟨_, h⟩

theorem Exchanged.sentRequests_eq {target : τ} {receive : Json → Except Error τ} {x : Outcome × τ}
    (h : Exchanged c request target receive events x)
    (hurl : Config.checkUrl (c.resourceText request.path) = .ok ()) :
    ∃ active, sentRequests events = [request.message c active] := by
  obtain ⟨_, hanswer⟩ := h.exists_answer
  exact hanswer.sentRequests_eq hurl

theorem sends_exchange {target : τ} {receive : Json → Except Error τ} {x : Outcome × τ}
    (htrace : Trace (exchange c request target receive) events x) : Sends c request events := by
  obtain ⟨_, hanswer⟩ := (trace_exchange.1 htrace).exists_answer
  exact hanswer.sends

theorem sends_save [Stored τ] {target : τ} {x : Outcome × τ}
    (htrace : Trace (save c target) events x) :
    Sends c (saveRequest (Stored.record target)) events :=
  sends_exchange htrace

/-- An operation on a saved target sends the request for its path, and nothing without one. -/
theorem sends_onSaved [Stored τ] {request : String → τ → Api.Request}
    {receive : τ → Json → Except Error τ} {target : τ} {x : Outcome × τ}
    (h : Trace (onSaved (fun path target =>
      exchange c (request path target) target (receive target)) target) events x) :
    ∃ path, Sends c (request path target) events := by
  obtain ⟨path, -, h⟩ | ⟨-, rfl, -⟩ := trace_onSaved.1 h
  · exact ⟨path, sends_exchange h⟩
  · exact ⟨"", .nothing rfl⟩

theorem sentRequests_captures (u : User) : sentRequests (captures u) = [] := by
  unfold captures
  cases u.sessionToken? <;> rfl

theorem Submitted.sends {request : String → String → Api.Request} {u : User}
    {x : Outcome × User} (h : Submitted c request u events x) :
    ∃ username password, Sends c (request username password) events := by
  cases h with
  | refused => exact ⟨"", "", .nothing rfl⟩
  | @attempted username password _ _ _ h =>
    refine ⟨username, password, ?_⟩
    cases h with
    | failed h => exact h.sends
    | succeeded h => exact h.sends.append (sentRequests_captures _)

theorem sends_logIn {u : User} {x : Outcome × User} (h : Trace (logIn c u) events x) :
    ∃ username password, Sends c (loginRequest c username password) events :=
  (trace_logIn.1 h).sends

theorem sends_signUp {u : User} {x : Outcome × User} (h : Trace (signUp c u) events x) :
    Sends c (signUpRequest c u) events := by
  obtain ⟨_, _, h⟩ := (trace_signUp.1 h).sends
  exact h

theorem sends_login {username password : String} {x : Except Error User}
    (h : Trace (login c username password) events x) :
    ∃ username password, Sends c (loginRequest c username password) events := by
  obtain ⟨_, _, h, -⟩ := trace_login.1 h
  exact sends_logIn h

theorem sends_validate {token : String} {x : Except Error User}
    (htrace : Trace (validate c token) events x) : Sends c (validateRequest token) events := by
  cases trace_validate.1 htrace with
  | missing => exact .nothing rfl
  | failed _ h => exact h.sends
  | succeeded _ h => exact h.sends.append (sentRequests_captures _)

theorem sends_requestPasswordReset {email : String} {x : Outcome}
    (h : Trace (requestPasswordReset c email) events x) :
    Sends c (passwordResetRequest email) events := by
  obtain ⟨-, rfl, -⟩ | ⟨-, _, h, -⟩ := trace_requestPasswordReset.1 h
  · exact .nothing rfl
  · exact h.sends

theorem sends_resetPassword {u : User} {x : Outcome × User}
    (htrace : Trace (resetPassword c u) events x) :
    Sends c (passwordResetRequest (u.email?.getD "")) events := by
  simp only [resetPassword, bind_eq] at htrace
  obtain ⟨first, _, second, rfl, h, hdone⟩ := trace_bind.1 htrace
  obtain ⟨rfl, -⟩ := trace_done.1 hdone
  exact (sends_requestPasswordReset h).append rfl

end Client

end DocStore
