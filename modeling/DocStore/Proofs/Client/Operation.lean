import DocStore.Client.Account
import DocStore.Proofs.Client.Trace

/-!
# What the operations of a client do

One description for each operation: the events that it may show and the result it ends with.

* `Client.Answer` : sending one request.  The active token is read, and the request is either
  refused before it is sent or sent once;
* `Client.Exchanged` : sending a request for a target, which changes only if the reply can be
  taken in;
* `Client.Attempted` and `Client.Submitted` : an attempt to log in or sign up, whose user loses
  the password however it ends;
* `Client.Validated` : the exchange of a token for its user.
-/

namespace DocStore.Client

open Call

/-! ### Sending a request -/

/-- The document or error that a delivery stands for. -/
def replyOf : Delivery → Except Error Json
  | .error e => .error (.transport e)
  | .ok response => Api.interpret response

/-- The events of sending a request, and the document or error that comes of it. -/
inductive Answer (c : Config) (request : Api.Request) : List CallEvent → Except Error Json → Prop
  | refused {active : Option String} {e : Error} (h : request.resolve c active = .error e) :
      Answer c request [.readToken active] (.error e)
  | delivered {active : Option String} {http : Http.Request}
      (h : request.resolve c active = .ok http) (delivery : Delivery) :
      Answer c request [.readToken active, .send http delivery] (replyOf delivery)

variable {τ : Type} {c : Config} {request : Api.Request} {events : List CallEvent}

theorem execute_eq (c : Config) (request : Api.Request) :
    execute c request = .readToken fun active =>
      match request.resolve c active with
      | .error e => .done (.error e)
      | .ok http => .send http fun delivery => .done (replyOf delivery) := by
  simp only [execute, Call.token, Call.request, bind_eq, pure_eq, Call.bind]
  refine congrArg Call.readToken (funext fun active => ?_)
  cases request.resolve c active with
  | error e => rfl
  | ok http =>
    refine congrArg (Call.send http) (funext fun delivery => ?_)
    cases delivery <;> rfl

theorem trace_execute {answer : Except Error Json} :
    Trace (execute c request) events answer ↔ Answer c request events answer := by
  rw [execute_eq, trace_readToken]
  constructor
  · rintro ⟨active, rest, rfl, h⟩
    cases hresolve : request.resolve c active with
    | error e =>
      simp only [hresolve, trace_done] at h
      obtain ⟨rfl, rfl⟩ := h
      exact .refused hresolve
    | ok http =>
      simp only [hresolve, trace_send, trace_done] at h
      obtain ⟨delivery, _, rfl, rfl, rfl⟩ := h
      exact .delivered hresolve delivery
  · intro h
    cases h with
    | refused h => exact ⟨_, _, rfl, by simp [h]⟩
    | delivered h delivery =>
      refine ⟨_, _, rfl, ?_⟩
      simp only [h]
      exact .send (.refl _)

/-- Sending a request leaves the session alone. -/
theorem Answer.sessionChanges_eq_nil {answer : Except Error Json}
    (h : Answer c request events answer) : sessionChanges events = [] := by
  cases h <;> rfl

/-- Exactly one request was sent, and a document came back. -/
def Answered (events : List CallEvent) (reply : Json) : Prop :=
  ∃ active http response, events = [.readToken active, .send http (.ok response)] ∧
    Api.interpret response = .ok reply

theorem Answer.answered {reply : Json} (h : Answer c request events (.ok reply)) :
    Answered events reply := by
  -- The document is generalized, since `replyOf delivery` is not a constructor.
  generalize hanswer : Except.ok reply = answer at h
  cases h with
  | refused => cases hanswer
  | delivered _ delivery =>
    cases delivery with
    | error e => cases hanswer
    | ok response => exact ⟨_, _, response, rfl, hanswer.symm⟩

/-! ### Operations on objects -/

/-- The events of sending a request for a target, the outcome and the target after it. -/
inductive Exchanged (c : Config) (request : Api.Request) (target : τ)
    (receive : Json → Except Error τ) : List CallEvent → Outcome × τ → Prop
  | failed {events : List CallEvent} {e : Error} (h : Answer c request events (.error e)) :
      Exchanged c request target receive events (.error e, target)
  | unusable {events : List CallEvent} {reply : Json} {e : Error}
      (h : Answer c request events (.ok reply)) (hreceive : receive reply = .error e) :
      Exchanged c request target receive events (.error e, target)
  | received {events : List CallEvent} {reply : Json} {target' : τ}
      (h : Answer c request events (.ok reply)) (hreceive : receive reply = .ok target') :
      Exchanged c request target receive events (.ok (), target')

theorem trace_exchange {target : τ} {receive : Json → Except Error τ} {x : Outcome × τ} :
    Trace (exchange c request target receive) events x ↔
      Exchanged c request target receive events x := by
  simp only [exchange, bind_eq, trace_bind, trace_execute]
  constructor
  · rintro ⟨first, answer, second, rfl, h, hrest⟩
    cases answer with
    | error e =>
      obtain ⟨rfl, rfl⟩ := trace_done.1 hrest
      simpa using Exchanged.failed h
    | ok reply =>
      cases hreceive : receive reply with
      | error e =>
        simp only [Except.bind, hreceive] at hrest
        obtain ⟨rfl, rfl⟩ := trace_done.1 hrest
        simpa using Exchanged.unusable h hreceive
      | ok target' =>
        simp only [Except.bind, hreceive] at hrest
        obtain ⟨rfl, rfl⟩ := trace_done.1 hrest
        simpa using Exchanged.received h hreceive
  · intro h
    cases h with
    | failed h => exact ⟨_, _, [], by simp, h, .refl _⟩
    | unusable h hreceive =>
      refine ⟨_, _, [], by simp, h, ?_⟩
      simp [Except.bind, hreceive]
    | received h hreceive =>
      refine ⟨_, _, [], by simp, h, ?_⟩
      simp [Except.bind, hreceive]

/-- An operation on a saved target is the operation on its path, or fails at once. -/
theorem trace_onSaved [Stored τ] {operation : String → Operation τ} {target : τ}
    {x : Outcome × τ} :
    Trace (onSaved operation target) events x ↔
      (∃ path, (Stored.record target).objectPath? = some path ∧
        Trace (operation path target) events x) ∨
      ((Stored.record target).objectPath? = none ∧ events = [] ∧
        x = (.error .missingObjectId, target)) := by
  unfold onSaved
  cases h : (Stored.record target).objectPath? with
  | some path => simp
  | none => simp

/-! ### Attempts to log in -/

/-- The events of starting the session of a user who has a token. -/
def captures (u : User) : List CallEvent :=
  match u.sessionToken? with
  | some token => [.changeSession (.start token u)]
  | none => []

theorem trace_capture {u : User} {x : Unit} :
    Trace (capture u) events x ↔ events = captures u := by
  unfold capture captures
  cases u.sessionToken? with
  | some token => simp [Call.change, trace_changeSession]
  | none => simp

/-- The events of an attempt to log in or sign up, the outcome and the user after it. -/
inductive Attempted (c : Config) (request : Api.Request) (u : User) :
    List CallEvent → Outcome × User → Prop
  | failed {events : List CallEvent} {e : Error} (h : Answer c request events (.error e)) :
      Attempted c request u events (.error e, u.scrub)
  | succeeded {events : List CallEvent} {reply : Json} (h : Answer c request events (.ok reply)) :
      Attempted c request u (events ++ captures (u.scrub.merge reply))
        (.ok (), (u.scrub.merge reply).scrub)

theorem trace_attempt {u : User} {x : Outcome × User} :
    Trace (attempt c request u) events x ↔ Attempted c request u events x := by
  simp only [attempt, bind_eq, trace_bind, trace_execute]
  constructor
  · rintro ⟨first, answer, second, rfl, h, hrest⟩
    cases answer with
    | error e =>
      obtain ⟨rfl, rfl⟩ := trace_done.1 hrest
      simpa using Attempted.failed h
    | ok reply =>
      obtain ⟨_, _, _, rfl, hcapture, hdone⟩ := trace_bind.1 hrest
      obtain rfl := trace_capture.1 hcapture
      obtain ⟨rfl, rfl⟩ := trace_done.1 hdone
      simpa using Attempted.succeeded h
  · intro h
    cases h with
    | failed h => exact ⟨_, _, [], by simp, h, .refl _⟩
    | succeeded h =>
      refine ⟨_, _, _, rfl, h, ?_⟩
      exact trace_bind.2 ⟨_, (), [], by simp, trace_capture.2 rfl, .refl _⟩

/-- The events of logging in or signing up with the credentials that a user holds.  It is refused
at once without them, and an attempt with them. -/
inductive Submitted (c : Config) (request : String → String → Api.Request) (u : User) :
    List CallEvent → Outcome × User → Prop
  | refused {e : Error} (h : credentials u = .error e) :
      Submitted c request u [] (.error e, u.scrub)
  | attempted {username password : String} {events : List CallEvent} {x : Outcome × User}
      (h : credentials u = .ok (username, password))
      (hattempt : Attempted c (request username password) u events x) :
      Submitted c request u events x

theorem submitted_iff_of_error {request : String → String → Api.Request} {u : User} {e : Error}
    {x : Outcome × User} (h : credentials u = .error e) :
    Submitted c request u events x ↔ events = [] ∧ x = (.error e, u.scrub) := by
  constructor
  · intro hx
    cases hx with
    | refused h' =>
      obtain rfl := Except.error.inj (h.symm.trans h')
      exact ⟨rfl, rfl⟩
    | attempted h' => cases h.symm.trans h'
  · rintro ⟨rfl, rfl⟩
    exact .refused h

theorem submitted_iff_of_ok {request : String → String → Api.Request} {u : User}
    {username password : String} {x : Outcome × User}
    (h : credentials u = .ok (username, password)) :
    Submitted c request u events x ↔ Attempted c (request username password) u events x := by
  constructor
  · intro hx
    cases hx with
    | refused h' => cases h.symm.trans h'
    | attempted h' hattempt =>
      cases h.symm.trans h'
      exact hattempt
  · exact .attempted h

theorem trace_logIn {u : User} {x : Outcome × User} :
    Trace (logIn c u) events x ↔ Submitted c (loginRequest c) u events x := by
  unfold logIn
  cases h : credentials u with
  | error e => rw [submitted_iff_of_error h, trace_done]
  | ok pair => rw [submitted_iff_of_ok h, trace_attempt]

theorem trace_signUp {u : User} {x : Outcome × User} :
    Trace (signUp c u) events x ↔ Submitted c (fun _ _ => signUpRequest c u) u events x := by
  unfold signUp
  cases h : credentials u with
  | error e => rw [submitted_iff_of_error h, trace_done]
  | ok pair => rw [submitted_iff_of_ok h, trace_attempt]

theorem trace_login {username password : String} {x : Except Error User} :
    Trace (login c username password) events x ↔
      ∃ outcome u, Trace (logIn c (.ofCredentials username password)) events (outcome, u) ∧
        x = outcome.map fun _ => u := by
  simp only [login, bind_eq, trace_bind]
  constructor
  · rintro ⟨first, ⟨outcome, u⟩, second, rfl, h, hrest⟩
    obtain ⟨rfl, rfl⟩ := trace_done.1 hrest
    exact ⟨outcome, u, by simpa using h, rfl⟩
  · rintro ⟨outcome, u, h, rfl⟩
    exact ⟨_, _, [], by simp, h, .refl _⟩

/-- The request that asks for the user of a token. -/
def validateRequest (token : String) : Api.Request :=
  { method := .get, path := Api.Path.currentUser, sessionToken := some token }

/-- The events of exchanging a token for its user, and the user or error that comes of it. -/
inductive Validated (c : Config) (token : String) : List CallEvent → Except Error User → Prop
  | missing (h : token = "") : Validated c token [] (.error (.missingField "sessionToken"))
  | failed {events : List CallEvent} {e : Error} (htoken : token ≠ "")
      (h : Answer c (validateRequest token) events (.error e)) : Validated c token events (.error e)
  | succeeded {events : List CallEvent} {reply : Json} (htoken : token ≠ "")
      (h : Answer c (validateRequest token) events (.ok reply)) :
      Validated c token (events ++ captures (validatedUser token reply))
        (.ok (validatedUser token reply))

theorem trace_validate {token : String} {x : Except Error User} :
    Trace (validate c token) events x ↔ Validated c token events x := by
  unfold validate
  by_cases htoken : token = ""
  · simp only [htoken, if_true, pure_eq, trace_done]
    constructor
    · rintro ⟨rfl, rfl⟩
      exact .missing rfl
    · intro h
      cases h with
      | missing => exact ⟨rfl, rfl⟩
      | failed htoken => exact absurd rfl htoken
      | succeeded htoken => exact absurd rfl htoken
  · simp only [htoken, if_false, bind_eq, pure_eq, trace_bind, trace_execute]
    constructor
    · rintro ⟨first, answer, second, rfl, h, hrest⟩
      cases answer with
      | error e =>
        obtain ⟨rfl, rfl⟩ := trace_done.1 hrest
        simpa using Validated.failed htoken h
      | ok reply =>
        obtain ⟨_, _, _, rfl, hcapture, hdone⟩ := trace_bind.1 hrest
        obtain rfl := trace_capture.1 hcapture
        obtain ⟨rfl, rfl⟩ := trace_done.1 hdone
        simpa using Validated.succeeded htoken h
    · intro h
      cases h with
      | missing h => exact absurd h htoken
      | failed _ h => exact ⟨_, _, [], by simp, h, .refl _⟩
      | succeeded _ h =>
        refine ⟨_, _, _, rfl, h, ?_⟩
        exact trace_bind.2 ⟨_, (), [], by simp, trace_capture.2 rfl, .refl _⟩

/-- The request to have a link mailed by which a password can be reset. -/
def passwordResetRequest (email : String) : Api.Request :=
  { method := .post
    path := Api.Path.passwordReset
    body := some (.object [("email", .string email)]) }

theorem trace_requestPasswordReset {email : String} {x : Outcome} :
    Trace (requestPasswordReset c email) events x ↔
      (email = "" ∧ events = [] ∧ x = .error (.missingField "email")) ∨
      (email ≠ "" ∧ ∃ answer, Answer c (passwordResetRequest email) events answer ∧
        x = answer.map fun _ => ()) := by
  unfold requestPasswordReset
  by_cases hemail : email = ""
  · simp [hemail]
  · simp only [hemail, if_false, bind_eq, pure_eq, trace_bind, trace_execute, false_and, false_or,
      ne_eq, not_false_eq_true, true_and]
    constructor
    · rintro ⟨first, answer, second, rfl, h, hrest⟩
      obtain ⟨rfl, rfl⟩ := trace_done.1 hrest
      exact ⟨answer, (List.append_nil first).symm ▸ h, rfl⟩
    · rintro ⟨answer, h, rfl⟩
      exact ⟨_, _, [], by simp, h, .refl _⟩

theorem trace_logout {x : Unit} :
    Trace logout events x ↔ events = [.changeSession .clear] := by
  simp [logout, Call.change, trace_changeSession]

end DocStore.Client
