import DocStore.Proofs.Client.Operation

/-!
# All or nothing

Every operation of a client either succeeds as a whole or leaves the target and the session as
they were, whatever the server answers and also when it does not answer
(`Client.all_or_nothing`).  The only trace of a failed attempt to log in is that the user has lost
the password.  After a success the target is what it was with the reply laid over
(`Client.MergesReply`).
-/

namespace DocStore.Client

open Call

variable {α τ : Type}

/-- After an error the target is the residue of what it was, and the session is what it was. -/
def FailsTo (residue : τ → τ) (operation : Operation τ) : Prop :=
  ∀ {σ : Type} (serve : Server σ) (w w' : World σ) (target target' : τ) (e : Error),
    (operation target).run serve w = ((.error e, target'), w') →
      target' = residue target ∧ w'.session = w.session

/-- After an error the session is what it was. -/
def FailsQuietly (call : Call (Except Error α)) : Prop :=
  ∀ {σ : Type} (serve : Server σ) (w w' : World σ) (e : Error),
    call.run serve w = (.error e, w') → w'.session = w.session

/-- After a success one request has been answered by a document, and the target's record is what
it was with that document laid over; its class is the same. -/
def MergesReply [Stored τ] (operation : Operation τ) : Prop :=
  ∀ {σ : Type} (serve : Server σ) (w w' : World σ) (target target' : τ),
    (operation target).run serve w = ((.ok (), target'), w') →
      ∃ request response reply, w.send serve request = (.ok response, w') ∧
        Api.interpret response = .ok reply ∧
        target' = Stored.withRecord target ((Stored.record target).merge reply) ∧
        (Stored.record target').className = (Stored.record target).className

/-- After a success the target is what it was. -/
def KeepsTarget (operation : Operation τ) : Prop :=
  ∀ {σ : Type} (serve : Server σ) (w w' : World σ) (target target' : τ),
    (operation target).run serve w = ((.ok (), target'), w') → target' = target

/-! ### From traces to runs -/

/-- What holds of the traces that end with an error holds of the failed runs. -/
theorem FailsTo.of_trace {residue : τ → τ} {operation : Operation τ}
    (h : ∀ {target events e target'}, Trace (operation target) events (.error e, target') →
      target' = residue target ∧ sessionChanges events = []) : FailsTo residue operation := by
  intro σ serve w w' target target' e hrun
  obtain ⟨events, htrace, hplays⟩ := run_eq_iff.1 hrun
  obtain ⟨htarget, hsession⟩ := h htrace
  exact ⟨htarget, by rw [hplays.session, hsession]; rfl⟩

theorem FailsQuietly.of_trace {call : Call (Except Error α)}
    (h : ∀ {events e}, Trace call events (.error e) → sessionChanges events = []) :
    FailsQuietly call := by
  intro σ serve w w' e hrun
  obtain ⟨events, htrace, hplays⟩ := run_eq_iff.1 hrun
  rw [hplays.session, h htrace]
  rfl

/-- A document that answers a request was delivered by the server, and nothing else happened. -/
theorem Answered.plays {events : List CallEvent} {reply : Json} (h : Answered events reply)
    {σ : Type} {serve : Server σ} {w w' : World σ} (hplays : w.Plays serve events w') :
    ∃ http response, w.send serve http = (.ok response, w') ∧
      Api.interpret response = .ok reply := by
  obtain ⟨_, http, response, rfl, hreply⟩ := h
  obtain _ | ⟨htoken, hrest⟩ := hplays
  obtain ⟨-, rfl⟩ := htoken
  obtain _ | ⟨hsend, hend⟩ := hrest
  cases hend
  exact ⟨http, response, hsend, hreply⟩

theorem MergesReply.of_trace [Stored τ] {c : Config} {operation : Operation τ}
    (h : ∀ {target events target'}, Trace (operation target) events (.ok (), target') →
      ∃ request reply, Answer c request events (.ok reply) ∧
        target' = Stored.withRecord target ((Stored.record target).merge reply)) :
    MergesReply operation := by
  intro σ serve w w' target target' hrun
  obtain ⟨events, htrace, hplays⟩ := run_eq_iff.1 hrun
  obtain ⟨request, reply, hanswer, rfl⟩ := h htrace
  obtain ⟨http, response, hsend, hreply⟩ := hanswer.answered.plays hplays
  refine ⟨http, response, reply, hsend, hreply, rfl, ?_⟩
  rw [Stored.record_withRecord, Record.className_merge]

/-! ### Operations on objects -/

section Objects

variable {c : Config} {request : Api.Request} {events : List CallEvent} {target target' : τ}
  {receive : Json → Except Error τ} {e : Error}

theorem Exchanged.unchanged (h : Exchanged c request target receive events (.error e, target')) :
    target' = target ∧ sessionChanges events = [] := by
  cases h with
  | failed h => exact ⟨rfl, h.sessionChanges_eq_nil⟩
  | unusable h => exact ⟨rfl, h.sessionChanges_eq_nil⟩

theorem Exchanged.received_of_ok (h : Exchanged c request target receive events (.ok (), target')) :
    ∃ reply, Answer c request events (.ok reply) ∧ receive reply = .ok target' := by
  cases h with
  | received h hreceive => exact ⟨_, h, hreceive⟩

variable [Stored τ]

theorem failsTo_onSaved {operation : String → Operation τ}
    (h : ∀ {path target events e target'},
      Trace (operation path target) events (.error e, target') →
        target' = target ∧ sessionChanges events = []) :
    FailsTo id (onSaved operation) := by
  refine FailsTo.of_trace fun htrace => ?_
  obtain ⟨path, -, htrace⟩ | ⟨-, rfl, hx⟩ := trace_onSaved.1 htrace
  · exact h htrace
  · cases hx
    exact ⟨rfl, rfl⟩

theorem mergesReply_onSaved {c : Config} {request : String → τ → Api.Request} :
    MergesReply (onSaved fun path target =>
      exchange c (request path target) target (mergeReply target)) := by
  refine MergesReply.of_trace (c := c) fun htrace => ?_
  obtain ⟨path, -, htrace⟩ | ⟨-, -, hx⟩ := trace_onSaved.1 htrace
  · obtain ⟨reply, hanswer, hreceive⟩ := (trace_exchange.1 htrace).received_of_ok
    cases hreceive
    exact ⟨_, reply, hanswer, rfl⟩
  · cases hx

end Objects

/-! ### Attempts to log in -/

section Accounts

variable {c : Config} {request : Api.Request} {events : List CallEvent} {u u' : User} {e : Error}

theorem Attempted.unchanged (h : Attempted c request u events (.error e, u')) :
    u' = u.scrub ∧ sessionChanges events = [] := by
  cases h with
  | failed h => exact ⟨rfl, h.sessionChanges_eq_nil⟩

theorem Submitted.unchanged {request : String → String → Api.Request}
    (h : Submitted c request u events (.error e, u')) :
    u' = u.scrub ∧ sessionChanges events = [] := by
  cases h with
  | refused => exact ⟨rfl, rfl⟩
  | attempted _ h => exact h.unchanged

theorem failsQuietly_login (username password : String) :
    FailsQuietly (login c username password) := by
  refine FailsQuietly.of_trace fun htrace => ?_
  obtain ⟨outcome, u, h, hx⟩ := trace_login.1 htrace
  cases outcome with
  | error e => exact (trace_logIn.1 h).unchanged.2
  | ok => cases hx

theorem failsQuietly_validate (token : String) : FailsQuietly (validate c token) := by
  refine FailsQuietly.of_trace fun htrace => ?_
  cases trace_validate.1 htrace with
  | missing => rfl
  | failed _ h => exact h.sessionChanges_eq_nil

theorem failsQuietly_requestPasswordReset (email : String) :
    FailsQuietly (requestPasswordReset c email) := by
  refine FailsQuietly.of_trace fun htrace => ?_
  obtain ⟨-, rfl, -⟩ | ⟨-, answer, h, -⟩ := trace_requestPasswordReset.1 htrace
  · rfl
  · exact h.sessionChanges_eq_nil

end Accounts

/-! ### All operations -/

theorem exchange_unchanged {c : Config} {request : Api.Request} {target target' : τ}
    {receive : Json → Except Error τ} {events : List CallEvent} {e : Error}
    (h : Trace (exchange c request target receive) events (.error e, target')) :
    target' = target ∧ sessionChanges events = [] :=
  (trace_exchange.1 h).unchanged

theorem mergesReply_save [Stored τ] (c : Config) : MergesReply (save c : Operation τ) := by
  refine MergesReply.of_trace (c := c) fun htrace => ?_
  obtain ⟨reply, hanswer, hreceive⟩ := (trace_exchange.1 htrace).received_of_ok
  cases hreceive
  exact ⟨_, reply, hanswer, rfl⟩

theorem keepsTarget_delete [Stored τ] (c : Config) : KeepsTarget (delete c : Operation τ) := by
  intro σ serve w w' target target' hrun
  obtain ⟨events, htrace, -⟩ := run_eq_iff.1 hrun
  obtain ⟨path, -, htrace⟩ | ⟨-, -, hx⟩ := trace_onSaved.1 htrace
  · obtain ⟨reply, -, hreceive⟩ := (trace_exchange.1 htrace).received_of_ok
    cases hreceive
    rfl
  · cases hx

/-- **Every operation of a client is all or nothing.**  A failed operation on an object or a query
leaves its target and the session as they were.  A failed attempt to log in or sign up leaves the
user without the password and the session as it was, and a failed call without a target leaves the
session as it was.  A successful operation leaves its target with the reply laid over, or as it was
if the object has been deleted. -/
theorem all_or_nothing [Stored τ] (c : Config) (changes : Json)
    (username password token email : String) :
    (FailsTo id (save c : Operation τ) ∧ FailsTo id (fetch c : Operation τ) ∧
      FailsTo id (refresh c : Operation τ) ∧ FailsTo id (update c changes : Operation τ) ∧
      FailsTo id (delete c : Operation τ) ∧ FailsTo id (find c)) ∧
    (FailsTo User.scrub (logIn c) ∧ FailsTo User.scrub (signUp c)) ∧
    (FailsQuietly (login c username password) ∧ FailsQuietly (validate c token) ∧
      FailsQuietly (requestPasswordReset c email)) ∧
    (MergesReply (save c : Operation τ) ∧ MergesReply (fetch c : Operation τ) ∧
      MergesReply (refresh c : Operation τ) ∧ MergesReply (update c changes : Operation τ)) ∧
    KeepsTarget (delete c : Operation τ) := by
  refine ⟨⟨?_, ?_, ?_, ?_, ?_, ?_⟩, ⟨?_, ?_⟩, ⟨?_, ?_, ?_⟩, ⟨?_, ?_, ?_, ?_⟩, ?_⟩
  · exact FailsTo.of_trace exchange_unchanged
  · exact failsTo_onSaved exchange_unchanged
  · exact failsTo_onSaved exchange_unchanged
  · exact failsTo_onSaved exchange_unchanged
  · exact failsTo_onSaved exchange_unchanged
  · exact FailsTo.of_trace exchange_unchanged
  · exact FailsTo.of_trace fun h => (trace_logIn.1 h).unchanged
  · exact FailsTo.of_trace fun h => (trace_signUp.1 h).unchanged
  · exact failsQuietly_login username password
  · exact failsQuietly_validate token
  · exact failsQuietly_requestPasswordReset email
  · exact mergesReply_save c
  · exact mergesReply_onSaved
  · exact mergesReply_onSaved
  · exact mergesReply_onSaved
  · exact keepsTarget_delete c

end DocStore.Client
