import DocStore.Proofs.Client.Bearer
import DocStore.Proofs.Client.Identity
import DocStore.Proofs.Client.TokenOrigin

/-!
# What a successful login brings

A login or sign-up that has succeeded takes effect if its user is authenticated and current, and every
operation that follows speaks for this user until the session is changed again (`Client.TakesEffect`).

* `Client.speaksFor_session` : operations that follow one another speak for the session with which they
  began, since none of them changes it;
* `Client.takes_effect_iff` : a successful login takes effect **if and only if** its user has an id and
  a token once the reply has been laid over it; without a token the earlier session goes on;
* `Client.silent_login_keeps_session` : so one user can log in, and the client goes on acting for
  another.
-/

namespace DocStore.Client

open Call

variable {σ : Type} {serve : Server σ} {w w' later : World σ} {c : Config} {u u' : User}

/-! ### Operations that follow -/

/-- The worlds after operations that speak for the active session, one after the other.  Each has its
own settings and server, so that its reply may be any. -/
inductive Errands (start : World σ) : World σ → Prop
  | start : Errands start start
  | operate {w : World σ} {c : Config} {α : Type} {call : Call α} (h : Errands start w)
      (hcall : Bears c .current α call) (serve : Server σ) : Errands start (call.run serve w).2

/-- Whatever follows, until the session is changed, carries a token, or none. -/
def SpeaksFor (w : World σ) (token : Option String) : Prop :=
  ∀ later, Errands w later → ∃ sent, later.sent = w.sent ++ sent ∧
    ∀ request ∈ sent, request.headerValues Api.sessionTokenHeader = token.toList

theorem sessionChanges_exchange {τ : Type} {request : Api.Request} {target : τ}
    {receive : Json → Except Error τ} {events : List CallEvent} {x : Outcome × τ}
    (htrace : Trace (exchange c request target receive) events x) : sessionChanges events = [] := by
  cases trace_exchange.1 htrace with
  | failed h => exact h.sessionChanges_eq_nil
  | unusable h => exact h.sessionChanges_eq_nil
  | received h => exact h.sessionChanges_eq_nil

theorem sessionChanges_onSaved {τ : Type} [Stored τ] {request : String → τ → Api.Request}
    {receive : τ → Json → Except Error τ} {target : τ} {events : List CallEvent} {x : Outcome × τ}
    (h : Trace (onSaved (fun path target =>
      exchange c (request path target) target (receive target)) target) events x) :
    sessionChanges events = [] := by
  obtain ⟨path, -, h⟩ | ⟨-, rfl, -⟩ := trace_onSaved.1 h
  · exact sessionChanges_exchange h
  · rfl

theorem sessionChanges_requestPasswordReset {email : String} {events : List CallEvent} {x : Outcome}
    (h : Trace (requestPasswordReset c email) events x) : sessionChanges events = [] := by
  obtain ⟨-, rfl, -⟩ | ⟨-, _, h, -⟩ := trace_requestPasswordReset.1 h
  · rfl
  · exact h.sessionChanges_eq_nil

theorem sessionChanges_resetPassword {events : List CallEvent} {x : Outcome × User}
    (htrace : Trace (resetPassword c u) events x) : sessionChanges events = [] := by
  simp only [resetPassword, bind_eq] at htrace
  obtain ⟨first, _, second, rfl, h, hdone⟩ := trace_bind.1 htrace
  obtain ⟨rfl, -⟩ := trace_done.1 hdone
  rw [sessionChanges_append, sessionChanges_requestPasswordReset h]
  rfl

/-- An operation that speaks for the active session leaves it alone. -/
theorem Bears.sessionChanges_eq_nil {α : Type} {call : Call α} (h : Bears c .current α call)
    {events : List CallEvent} {x : α} (htrace : Trace call events x) :
    sessionChanges events = [] := by
  cases h with
  | save target => exact sessionChanges_exchange htrace
  | fetch target => exact sessionChanges_onSaved htrace
  | refresh target => exact sessionChanges_onSaved htrace
  | update changes target => exact sessionChanges_onSaved htrace
  | delete target => exact sessionChanges_onSaved htrace
  | find q => exact sessionChanges_exchange htrace
  | requestPasswordReset email => exact sessionChanges_requestPasswordReset htrace
  | resetPassword u => exact sessionChanges_resetPassword htrace

/-- The session stays as it was, and what is sent carries its token. -/
theorem Errands.carries (h : Errands w later) :
    later.session = w.session ∧ ∃ sent, later.sent = w.sent ++ sent ∧
      ∀ request ∈ sent, request.headerValues Api.sessionTokenHeader = w.session.token.toList := by
  induction h with
  | start => exact ⟨rfl, [], (List.append_nil _).symm, by simp⟩
  | @operate later c α call _ hcall serve ih =>
    obtain ⟨hsession, sent, hsent, hcarried⟩ := ih
    obtain ⟨more, hmore, hcarries⟩ := hcall.carries serve later
    obtain ⟨events, htrace, hplays⟩ := run_eq_iff.1 (rfl : call.run serve later = _)
    refine ⟨?_, sent ++ more, ?_, fun request hmem => ?_⟩
    · rw [hplays.session, hcall.sessionChanges_eq_nil htrace]
      exact hsession
    · rw [hmore, hsent, List.append_assoc]
    · rcases List.mem_append.1 hmem with hmem | hmem
      · exact hcarried request hmem
      · rw [← hsession]
        exact (hcarries request hmem).token

/-- **Operations speak for the session with which they begin.** -/
theorem speaksFor_session (w : World σ) : SpeaksFor w w.session.token :=
  fun _ h => h.carries.2

/-! ### Logins that have succeeded -/

/-- A user before and after a successful login or sign-up, and the world that it leaves. -/
inductive SignsIn (serve : Server σ) (w : World σ) : User → User → World σ → Prop
  | login {c : Config} {username password : String} {u' : User} {w' : World σ}
      (h : (login c username password).run serve w = (.ok u', w')) :
      SignsIn serve w (.ofCredentials username password) u' w'
  | logIn {c : Config} {u u' : User} {w' : World σ}
      (h : (logIn c u).run serve w = ((.ok (), u'), w')) : SignsIn serve w u u' w'
  | signUp {c : Config} {u u' : User} {w' : World σ}
      (h : (signUp c u).run serve w = ((.ok (), u'), w')) : SignsIn serve w u u' w'

/-- What a login is for: its user is authenticated and current, and whatever follows is done in the
user's name. -/
structure TakesEffect (u : User) (w : World σ) : Prop where
  authenticated : u.isAuthenticated = true
  current : ∃ user, w.session.user = some user ∧ user.record.objectId = u.record.objectId ∧
    user.username? = u.username?
  speaks : SpeaksFor w u.sessionToken?

theorem SignsIn.attempt (h : SignsIn serve w u u' w') :
    ∃ reply, RepliedWith serve w w' reply ∧ u' = (u.scrub.merge reply).scrub ∧
      w'.session = captured w.session (u.scrub.merge reply) := by
  cases h with
  | login h =>
    obtain ⟨events, htrace, hplays⟩ := run_eq_iff.1 h
    obtain ⟨outcome, u'', hlogIn, hx⟩ := trace_login.1 htrace
    obtain ⟨_, rfl, rfl⟩ := map_eq_ok_iff.1 hx.symm
    exact attempt_of_submitted (trace_logIn.1 hlogIn) hplays
  | logIn h => exact attempt_of_run (.inl rfl) h
  | signUp h => exact attempt_of_run (.inr rfl) h

/-- Only the password is removed after the reply has been laid over the user. -/
theorem getString?_scrub (u : User) {key : String} (hkey : key ≠ "password") :
    u.scrub.record.getString? key = u.record.getString? key := by
  unfold Record.getString? User.scrub
  rw [Record.get?_remove, if_neg (Ne.symm hkey)]

/-- A user who has been captured with a token is current, and spoken for. -/
theorem takesEffect_iff_of_captured {s : Session} (u : User)
    (hsession : w.session = captured s u) :
    TakesEffect u.scrub w ↔ u.record.objectId.isSome ∧ u.sessionToken?.isSome := by
  have htoken : u.scrub.sessionToken? = u.sessionToken? := getString?_scrub u (by decide)
  have hauthenticated : u.scrub.isAuthenticated = true ↔
      u.record.objectId.isSome ∧ u.sessionToken?.isSome := by
    rw [User.isAuthenticated, htoken, and_comm]
    simp [User.scrub, Record.remove, Record.isNew]
  constructor
  · exact fun h => hauthenticated.1 h.authenticated
  · intro h
    obtain ⟨token, hsome⟩ := Option.isSome_iff_exists.1 h.2
    rw [captured_of_token hsome] at hsession
    refine ⟨hauthenticated.2 h, ⟨u, by rw [hsession]; rfl, rfl, ?_⟩, ?_⟩
    · exact (getString?_scrub u (by decide)).symm
    · rw [htoken, hsome]
      have hspeaks := speaksFor_session w
      rwa [hsession] at hspeaks

/-- **When a successful login takes effect.**  A login or sign-up that has succeeded makes its user
authenticated and current, and all that follows is done in this user's name, exactly if the user has an
id and a text as token: those in the reply, or those that the user brought along under names that the
reply does not hold.  Without such a token the session is the earlier one, and all that follows is done
in the name of whoever was logged in before. -/
theorem takes_effect_iff (h : SignsIn serve w u u' w') :
    ∃ reply, RepliedWith serve w w' reply ∧
      (TakesEffect u' w' ↔ (reply.carriedId?.or u.record.objectId).isSome ∧
        (((reply.field? "sessionToken").or (u.record.get? "sessionToken")).bind
          Json.asString?).isSome) ∧
      (u'.sessionToken? = none → w'.session = w.session ∧ SpeaksFor w' w.session.token) := by
  obtain ⟨reply, hreplied, rfl, hsession⟩ := h.attempt
  have hdistinct : reply.HasDistinctNames := by
    obtain ⟨_, _, -, hreply⟩ := hreplied
    exact Api.hasDistinctNames_interpret hreply
  refine ⟨reply, hreplied, ?_, fun hnone => ?_⟩
  · have hid : (u.scrub.merge reply).record.objectId = reply.carriedId?.or u.record.objectId :=
      u.scrub.record.objectId_merge hdistinct
    rw [takesEffect_iff_of_captured _ hsession, hid, sessionToken?_merge_scrub u hdistinct]
  · have hmerged : (u.scrub.merge reply).sessionToken? = none :=
      (getString?_scrub _ (by decide)).symm.trans hnone
    have hsame : w'.session = w.session := hsession.trans (captured_of_none hmerged)
    exact ⟨hsame, hsame ▸ speaksFor_session w'⟩

/-! ### Replies with a token and without -/

/-- Here the reply holds the id and the token of the user, and another token was active before. -/
theorem takes_effect_iff_reply :
    let document := Json.object [("objectId", .string "u1"), ("sessionToken", .string "r:1")]
    let w : World Unit := { session := { token := some "r:old" }, server := () }
    ∃ u' w', SignsIn (answering document) w (.ofCredentials "ann" "secret") u' w' ∧
      TakesEffect u' w' := by
  intro document w
  obtain ⟨u', w', hrun⟩ := exists_eq_of_toBool
    (show ((logIn {} (.ofCredentials "ann" "secret")).run (answering document) w).1.1.toBool = true by
      decide +kernel)
  have hsigns : SignsIn (answering document) w (.ofCredentials "ann" "secret") u' w' := .logIn hrun
  obtain ⟨reply, hreplied, hiff, -⟩ := takes_effect_iff hsigns
  have hreply : (Api.interpret ⟨200, document.compact⟩).toOption.all fun reply =>
      reply.carriedId? = some "u1" ∧
        (reply.field? "sessionToken").bind Json.asString? = some "r:1" := by
    decide +kernel
  rw [hreplied.interpret_answering] at hreply
  obtain ⟨hid, htoken⟩ := of_decide_eq_true hreply
  obtain ⟨value, hvalue, hstring⟩ := Option.bind_eq_some_iff.1 htoken
  exact ⟨u', w', hsigns, hiff.2 ⟨by rw [hid]; rfl, by rw [hvalue]; simp [hstring]⟩⟩

/-- **A user logs in, and the client goes on acting for another**: `bob` logs in where `ann` is logged
in, the reply has no token, and what is saved then carries the token of `ann`. -/
theorem silent_login_keeps_session :
    let serveAnn := answering (.object [("objectId", .string "u1"), ("username", .string "ann"),
      ("sessionToken", .string "r:1")])
    let serveBob := answering (.object [("objectId", .string "u2"), ("username", .string "bob")])
    let w := ((login {} "ann" "secret").run serveAnn { server := () }).2
    let w' := ((login {} "bob" "secret").run serveBob w).2
    let later := ((save {} ({ className := "Score" } : Record)).run serveBob w').2
    (((login {} "bob" "secret").run serveBob w).1.toOption.map fun u =>
        (u.username?, u.isAuthenticated)) = some (some "bob", false) ∧
      w'.session.user.map User.username? = some (some "ann") ∧
      later.sent.getLast?.map (·.headerValues Api.sessionTokenHeader) = some ["r:1"] := by
  decide +kernel

end DocStore.Client
