import DocStore.Proofs.Client.Atomicity
import DocStore.Proofs.Client.Password

/-!
# Where the token of a new session comes from

A successful attempt to log in or sign up lays the reply over the user and starts a session with the
token that the user then has.  An attribute that the reply does not name stays, so that this may be
a token that the user brought along.

* `Client.sessionToken?_merge_scrub` : the token of the merged user: what the reply holds under the
  name, or else what the user held before;
* `Client.attempt_of_run` : the user and the session after a successful attempt, for every earlier
  session;
* `Client.started_by_reply_iff` : the session is changed by the reply at hand alone, **unless** the
  user brought a token along and the reply has no member of that name;
* `Client.stale_token_starts_session` : such a login does start a session.
-/

namespace DocStore.Client

open Call

variable {σ : Type} {serve : Server σ} {w w' : World σ} {c : Config} {u u' : User}

/-- Between two worlds one request was sent, and a document came back for it; only the session may
have changed besides. -/
def RepliedWith (serve : Server σ) (w w' : World σ) (reply : Json) : Prop :=
  ∃ request response, w.send serve request = (.ok response, { w' with session := w.session }) ∧
    Api.interpret response = .ok reply

/-- A session with the token that a reply holds, for a user who has that token. -/
def StartedBy (reply : Json) (s : Session) : Prop :=
  ∃ token u, reply.field? "sessionToken" = some (.string token) ∧ s = .started token u ∧
    u.sessionToken? = some token

/-- The token of a user over whom a reply has been laid is the one in the reply, and the user's own
only if the reply does not name it at all. -/
theorem sessionToken?_merge_scrub (u : User) {reply : Json} (h : reply.HasDistinctNames) :
    (u.scrub.merge reply).sessionToken? =
      ((reply.field? "sessionToken").or (u.record.get? "sessionToken")).bind Json.asString? := by
  have hname : Record.isAttributeName "sessionToken" := by decide
  have hscrub : u.scrub.record.get? "sessionToken" = u.record.get? "sessionToken" := by
    rw [User.scrub, Record.get?_remove, if_neg (by decide)]
  rw [User.sessionToken?, Record.getString?, User.merge, Record.get?_merge _ h hname, hscrub]

theorem asString?_eq_some_iff {value : Json} {text : String} :
    value.asString? = some text ↔ value = .string text := by
  cases value <;> simp [Json.asString?]

/-! ### The session after an attempt -/

/-- The session in which a user's token has been captured. -/
def captured (s : Session) (u : User) : Session :=
  match u.sessionToken? with
  | some token => .started token u
  | none => s

theorem captured_of_token {s : Session} {token : String} (h : u.sessionToken? = some token) :
    captured s u = .started token u := by
  simp only [captured, h]

theorem captured_of_none {s : Session} (h : u.sessionToken? = none) : captured s u = s := by
  simp only [captured, h]

/-- Capturing a token changes nothing but the session. -/
theorem eq_of_plays_captures (h : w.Plays serve (captures u) w') :
    w' = { w with session := captured w.session u } := by
  cases htoken : u.sessionToken? with
  | some token =>
    rw [captured_of_token htoken]
    simp only [captures, htoken] at h
    obtain _ | ⟨hshows, hrest⟩ := h
    cases hrest
    exact hshows
  | none =>
    rw [captured_of_none htoken]
    simp only [captures, htoken] at h
    cases h
    rfl

/-- The events of a successful attempt: a document came back, and the token of the user over whom it
was laid was captured. -/
theorem Submitted.events_of_ok {request : String → String → Api.Request} {events : List CallEvent}
    (h : Submitted c request u events (.ok (), u')) :
    ∃ first reply, Answered first reply ∧ events = first ++ captures (u.scrub.merge reply) ∧
      u' = (u.scrub.merge reply).scrub := by
  cases h with
  | attempted _ h =>
    cases h with
    | succeeded h => exact ⟨_, _, h.answered, rfl, rfl⟩

/-- **User and session after a successful attempt**, whatever they were before.  The reply is laid over
the user, and the session is started with the token that the user has then, or unchanged if there is
none. -/
theorem attempt_of_submitted {request : String → String → Api.Request} {events : List CallEvent}
    (h : Submitted c request u events (.ok (), u')) (hplays : w.Plays serve events w') :
    ∃ reply, RepliedWith serve w w' reply ∧ u' = (u.scrub.merge reply).scrub ∧
      w'.session = captured w.session (u.scrub.merge reply) := by
  obtain ⟨first, reply, hanswered, rfl, huser⟩ := h.events_of_ok
  obtain ⟨middle, hfirst, hcaptures⟩ := hplays.of_append
  have hquiet : middle.session = w.session := by
    rw [hfirst.session, hanswered.sessionChanges_eq_nil]
    rfl
  obtain ⟨request, response, hsend, hreply⟩ := hanswered.plays hfirst
  obtain rfl := eq_of_plays_captures hcaptures
  refine ⟨reply, ⟨request, response, ?_, hreply⟩, huser, ?_⟩
  · rw [hsend, ← hquiet]
  · rw [hquiet]

/-- User and session after a successful login or sign-up. -/
theorem attempt_of_run {operation : Operation User}
    (hoperation : operation = logIn c ∨ operation = signUp c)
    (h : (operation u).run serve w = ((.ok (), u'), w')) :
    ∃ reply, RepliedWith serve w w' reply ∧ u' = (u.scrub.merge reply).scrub ∧
      w'.session = captured w.session (u.scrub.merge reply) := by
  obtain ⟨events, htrace, hplays⟩ := run_eq_iff.1 h
  obtain rfl | rfl := hoperation
  · exact attempt_of_submitted (trace_logIn.1 htrace) hplays
  · exact attempt_of_submitted (trace_signUp.1 htrace) hplays

/-- The session after a successful login or sign-up. -/
theorem session_of_run {operation : Operation User}
    (hoperation : operation = logIn c ∨ operation = signUp c)
    (h : (operation u).run serve w = ((.ok (), u'), w')) :
    ∃ reply, RepliedWith serve w w' reply ∧
      w'.session = captured w.session (u.scrub.merge reply) := by
  obtain ⟨reply, hreplied, -, hsession⟩ := attempt_of_run hoperation h
  exact ⟨reply, hreplied, hsession⟩

/-! ### Tokens in the reply and others -/

/-- A token in the reply starts the session. -/
theorem captured_of_reply {s : Session} {reply : Json} {token : String}
    (h : reply.HasDistinctNames) (htoken : reply.field? "sessionToken" = some (.string token)) :
    captured s (u.scrub.merge reply) = .started token (u.scrub.merge reply) := by
  refine captured_of_token ?_
  rw [sessionToken?_merge_scrub u h, htoken]
  rfl

/-- **When a session is started by the reply at hand.**  It always is unless the reply has no member
of the token's name and the user brought a token along: then that token starts the session. -/
theorem changed_imp_startedBy_iff (s : Session) (u : User) {reply : Json}
    (h : reply.HasDistinctNames) :
    (captured s (u.scrub.merge reply) ≠ s → StartedBy reply (captured s (u.scrub.merge reply))) ↔
      ∀ token, reply.field? "sessionToken" = none → u.sessionToken? = some token →
        s = .started token (u.scrub.merge reply) := by
  have hmerged := sessionToken?_merge_scrub u h
  cases hfield : reply.field? "sessionToken" with
  | none =>
    rw [hfield, Option.none_or] at hmerged
    constructor
    · intro hstarted token _ htoken
      -- The user's own token is captured, and the reply cannot have brought it.
      have hcaptured : captured s (u.scrub.merge reply) = .started token (u.scrub.merge reply) :=
        captured_of_token (hmerged.trans htoken)
      by_contra hne
      have hchanged : captured s (u.scrub.merge reply) ≠ s := by
        rw [hcaptured]
        exact fun heq => hne heq.symm
      obtain ⟨_, _, hreply, -⟩ := hstarted hchanged
      cases hfield.symm.trans hreply
    · intro hsame hchanged
      cases htoken : u.sessionToken? with
      | none => exact absurd (captured_of_none (hmerged.trans htoken)) hchanged
      | some token =>
        have hcaptured := captured_of_token (s := s) (hmerged.trans htoken)
        exact absurd (hcaptured.trans (hsame token rfl htoken).symm) hchanged
  | some value =>
    rw [hfield, Option.some_or, Option.bind_some] at hmerged
    refine iff_of_true (fun hchanged => ?_) nofun
    cases htoken : value.asString? with
    | none => exact absurd (captured_of_none (hmerged.trans htoken)) hchanged
    | some token =>
      obtain rfl := asString?_eq_some_iff.1 htoken
      exact ⟨token, _, hfield, captured_of_token hmerged, hmerged⟩

/-- **A successful login or sign-up starts a session with the token in its own reply**, and changes
the session for no other reason, **if and only if** the user did not bring a token along that the
reply fails to name.  The reply is the one to the only request of that call, and the session may have
been any before. -/
theorem started_by_reply_iff {operation : Operation User}
    (hoperation : operation = logIn c ∨ operation = signUp c)
    (h : (operation u).run serve w = ((.ok (), u'), w')) :
    ∃ reply, RepliedWith serve w w' reply ∧
      (∀ token, reply.field? "sessionToken" = some (.string token) →
        w'.session = .started token (u.scrub.merge reply)) ∧
      ((w'.session ≠ w.session → StartedBy reply w'.session) ↔
        ∀ token, reply.field? "sessionToken" = none → u.sessionToken? = some token →
          w.session = .started token (u.scrub.merge reply)) := by
  obtain ⟨reply, hreplied, hsession⟩ := session_of_run hoperation h
  have hdistinct : reply.HasDistinctNames := by
    obtain ⟨_, _, -, hreply⟩ := hreplied
    exact Api.hasDistinctNames_interpret hreply
  rw [hsession]
  exact ⟨reply, hreplied, fun token => captured_of_reply hdistinct,
    changed_imp_startedBy_iff w.session u hdistinct⟩

/-! ### A user who comes back -/

/-- A user who has logged in before, and still has the token of that session. -/
def returningUser : User :=
  (User.ofCredentials "ann" "secret").setText "sessionToken" "r:old"

/-- The document of a server that gives every request the same one. -/
theorem RepliedWith.interpret_answering {document reply : Json} {w w' : World Unit}
    (h : RepliedWith (answering document) w w' reply) :
    Api.interpret ⟨200, document.compact⟩ = .ok reply := by
  obtain ⟨_, response, hsend, hreply⟩ := h
  have hresponse : (.ok ⟨200, document.compact⟩ : Delivery) = .ok response :=
    congrArg Prod.fst hsend
  cases hresponse
  exact hreply

/-- A run that does not end with an error is a successful one. -/
theorem exists_eq_of_toBool {result : (Outcome × User) × World σ} (h : result.1.1.toBool = true) :
    ∃ u' w', result = ((.ok (), u'), w') := by
  obtain ⟨⟨outcome, u'⟩, w'⟩ := result
  cases outcome with
  | error e => cases h
  | ok x => exact ⟨u', w', rfl⟩

/-- Here the user logs in again, and the reply replaces the token. -/
theorem started_by_reply_iff_returning :
    let document := Json.object [("username", .string "ann"), ("sessionToken", .string "r:new")]
    let w : World Unit := { session := .started "r:old" returningUser, server := () }
    ∃ u' w' reply, (logIn {} returningUser).run (answering document) w = ((.ok (), u'), w') ∧
      RepliedWith (answering document) w w' reply ∧ StartedBy reply w'.session ∧
      w'.session.token = some "r:new" := by
  intro document w
  obtain ⟨u', w', hrun⟩ := exists_eq_of_toBool
    (show ((logIn {} returningUser).run (answering document) w).1.1.toBool = true by
      decide +kernel)
  obtain ⟨reply, hreplied, hstarts, hiff⟩ := started_by_reply_iff (.inl rfl) hrun
  have htoken : (reply.field? "sessionToken").bind Json.asString? = some "r:new" := by
    have hread : ((Api.interpret ⟨200, document.compact⟩).toOption.bind fun reply =>
        (reply.field? "sessionToken").bind Json.asString?) = some "r:new" := by
      decide +kernel
    rwa [hreplied.interpret_answering] at hread
  obtain ⟨value, hvalue, hstring⟩ := Option.bind_eq_some_iff.1 htoken
  obtain rfl := asString?_eq_some_iff.1 hstring
  have hsession := hstarts _ hvalue
  have hchanged : w'.session ≠ w.session := by
    intro heq
    have hold : w'.session.token = some "r:old" := congrArg Session.token heq
    have hnew : w'.session.token = some "r:new" := by rw [hsession]; rfl
    exact absurd (hnew.symm.trans hold) (by decide)
  refine ⟨u', w', reply, hrun, hreplied, hiff.2 ?_ hchanged, by rw [hsession]; rfl⟩
  intro _ hnone
  cases hnone.symm.trans hvalue

/-- **A stale token starts a session**: a user with the token of an earlier session logs in while
there is no session, the reply says nothing about a token, and the old one is active again. -/
theorem stale_token_starts_session :
    let document := Json.object [("objectId", .string "u1")]
    let w : World Unit := { server := () }
    ∃ u' w' reply, (logIn {} returningUser).run (answering document) w = ((.ok (), u'), w') ∧
      RepliedWith (answering document) w w' reply ∧ w.session.token = none ∧
      w'.session.token = some "r:old" ∧ ¬StartedBy reply w'.session := by
  intro document w
  obtain ⟨u', w', hrun⟩ := exists_eq_of_toBool
    (show ((logIn {} returningUser).run (answering document) w).1.1.toBool = true by
      decide +kernel)
  obtain ⟨reply, hreplied, -⟩ := session_of_run (.inl rfl) hrun
  have htoken : w'.session.token = some "r:old" := by
    have hkernel : ((logIn {} returningUser).run (answering document) w).2.session.token =
        some "r:old" := by
      decide +kernel
    rwa [hrun] at hkernel
  refine ⟨u', w', reply, hrun, hreplied, rfl, htoken, ?_⟩
  rintro ⟨_, _, hfield, -⟩
  have hnone : (Api.interpret ⟨200, document.compact⟩).toOption.all fun reply =>
      (reply.field? "sessionToken").isNone := by
    decide +kernel
  rw [hreplied.interpret_answering] at hnone
  simp [Except.toOption, hfield] at hnone

end DocStore.Client
