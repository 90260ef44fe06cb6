import DocStore.Proofs.Client.Interleaving
import DocStore.Proofs.Client.Operation

/-!
# The session of interleaved account calls

Sessions are begun and ended by five calls (`Client.AccountCall`).  Any number of them may
interleave on one session, each with the server of its own client.

* `Client.SessionTrace` : all that such a call can do to the session: nothing, end it, or start it
  for a user whom the reply to its only request describes (`Client.Welcomes`);
* `Client.origin_of_calls` : so the session is empty, or as one of these calls started it last
  (`Client.start_of_calls`), and other calls that do no more may be among them;
* `Client.session_consistent` : **token and current user belong together**: there is one if and
  only if there is the other, and the token is the one that the user holds.
-/

namespace DocStore.Client

open Call

/-- The calls that begin and end sessions. -/
inductive AccountCall : ∀ α : Type, Call α → Prop
  | login (c : Config) (username password : String) : AccountCall _ (login c username password)
  | logIn (c : Config) (u : User) : AccountCall _ (logIn c u)
  | signUp (c : Config) (u : User) : AccountCall _ (signUp c u)
  | validate (c : Config) (token : String) : AccountCall _ (validate c token)
  | logout : AccountCall _ logout

/-! ### What one call can do to the session -/

/-- The users whom a reply can make current. -/
inductive Welcomes (reply : Json) : User → Prop
  | attempted (u : User) : Welcomes reply (u.scrub.merge reply)
  | validated (token : String) : Welcomes reply (validatedUser token reply)

/-- What the events of a call do to the session, at most one thing. -/
inductive SessionTrace : List CallEvent → Prop
  | quiet {events : List CallEvent} (h : sessionChanges events = []) : SessionTrace events
  | cleared : SessionTrace [.changeSession .clear]
  | started {events : List CallEvent} {reply : Json} {token : String} {u : User}
      (h : Answered events reply) (hu : Welcomes reply u) (htoken : u.sessionToken? = some token) :
      SessionTrace (events ++ [.changeSession (.start token u)])

variable {c : Config} {request : Api.Request} {events : List CallEvent} {reply : Json} {u : User}

theorem Answered.sessionChanges_eq_nil (h : Answered events reply) :
    sessionChanges events = [] := by
  obtain ⟨_, _, _, rfl, -⟩ := h
  rfl

theorem SessionTrace.captures (h : Answered events reply) (hu : Welcomes reply u) :
    SessionTrace (events ++ captures u) := by
  unfold Client.captures
  cases htoken : u.sessionToken? with
  | some token => exact .started h hu htoken
  | none => exact .quiet (by simpa using h.sessionChanges_eq_nil)

theorem Attempted.sessionTrace {x : Outcome × User} (h : Attempted c request u events x) :
    SessionTrace events := by
  cases h with
  | failed h => exact .quiet h.sessionChanges_eq_nil
  | succeeded h => exact .captures h.answered (.attempted u)

theorem Validated.sessionTrace {token : String} {x : Except Error User}
    (h : Validated c token events x) : SessionTrace events := by
  cases h with
  | missing => exact .quiet rfl
  | failed _ h => exact .quiet h.sessionChanges_eq_nil
  | succeeded _ h => exact .captures h.answered (.validated token)

theorem Submitted.sessionTrace {request : String → String → Api.Request} {x : Outcome × User}
    (h : Submitted c request u events x) : SessionTrace events := by
  cases h with
  | refused => exact .quiet rfl
  | attempted _ h => exact h.sessionTrace

theorem AccountCall.sessionTrace {α : Type} {call : Call α} {x : α} (hcall : AccountCall α call)
    (h : Trace call events x) : SessionTrace events := by
  cases hcall with
  | login c username password =>
    obtain ⟨_, _, h, -⟩ := trace_login.1 h
    exact (trace_logIn.1 h).sessionTrace
  | logIn c u => exact (trace_logIn.1 h).sessionTrace
  | signUp c u => exact (trace_signUp.1 h).sessionTrace
  | validate c token => exact (trace_validate.1 h).sessionTrace
  | logout =>
    obtain rfl := trace_logout.1 h
    exact .cleared

/-- The last event is the only change of the session if none came before. -/
theorem eq_of_only_change {before after : List CallEvent} {change change' : SessionChange}
    (hquiet : sessionChanges events = [])
    (h : before ++ .changeSession change :: after = events ++ [.changeSession change']) :
    before = events ∧ change = change' := by
  obtain ⟨rest, rfl, hrest⟩ | ⟨rest, rfl, hrest⟩ := List.append_eq_append_iff.1 h
  · cases rest with
    | nil => simp_all
    | cons first rest =>
      -- Then the first change is one of the earlier events.
      obtain ⟨rfl, -⟩ := List.cons.inj hrest
      exact absurd (by simp) (changeSession_notMem hquiet change)
  · cases rest with
    | nil => simp_all
    | cons first rest => simp at hrest

/-- A change of the session ends it, or starts it after the reply that it is taken from. -/
theorem SessionTrace.change_cases {before after : List CallEvent} {change : SessionChange}
    (h : SessionTrace (before ++ .changeSession change :: after)) :
    change = .clear ∨ ∃ token u reply, change = .start token u ∧ Answered before reply ∧
      Welcomes reply u ∧ u.sessionToken? = some token := by
  generalize hevents : before ++ .changeSession change :: after = events at h
  cases h with
  | quiet h =>
    subst hevents
    exact absurd (by simp) (changeSession_notMem h change)
  | cleared => exact .inl (eq_of_only_change (show sessionChanges [] = [] from rfl) hevents).2
  | started h hu htoken =>
    obtain ⟨rfl, rfl⟩ := eq_of_only_change h.sessionChanges_eq_nil hevents
    exact .inr ⟨_, _, _, rfl, h, hu, htoken⟩

/-! ### What all calls can do together -/

/-- Each of the calls that can be started does at most one thing to the session. -/
def SessionCalls (startable : ∀ α : Type, Call α → Prop) : Prop :=
  ∀ {α : Type} {call : Call α} {events : List CallEvent} {x : α},
    startable α call → Trace call events x → SessionTrace events

theorem sessionCalls_accountCall : SessionCalls AccountCall := AccountCall.sessionTrace

section Calls

variable {startable : ∀ α : Type, Call α → Prop} {σ : Type} {w : World σ}
  {flights : List (Flight σ)} {history : History}

/-- Every change of the session is one that its call could make alone, whatever others did. -/
theorem change_cases_of_calls (hcalls : SessionCalls startable)
    (h : Reached startable w flights history) {earlier later : History} {i : Nat}
    {change : SessionChange} (hhistory : history = earlier ++ (i, .changeSession change) :: later) :
    change = .clear ∨ ∃ token u reply, change = .start token u ∧ Answered (earlier.of i) reply ∧
      Welcomes reply u ∧ u.sessionToken? = some token := by
  obtain ⟨α, call, more, x, hcall, htrace⟩ :=
    h.exists_trace (hhistory ▸ List.mem_append_right _ List.mem_cons_self)
  rw [hhistory, History.of_append, History.of_cons_self, List.append_assoc,
    List.cons_append] at htrace
  exact (hcalls hcall htrace).change_cases

/-- A session is started for a user whom the only reply to its call describes, with the token that
this user holds. -/
theorem start_of_calls (hcalls : SessionCalls startable) (h : Reached startable w flights history)
    {earlier : History} {i : Nat} {token : String} {u : User}
    (hlast : History.LastStart history earlier i token u) :
    ∃ reply, Answered (earlier.of i) reply ∧ Welcomes reply u ∧ u.sessionToken? = some token := by
  obtain ⟨later, hhistory, -⟩ := hlast
  obtain hclear | ⟨_, _, reply, hstart, hstarted⟩ := change_cases_of_calls hcalls h hhistory
  · cases hclear
  · cases hstart
    exact ⟨reply, hstarted⟩

/-- The session is empty, or it is as a call started it last. -/
theorem origin_of_calls (hcalls : SessionCalls startable)
    (h : Reached startable w flights history) :
    w.session = .empty ∨ ∃ earlier i token u,
      History.LastStart history earlier i token u ∧ w.session = .started token u := by
  -- None of the calls replaces the token alone, so that only the last start of a session counts.
  have hset : ∀ i token, (i, .changeSession (.setToken token)) ∉ history := by
    intro i token hmem
    obtain ⟨earlier, later, hhistory⟩ := List.append_of_mem hmem
    obtain hclear | ⟨_, _, _, hstart, -⟩ := change_cases_of_calls hcalls h hhistory
    · cases hclear
    · cases hstart
  rw [h.session_eq]
  refine (History.session_cases history hset).imp id ?_
  rintro ⟨earlier, i, token, u, hlast⟩
  exact ⟨earlier, i, token, u, hlast, hlast.session⟩

end Calls

section Interleaving

variable {σ : Type} {w : World σ} {flights : List (Flight σ)} {history : History}

theorem start_of_reached (h : Reached AccountCall w flights history) {earlier : History} {i : Nat}
    {token : String} {u : User} (hlast : History.LastStart history earlier i token u) :
    ∃ reply, Answered (earlier.of i) reply ∧ Welcomes reply u ∧ u.sessionToken? = some token :=
  start_of_calls sessionCalls_accountCall h hlast

theorem session_origin (h : Reached AccountCall w flights history) :
    w.session = .empty ∨ ∃ earlier i token u,
      History.LastStart history earlier i token u ∧ w.session = .started token u :=
  origin_of_calls sessionCalls_accountCall h

/-- **Token and current user belong together**, in every interleaving of calls that begin and end
sessions.  There is a token if and only if there is a user, and then it is the user's own. -/
theorem session_consistent (h : Reached AccountCall w flights history) :
    (w.session.token.isSome ↔ w.session.user.isSome) ∧
      ∀ token u, w.session.token = some token → w.session.user = some u →
        u.sessionToken? = some token := by
  obtain hempty | ⟨_, _, token, u, hlast, hstarted⟩ := session_origin h
  · rw [hempty]
    exact ⟨Iff.rfl, fun _ _ htoken => nomatch htoken⟩
  · obtain ⟨_, -, -, htoken⟩ := start_of_reached h hlast
    rw [hstarted]
    refine ⟨Iff.rfl, ?_⟩
    rintro _ _ ⟨⟩ ⟨⟩
    exact htoken

end Interleaving

/-- A server that gives every request the same document. -/
def answering (document : Json) : Server Unit := fun _ s => (.ok ⟨200, document.compact⟩, s)

/-- Here the reply replaces the name with which the login was made, and a failed exchange of a
token follows. -/
theorem session_consistent_login :
    let serve := answering (.object [("username", .string "Ann"), ("sessionToken", .string "r:1")])
    let w := ((login {} "ann" "secret").run serve { server := () }).2
    let w' := ((validate {} "r:2").run (answering (.object [("error", .string "gone")])) w).2
    w'.session.token = some "r:1" ∧
      ∃ u, w'.session.user = some u ∧ u.sessionToken? = some "r:1" := by
  intro serve w w'
  have htoken : w'.session.token = some "r:1" := by decide +kernel
  obtain ⟨flights, history, h⟩ : ∃ flights history, Reached AccountCall w' flights history := by
    have hempty : Reached AccountCall { server := () } [] [] := .empty rfl
    obtain ⟨_, _, h⟩ := hempty.run (.login {} "ann" "secret") serve
    exact h.run (.validate {} "r:2") _
  clear_value w'
  obtain ⟨hiff, hown⟩ := session_consistent h
  obtain ⟨u, hu⟩ := Option.isSome_iff_exists.1 (hiff.1 (by simp [htoken]))
  exact ⟨htoken, u, hu, hown _ u htoken hu⟩

end DocStore.Client
