import DocStore.Proofs.Client.Session

/-!
# What a reader of the session sees

Token and current user are read one after the other (`Client.readSession`), and each read sees one
session.  But other calls on the session may come between the two reads, in any number.

* `Client.reader_sees_one_session_iff` : the user whom a reader sees has the token that it has seen
  **if and only if** no session was started last between its two reads with another token;
* `Client.mixed_session_seen` : so a reader can see the token of one login and the user of another.
-/

namespace DocStore

open Call

variable {σ : Type}

/-! ### Two events of one call -/

namespace History

/-- The change of the session that came last, if there was any. -/
def lastChange? (history : History) : Option SessionChange :=
  (sessionChanges (history.map Prod.snd)).getLast?

/-- The first event that a call shows, with what came before and after. -/
theorem exists_of_of_eq_cons {history : History} {i : Nat} {event : CallEvent}
    {events : List CallEvent} (h : history.of i = event :: events) :
    ∃ before after : History, history = before ++ (i, event) :: after ∧ after.of i = events := by
  obtain ⟨⟨j, event'⟩, rest, hfilter, rfl, rfl⟩ := List.map_eq_cons_iff.1 h
  obtain ⟨before, after, rfl, -, hj, rfl⟩ := List.filter_eq_cons_iff.1 hfilter
  obtain rfl : j = i := of_decide_eq_true hj
  exact ⟨before, after, rfl, rfl⟩

/-- The two events of a call that shows just two, with what came between. -/
theorem exists_of_of_eq_pair {history : History} {i : Nat} {first second : CallEvent}
    (h : history.of i = [first, second]) :
    ∃ before between after : History,
      history = before ++ (i, first) :: (between ++ (i, second) :: after) := by
  obtain ⟨before, rest, rfl, hrest⟩ := exists_of_of_eq_cons h
  obtain ⟨between, after, rfl, -⟩ := exists_of_of_eq_cons hrest
  exact ⟨before, between, after, rfl⟩

/-- The session after more events is the one before them, unless a change came last. -/
theorem session_append_cases (before between : History) :
    (between.lastChange? = none ∧ (before ++ between).session = before.session) ∨
      ∃ change s, between.lastChange? = some change ∧
        (before ++ between).session = Session.change s change := by
  have hsession : (before ++ between).session =
      (sessionChanges (between.map Prod.snd)).foldl Session.change before.session := by
    rw [session, List.map_append, sessionChanges_append, List.foldl_append]
    rfl
  unfold lastChange?
  obtain hnone | ⟨changes, change, hchanges⟩ :=
    List.eq_nil_or_concat (sessionChanges (between.map Prod.snd))
  · left
    rw [hsession, hnone]
    exact ⟨rfl, rfl⟩
  · right
    rw [List.concat_eq_append] at hchanges
    refine ⟨change, changes.foldl Session.change before.session, ?_, ?_⟩
    · rw [hchanges, List.getLast?_concat]
    · rw [hsession, hchanges, List.foldl_append]
      rfl

theorem exists_mem_of_lastChange? {history : History} {change : SessionChange}
    (h : history.lastChange? = some change) : ∃ i, (i, .changeSession change) ∈ history := by
  obtain ⟨event, hmem, hchange⟩ := List.mem_filterMap.1 (List.mem_of_getLast? h)
  obtain rfl := CallEvent.change?_eq_some_iff.1 hchange
  obtain ⟨⟨i, _⟩, hmem, rfl⟩ := List.mem_map.1 hmem
  exact ⟨i, hmem⟩

end History

namespace Client

/-! ### Readers among the calls on a session -/

/-- Read the active token, and then the current user. -/
def readSession : Call (Option String × Option User) := do
  let token ← Call.token
  let user ← Call.user
  return (token, user)

/-- The calls that begin and end sessions, and readers. -/
inductive SharedCall : ∀ α : Type, Call α → Prop
  | account {α : Type} {call : Call α} (h : AccountCall α call) : SharedCall α call
  | reader : SharedCall _ readSession

theorem readSession_eq :
    readSession = .readToken fun token => .readUser fun user => .done (token, user) := rfl

theorem trace_readSession {events : List CallEvent} {token : Option String} {user : Option User} :
    Trace readSession events (token, user) ↔ events = [.readToken token, .readUser user] := by
  rw [readSession_eq]
  constructor
  · intro h
    obtain ⟨_, _, rfl, huser⟩ := trace_readToken.1 h
    obtain ⟨_, _, rfl, hdone⟩ := trace_readUser.1 huser
    obtain ⟨rfl, hresult⟩ := trace_done.1 hdone
    cases hresult
    rfl
  · rintro rfl
    exact .readToken (.readUser (.refl _))

theorem sessionCalls_sharedCall : SessionCalls SharedCall := by
  intro α call events x hcall htrace
  cases hcall with
  | account h => exact h.sessionTrace htrace
  | reader =>
    obtain rfl := trace_readSession.1 htrace
    exact .quiet rfl

section Reader

variable {w : World σ} {flights : List (Flight σ)} {history : History} {i : Nat} {token : String}
  {u : User}

/-- The current user has a token, and it is the active one. -/
theorem token_of_user (h : Reached SharedCall w flights history) (hu : w.session.user = some u) :
    u.sessionToken? = w.session.token := by
  obtain hempty | ⟨_, _, token, u', hlast, hstarted⟩ := origin_of_calls sessionCalls_sharedCall h
  · rw [hempty] at hu
    cases hu
  · obtain ⟨-, -, -, htoken⟩ := start_of_calls sessionCalls_sharedCall h hlast
    rw [hstarted] at hu ⊢
    cases hu
    exact htoken

/-- A user is current after a change of the session only if the change started it. -/
theorem start_of_lastChange? (h : Reached SharedCall w flights history) {before between : History}
    (hhistory : history = before ++ between) {change : SessionChange} (s : Session)
    (hlast : between.lastChange? = some change) (hu : (s.change change).user = some u) :
    ∃ token, change = .start token u := by
  obtain ⟨j, hmem⟩ := History.exists_mem_of_lastChange? hlast
  obtain ⟨earlier, later, rfl⟩ := List.append_of_mem hmem
  rw [← List.append_assoc] at hhistory
  obtain rfl | ⟨token, u', _, rfl, -⟩ :=
    change_cases_of_calls sessionCalls_sharedCall h hhistory
  · cases hu
  · cases hu
    exact ⟨token, rfl⟩

/-- **When a reader sees one session.**  The user whom a reader sees has the token that the reader has
seen before, in any interleaving of readers and of calls that begin and end sessions, exactly if the
last change of the session between the two reads, if there was any, has started a session with the
same token. -/
theorem reader_sees_one_session_iff (h : Reached SharedCall w flights history)
    (hreads : Trace readSession (history.of i) (some token, some u)) :
    ∃ before between after : History,
      history = before ++ (i, .readToken (some token)) ::
        (between ++ (i, .readUser (some u)) :: after) ∧
      (u.sessionToken? = some token ↔
        ∀ change, between.lastChange? = some change → change = .start token u) := by
  obtain ⟨before, between, after, hhistory⟩ :=
    History.exists_of_of_eq_pair (trace_readSession.1 hreads)
  refine ⟨before, between, after, hhistory, ?_⟩
  -- The worlds that have shown the token and the user, each reached with the events before.
  obtain ⟨first, _, _, _, hfirst, htoken, -⟩ := h.shows_of_append hhistory
  have hsecond : history =
      (before ++ (i, .readToken (some token)) :: between) ++ (i, .readUser (some u)) :: after := by
    rw [hhistory, List.append_assoc, List.cons_append]
  obtain ⟨second, _, _, _, hsecond, hu, -⟩ := h.shows_of_append hsecond
  have hown : u.sessionToken? = second.session.token := token_of_user hsecond hu.symm
  have hquiet : (before ++ [(i, CallEvent.readToken (some token))]).session = before.session :=
    History.session_concat ..
  have hcases :=
    History.session_append_cases (before ++ [(i, CallEvent.readToken (some token))]) between
  rw [hquiet, List.append_assoc, List.singleton_append, ← hfirst.session_eq,
    ← hsecond.session_eq] at hcases
  obtain ⟨hnone, hsame⟩ | ⟨change, s, hlast, hchanged⟩ := hcases
  · rw [hown, hsame, ← htoken, hnone]
    exact iff_of_true rfl nofun
  · have hcurrent : (s.change change).user = some u := by rw [← hchanged, ← hu]
    obtain ⟨token', rfl⟩ := start_of_lastChange? hsecond (List.append_cons ..) s hlast hcurrent
    rw [hown, hchanged, hlast]
    simp [Session.change, Session.started]

/-- A reader reads, another call runs, and the reader reads again. -/
theorem exists_read_around (h : Reached SharedCall w flights history) {α : Type} {call : Call α}
    (hcall : SharedCall α call) (serve : Server σ) :
    ∃ (flights' : List (Flight σ)) (history' : History) (i : Nat),
      Reached SharedCall (call.run serve w).2 flights' history' ∧
        Trace readSession (history'.of i) (w.session.token, (call.run serve w).2.session.user) := by
  obtain ⟨events, htrace, hplays⟩ := run_eq_iff.1 (rfl : call.run serve w = _)
  -- What is left of the reader after its first read.
  let rest : Call (Option String × Option User) :=
    .readUser fun user => .done (w.session.token, user)
  have hstarted := (h.start serve .reader).start serve hcall
  have hreader : ((flights ++ [⟨serve, readSession⟩]) ++ [⟨serve, call⟩])[flights.length]? =
      some (⟨serve, readSession⟩ : Flight σ) := by simp
  have hread : Steps readSession [.readToken w.session.token] rest := .readToken (.refl _)
  have hfirst := hstarted.step hreader hread ⟨rfl, rfl⟩
  have hran := hfirst.plays (i := flights.length + 1) (by simp) htrace hplays
  have hread' : Steps rest [.readUser (call.run serve w).2.session.user]
      (.done (w.session.token, (call.run serve w).2.session.user)) := .readUser (.refl _)
  have hsecond := hran.step (i := flights.length) (by simp; rfl) hread' ⟨rfl, rfl⟩
  refine ⟨_, _, flights.length, hsecond, trace_readSession.2 ?_⟩
  rw [History.of_concat, if_pos rfl, History.of_append, History.of_concat, if_pos rfl,
    History.of_map, if_neg (Nat.succ_ne_self _), h.of_length]
  rfl

end Reader

/-! ### A login between the two reads -/

/-- The world after a login, to which the server has replied with a token. -/
def afterLogin (username token : String) (w : World Unit) : World Unit :=
  ((login {} username "secret").run (answering (.object [("sessionToken", .string token)])) w).2

/-- A reader who reads the token after one login and the user after another. -/
theorem exists_read_around_login (username username' token token' : String) :
    let w := afterLogin username token { server := () }
    let w' := afterLogin username' token' w
    ∃ (flights : List (Flight Unit)) (history : History) (i : Nat),
      Reached SharedCall w' flights history ∧
        Trace readSession (history.of i) (w.session.token, w'.session.user) := by
  intro w w'
  have hempty : Reached SharedCall ({ server := () } : World Unit) [] [] := .empty rfl
  obtain ⟨_, _, h⟩ := hempty.run (.account (.login {} username "secret")) (answering _)
  exact exists_read_around h (.account (.login {} username' "secret")) (answering _)

/-- Here the second login is given the same token as the first. -/
theorem reader_sees_one_session_same_token :
    ∃ (w : World Unit) (flights : List (Flight Unit)) (history : History) (i : Nat) (u : User),
      Reached SharedCall w flights history ∧
      Trace readSession (history.of i) (some "r:1", some u) ∧ u.sessionToken? = some "r:1" ∧
      ∃ before between after : History,
        history = before ++ (i, .readToken (some "r:1")) ::
          (between ++ (i, .readUser (some u)) :: after) ∧
        ∀ change, between.lastChange? = some change → change = .start "r:1" u := by
  obtain ⟨flights, history, i, h, hreads⟩ := exists_read_around_login "ann" "bob" "r:1" "r:1"
  have htoken : (afterLogin "ann" "r:1" { server := () }).session.token = some "r:1" := by
    decide +kernel
  have huser : ((afterLogin "bob" "r:1" (afterLogin "ann" "r:1" { server := () })).session.user.bind
      User.sessionToken?) = some "r:1" := by
    decide +kernel
  obtain ⟨u, hu, hown⟩ := Option.bind_eq_some_iff.1 huser
  rw [htoken, hu] at hreads
  obtain ⟨before, between, after, hhistory, hiff⟩ := reader_sees_one_session_iff h hreads
  exact ⟨_, flights, history, i, u, h, hreads, hown, before, between, after, hhistory, hiff.1 hown⟩

/-- **A reader can see the token of one login with the user of another**: between its two reads `bob`
logs in where `ann` was logged in. -/
theorem mixed_session_seen :
    ∃ (w : World Unit) (flights : List (Flight Unit)) (history : History) (i : Nat) (u : User),
      Reached SharedCall w flights history ∧
      Trace readSession (history.of i) (some "r:1", some u) ∧
      u.username? = some "bob" ∧ u.sessionToken? = some "r:2" := by
  obtain ⟨flights, history, i, h, hreads⟩ := exists_read_around_login "ann" "bob" "r:1" "r:2"
  have htoken : (afterLogin "ann" "r:1" { server := () }).session.token = some "r:1" := by
    decide +kernel
  have huser : ((afterLogin "bob" "r:2" (afterLogin "ann" "r:1" { server := () })).session.user.map
      fun u => (u.username?, u.sessionToken?)) = some (some "bob", some "r:2") := by
    decide +kernel
  obtain ⟨u, hu, hown⟩ := Option.map_eq_some_iff.1 huser
  rw [htoken, hu] at hreads
  obtain ⟨hname, hown⟩ := Prod.mk.inj hown
  exact ⟨_, flights, history, i, u, h, hreads, hname, hown⟩

end Client

end DocStore
