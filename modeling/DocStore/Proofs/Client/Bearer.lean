import DocStore.Proofs.Api.Request
import DocStore.Proofs.Client.Sent
import DocStore.Proofs.Client.Session

/-!
# Whose session a request speaks for

A client shares one session among all its operations, and replies, logouts and callers change it at
any time.  Whose token a request carries depends on the operation alone (`Client.Bearer`): an attempt
to log in or sign up carries none, the exchange of a token carries that token, and every other
operation carries the token that is active when it starts.

* `Client.Carries` : what the headers of a request are, for its bearer;
* `Client.Bears.speaks` : each operation sends a request of its bearer, whatever other calls on the
  session do in between;
* `Client.Course` : a run of operations, one after the other, and of changes of the session, with
  an entry for each operation;
* `Client.token_discipline` : **no token leaks** in any run: what was sent are the requests of the
  entries, and each of them carries what its operation calls for.
-/

namespace DocStore.Client

open Call

/-- Whose session a request speaks for. -/
inductive Bearer where
  /-- The request asks for a session. -/
  | nobody
  /-- The session of a given token, whichever one is active. -/
  | holder (token : String)
  /-- The active session, if there is one. -/
  | current

/-- The token that a request carries while a token may be active. -/
def Bearer.token? : Bearer → Option String → Option String
  | nobody, _ => none
  | holder token, _ => some token
  | current, active => active

/-- Whether a request asks for a session that can be revoked. -/
def Bearer.revocable (c : Config) : Bearer → Bool
  | nobody => c.revocableSessions
  | _ => false

/-- The operations of a client, each with the bearer of its requests. -/
inductive Bears (c : Config) : Bearer → ∀ α : Type, Call α → Prop
  | logIn (u : User) : Bears c .nobody _ (logIn c u)
  | login (username password : String) : Bears c .nobody _ (login c username password)
  | signUp (u : User) : Bears c .nobody _ (signUp c u)
  | validate (token : String) : Bears c (.holder token) _ (validate c token)
  | save {τ : Type} [Stored τ] (target : τ) : Bears c .current _ (save c target)
  | fetch {τ : Type} [Stored τ] (target : τ) : Bears c .current _ (fetch c target)
  | refresh {τ : Type} [Stored τ] (target : τ) : Bears c .current _ (refresh c target)
  | update {τ : Type} [Stored τ] (changes : Json) (target : τ) :
      Bears c .current _ (update c changes target)
  | delete {τ : Type} [Stored τ] (target : τ) : Bears c .current _ (delete c target)
  | find (q : Query) : Bears c .current _ (find c q)
  | requestPasswordReset (email : String) : Bears c .current _ (requestPasswordReset c email)
  | resetPassword (u : User) : Bears c .current _ (resetPassword c u)

/-- The headers of a request are those that its bearer calls for: the four standard ones first, in
their order and once each, at most one token, and the wish for a revocable session. -/
structure Carries (c : Config) (bearer : Bearer) (active : Option String)
    (request : Http.Request) : Prop where
  standard : ∃ rest, request.headers = Api.standardHeaders c ++ rest
  standard_once : ∀ header ∈ Api.standardHeaders c, request.headerValues header.1 = [header.2]
  token : request.headerValues Api.sessionTokenHeader = (bearer.token? active).toList
  revocable : request.headerValues Api.revocableSessionHeader =
    if bearer.revocable c then ["1"] else []

/-! ### One operation -/

/-- What a request says of sessions is what its bearer calls for. -/
structure Speaks (c : Config) (bearer : Bearer) (request : Api.Request) : Prop where
  token : ∀ active, request.token? active = bearer.token? active
  revocable : request.revocable = bearer.revocable c

variable {c : Config} {bearer : Bearer}

theorem Speaks.carries {request : Api.Request} (h : Speaks c bearer request)
    {active : Option String} {http : Http.Request} (hresolve : request.resolve c active = .ok http) :
    Carries c bearer active http := by
  obtain ⟨-, rfl⟩ := Api.Request.resolve_eq_ok_iff.1 hresolve
  exact
    { standard := ⟨_, rfl⟩
      standard_once := fun header hmem => request.headerValues_standard hmem
      token := by rw [request.headerValues_sessionToken, h.token]
      revocable := by rw [request.headerValues_revocableSession, h.revocable] }

/-- A request without a token of its own that is not anonymous. -/
theorem speaks_current {request : Api.Request} (htoken : request.sessionToken = none)
    (hanonymous : request.anonymous = false) (hrevocable : request.revocable = false) :
    Speaks c .current request where
  token active := by simp [Api.Request.token?, htoken, hanonymous, Bearer.token?]
  revocable := hrevocable

theorem speaks_login (username password : String) :
    Speaks c .nobody (loginRequest c username password) := ⟨fun _ => rfl, rfl⟩

/-- **The request of an operation is one of its bearer**, whatever happens while it runs. -/
theorem Bears.speaks {α : Type} {call : Call α} (h : Bears c bearer α call)
    {events : List CallEvent} {x : α} (htrace : Trace call events x) :
    ∃ request, Speaks c bearer request ∧ Sends c request events := by
  cases h with
  | logIn =>
    obtain ⟨username, password, h⟩ := sends_logIn htrace
    exact ⟨_, speaks_login username password, h⟩
  | login =>
    obtain ⟨username, password, h⟩ := sends_login htrace
    exact ⟨_, speaks_login username password, h⟩
  | signUp => exact ⟨_, ⟨fun _ => rfl, rfl⟩, sends_signUp htrace⟩
  | validate => exact ⟨_, ⟨fun _ => rfl, rfl⟩, sends_validate htrace⟩
  | save target =>
    refine ⟨_, ?_, sends_save htrace⟩
    unfold saveRequest
    split <;> exact speaks_current rfl rfl rfl
  | fetch target =>
    obtain ⟨path, h⟩ := sends_onSaved htrace
    exact ⟨_, speaks_current rfl rfl rfl, h⟩
  | refresh target =>
    obtain ⟨path, h⟩ := sends_onSaved htrace
    exact ⟨_, speaks_current rfl rfl rfl, h⟩
  | update changes target =>
    obtain ⟨path, h⟩ := sends_onSaved htrace
    exact ⟨_, speaks_current rfl rfl rfl, h⟩
  | delete target =>
    obtain ⟨path, h⟩ := sends_onSaved htrace
    exact ⟨_, speaks_current rfl rfl rfl, h⟩
  | find q => exact ⟨_, speaks_current rfl rfl rfl, sends_exchange htrace⟩
  | requestPasswordReset => exact ⟨_, speaks_current rfl rfl rfl, sends_requestPasswordReset htrace⟩
  | resetPassword => exact ⟨_, speaks_current rfl rfl rfl, sends_resetPassword htrace⟩

/-! ### A run of operations -/

/-- What is known of an operation of a run: whose settings it used, who bears its requests, the token
that was active when it started, and what it handed to the server. -/
structure Entry where
  config : Config
  bearer : Bearer
  active : Option String
  sent : List Http.Request

variable {σ : Type}

/-- A run of operations, with an entry for each one.  Between them the session may be changed in any
way, and each operation has its own settings and server, so that its reply may be any. -/
inductive Course (start : World σ) : World σ → List Entry → Prop
  | start : Course start start []
  | operate {w : World σ} {entries : List Entry} {c : Config} {bearer : Bearer} {α : Type}
      {call : Call α} (h : Course start w entries) (hcall : Bears c bearer α call)
      (serve : Server σ) :
      Course start (call.run serve w).2 (entries ++
        [⟨c, bearer, w.session.token, (call.run serve w).2.sent.drop w.sent.length⟩])
  | change {w : World σ} {entries : List Entry} (h : Course start w entries)
      (change : SessionChange) : Course start (w.changeSession change) entries

variable {start w : World σ} {entries : List Entry}

/-- What an operation hands to the server, from any world: requests that carry what its bearer calls
for while the token of that world is active. -/
theorem Bears.carries {α : Type} {call : Call α} (h : Bears c bearer α call) (serve : Server σ)
    (w : World σ) :
    ∃ sent, (call.run serve w).2.sent = w.sent ++ sent ∧
      ∀ request ∈ sent, Carries c bearer w.session.token request := by
  obtain ⟨events, htrace, hplays⟩ := run_eq_iff.1 (rfl : call.run serve w = _)
  obtain ⟨request, hspeaks, hsends⟩ := h.speaks htrace
  obtain hnone | ⟨http, hresolve, hone⟩ := hsends.of_plays hplays
  · exact ⟨[], by rw [hnone, List.append_nil], by simp⟩
  · refine ⟨[http], hone, ?_⟩
    intro request' hmem
    rw [List.mem_singleton.1 hmem]
    exact hspeaks.carries hresolve

/-- **No token leaks.**  Whatever the server answers and however the session changes, the requests of
a run are those of its entries in order, and each carries the headers that its operation calls for
while the token is active that was so when the operation started. -/
theorem token_discipline (h : Course start w entries) :
    w.sent = start.sent ++ entries.flatMap Entry.sent ∧
      ∀ entry ∈ entries, ∀ request ∈ entry.sent,
        Carries entry.config entry.bearer entry.active request := by
  induction h with
  | start => simp
  | change _ _ ih => exact ih
  | @operate w entries c bearer α call h hcall serve ih =>
    obtain ⟨hsent, hcarries⟩ := ih
    obtain ⟨sent, happend, hrequests⟩ := hcall.carries serve w
    have hdrop : (call.run serve w).2.sent.drop w.sent.length = sent := by
      rw [happend, List.drop_left]
    refine ⟨?_, ?_⟩
    · rw [hdrop, happend, hsent]
      simp
    · intro entry hmem
      rcases List.mem_append.1 hmem with hmem | hmem
      · exact hcarries entry hmem
      · obtain rfl := List.mem_singleton.1 hmem
        rw [hdrop]
        exact hrequests

/-- Here a login starts a session, an object is saved in it, the token is replaced, a query runs, and
another login is made while that token is active. -/
theorem token_discipline_replaced :
    let serve := answering (.object [("sessionToken", .string "r:1")])
    let start : World Unit := { server := () }
    let w₁ := ((login {} "ann" "secret").run serve start).2
    let w₂ := ((save {} ({ className := "Score" } : Record)).run serve w₁).2
    let w₃ := w₂.changeSession (.setToken (some "r:2"))
    let w₄ := ((find {} { className := "Score" }).run serve w₃).2
    let w₅ := ((login { revocableSessions := true } "bob" "secret").run serve w₄).2
    ∃ entries, Course start w₅ entries ∧
      entries.map (fun entry => (entry.active, entry.sent.length)) =
        [(none, 1), (some "r:1", 1), (some "r:2", 1), (some "r:2", 1)] ∧
      ∀ entry ∈ entries, ∀ request ∈ entry.sent,
        Carries entry.config entry.bearer entry.active request := by
  intro serve start w₁ w₂ w₃ w₄ w₅
  have h₁ := (.start : Course start start []).operate (Bears.login (c := {}) "ann" "secret") serve
  have h₂ := h₁.operate (Bears.save (c := {}) ({ className := "Score" } : Record)) serve
  have h₄ := (h₂.change (.setToken (some "r:2"))).operate
    (Bears.find (c := {}) { className := "Score" }) serve
  have h₅ := h₄.operate
    (Bears.login (c := { revocableSessions := true }) "bob" "secret") serve
  exact ⟨_, h₅, by decide +kernel, (token_discipline h₅).2⟩

end DocStore.Client
