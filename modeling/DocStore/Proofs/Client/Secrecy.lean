import DocStore.Proofs.Client.Reachable
import DocStore.Proofs.Client.TokenOrigin

/-!
# The password shows in the request alone

Two attempts to log in or sign up with users who differ in their passwords only, or in the place of the
password among the attributes, cannot be told apart by what they leave behind.

* `User.HasPassword` : a user is a record with a password somewhere among its attributes;
* `User.HasPassword.scrub_eq` : removing the password leaves that record, in its order;
* `Client.attempt_eq` : what an attempt leaves is made of the user without the password and of what the
  request has brought;
* `Client.password_leaves_no_trace` : so **outcome, user and session are the same**, however the attempt
  ends, if the two requests bring the same.

A reply that echoes a password is no exception: what it holds is laid over both users alike.
-/

namespace DocStore

/-! ### Users with a password -/

/-- A user is a record with a password in some place among its attributes. -/
structure User.HasPassword (u : User) (others : Record) (password : String) : Prop where
  className : u.record.className = others.className
  objectId : u.record.objectId = others.objectId
  createdAt : u.record.createdAt = others.createdAt
  updatedAt : u.record.updatedAt = others.updatedAt
  acl : u.record.acl = others.acl
  attributes : ∃ before after, others.attributes = before ++ after ∧
    u.record.attributes = before ++ ("password", .string password) :: after

/-- Erasing a name that comes first in the middle of a list joins what is before and after it. -/
theorem Members.erase_append_cons {α : Type} {before : Members α} {key : String}
    (h : key ∉ before.keys) (value : α) (after : Members α) :
    erase (before ++ (key, value) :: after) key = before ++ after := by
  induction before with
  | nil => simp [erase]
  | cons first before ih =>
    obtain ⟨k, v⟩ := first
    simp only [keys_cons, List.mem_cons, not_or] at h
    rw [List.cons_append, erase, if_neg (Ne.symm h.1), ih h.2, List.cons_append]

namespace User.HasPassword

variable {u : User} {others : Record} {password : String}

/-- Removing the password leaves the record without it, its attributes in their order. -/
theorem scrub_eq (h : u.HasPassword others password) : u.scrub = ⟨others⟩ := by
  obtain ⟨before, after, hothers, hattributes⟩ := h.attributes
  have hbefore : "password" ∉ before.keys := by
    have hdistinct := u.record.distinct
    rw [hattributes, Members.keys, List.map_append, List.nodup_append] at hdistinct
    exact fun hmem => hdistinct.2.2 _ hmem _ List.mem_cons_self rfl
  have herase : u.record.attributes.erase "password" = others.attributes := by
    rw [hattributes, Members.erase_append_cons hbefore, hothers]
  exact congrArg User.mk
    (Record.ext h.className h.objectId h.createdAt h.updatedAt herase h.acl)

theorem get?_eq (h : u.HasPassword others password) {key : String} (hkey : key ≠ "password") :
    u.record.get? key = others.get? key := by
  have hscrub : u.scrub.record.get? key = u.record.get? key := by
    rw [User.scrub, Record.get?_remove, if_neg (Ne.symm hkey)]
  rw [← hscrub, h.scrub_eq]

theorem getString?_password (h : u.HasPassword others password) :
    u.record.getString? "password" = some password := by
  obtain ⟨before, after, -, hattributes⟩ := h.attributes
  have hmem : ("password", Json.string password) ∈ u.record.attributes := by
    rw [hattributes]
    exact List.mem_append_right _ List.mem_cons_self
  rw [Record.getString?, Record.get?, Members.get?_of_mem u.record.distinct hmem]
  rfl

/-- Whether an attempt can be made depends on the password only in that it is not empty. -/
theorem credentials_eq (h : u.HasPassword others password) (hpassword : password ≠ "") :
    Client.credentials u = ((⟨others⟩ : User).require "username").map (·, password) := by
  have husername : u.require "username" = (⟨others⟩ : User).require "username" := by
    simp only [User.require, Record.getString?, h.get?_eq (show "username" ≠ "password" by decide)]
  have hrequire : u.require "password" = .ok password := by
    simp only [User.require, h.getString?_password, if_neg hpassword]
  rw [Client.credentials, husername, hrequire]
  cases (⟨others⟩ : User).require "username" <;> rfl

end User.HasPassword

namespace Client

variable {σ σ' : Type} {serve : Server σ} {serve' : Server σ'} {c : Config}

/-! ### What an attempt leaves behind -/

/-- Whatever was sent on the way from one world to another has brought this. -/
def Brings (serve : Server σ) (w v : World σ) (delivery : Delivery) : Prop :=
  ∀ request, v.sent = w.sent ++ [request] → (serve request w.server).1 = delivery

/-- What is left of a user and a session once it is known what came of an attempt's request. -/
def leftBy (s : Session) (u : User) : Except Error Json → (Outcome × User) × Session
  | .error e => ((.error e, u), s)
  | .ok reply => ((.ok (), (u.merge reply).scrub), captured s (u.merge reply))

/-- The run of an attempt: nothing is sent if the URL cannot be read, and else one request. -/
theorem run_attempt (serve : Server σ) (w : World σ) (request : Api.Request) (u : User) :
    (attempt c request u).run serve w =
      match request.resolve c w.session.token with
      | .error e => ((.error e, u.scrub), w)
      | .ok http =>
        match leftBy w.session u.scrub (replyOf (serve http w.server).1) with
        | (x, s) => (x, { (w.send serve http).2 with session := s }) := by
  rw [attempt, Call.bind_eq, execute_eq]
  cases hresolve : request.resolve c w.session.token with
  | error e => simp [Call.bind, Call.run, hresolve]
  | ok http =>
    have hsend : (w.send serve http).1 = (serve http w.server).1 := rfl
    simp only [Call.bind, Call.run, hresolve, hsend]
    cases hreply : replyOf (serve http w.server).1 with
    | error e => rfl
    | ok reply =>
      simp only [leftBy, captured, capture]
      cases (u.scrub.merge reply).sessionToken? <;> rfl

/-- **What an attempt leaves** is made of the user without the password, and of what its request has
brought. -/
theorem attempt_eq {request : Api.Request} {u : User} {w v : World σ} {x : Outcome × User}
    {delivery : Delivery} (hrun : (attempt c request u).run serve w = (x, v))
    (hbrings : Brings serve w v delivery) :
    (x, v.session) = leftBy w.session u.scrub
      ((Config.checkUrl (c.resourceText request.path)).bind fun _ => replyOf delivery) := by
  rw [run_attempt, Api.Request.resolve, Config.resourceUrl] at hrun
  cases hurl : Config.checkUrl (c.resourceText request.path) with
  | error e =>
    rw [hurl] at hrun
    cases hrun
    rfl
  | ok url =>
    rw [hurl] at hrun
    cases hrun
    rw [← hbrings _ rfl]
    rfl

/-- What a login or a sign-up at a path leaves, told without the password. -/
def leftOf (c : Config) (path : String) (s : Session) (others : Record) (delivery : Delivery) :
    (Outcome × User) × Session :=
  match (⟨others⟩ : User).require "username" with
  | .error e => ((.error e, ⟨others⟩), s)
  | .ok _ =>
    leftBy s ⟨others⟩ ((Config.checkUrl (c.resourceText path)).bind fun _ => replyOf delivery)

section Operations

variable {operation : Operation User} {u : User} {others : Record} {password : String}
  {w v : World σ} {x : Outcome × User} {delivery : Delivery}

/-- Logging in and signing up are attempts at a path of their own, if user and password are given. -/
theorem AttemptOperation.eq_attempt (hop : AttemptOperation c operation) :
    ∃ (path : String) (request : User → String × String → Api.Request),
      (∀ u pair, (request u pair).path = path) ∧ ∀ u, operation u =
        match credentials u with
        | .error e => .done (.error e, u.scrub)
        | .ok pair => attempt c (request u pair) u := by
  cases hop with
  | logIn =>
    refine ⟨_, fun _ pair => loginRequest c pair.1 pair.2, fun _ _ => rfl, fun u => ?_⟩
    unfold Client.logIn
    cases credentials u <;> rfl
  | signUp =>
    refine ⟨_, fun u _ => signUpRequest c u, fun _ _ => rfl, fun u => ?_⟩
    unfold Client.signUp
    cases credentials u <;> rfl

/-- **What a login or a sign-up leaves is a matter of everything but the password.** -/
theorem AttemptOperation.left_eq (hop : AttemptOperation c operation) :
    ∃ path, ∀ {σ : Type} {serve : Server σ} {w v : World σ} {u : User} {others : Record}
      {password : String} {x : Outcome × User} {delivery : Delivery},
      u.HasPassword others password → password ≠ "" →
      (operation u).run serve w = (x, v) → Brings serve w v delivery →
        (x, v.session) = leftOf c path w.session others delivery := by
  obtain ⟨path, request, hpath, hoperation⟩ := hop.eq_attempt
  refine ⟨path, fun {σ serve w v u others password x delivery} hu hpassword hrun hbrings => ?_⟩
  rw [hoperation, hu.credentials_eq hpassword] at hrun
  unfold leftOf
  cases hrequire : (⟨others⟩ : User).require "username" with
  | error e =>
    rw [hrequire] at hrun
    cases hrun
    rw [hu.scrub_eq]
  | ok username =>
    rw [hrequire] at hrun
    rw [attempt_eq hrun hbrings, hpath, hu.scrub_eq]

/-- However an attempt ends, the user has no password after it. -/
theorem AttemptOperation.password_notMem (hop : AttemptOperation c operation)
    (hrun : (operation u).run serve w = (x, v)) : "password" ∉ x.2.record.attributes.keys := by
  have hscrub : ∀ u : User, "password" ∉ u.scrub.record.attributes.keys := fun u => by
    rw [← Members.get?_eq_none_iff]
    exact (Record.get?_remove u.record "password" "password").trans (if_pos rfl)
  obtain ⟨events, htrace, -⟩ := Call.run_eq_iff.1 hrun
  obtain ⟨outcome, u'⟩ := x
  cases hop.afterAttempt htrace with
  | failed => exact hscrub u
  | succeeded => exact hscrub _

end Operations

/-- **The password leaves no trace but the request.**  Two users differ only in their passwords, which
are not empty, and in the places of these; in the same session they log in, or sign up, and whatever
is sent in the two runs brings the same.  Then the outcome is the same, the users are the same
after it, their attributes in the same order and no password among them, and so is the session. -/
theorem password_leaves_no_trace {operation : Operation User} (hop : AttemptOperation c operation)
    {u u' : User} {others : Record} {password password' : String}
    (hu : u.HasPassword others password) (hu' : u'.HasPassword others password')
    (hpassword : password ≠ "") (hpassword' : password' ≠ "")
    {w v : World σ} {w' v' : World σ'} {x x' : Outcome × User} {delivery : Delivery}
    (hsession : w.session = w'.session)
    (hrun : (operation u).run serve w = (x, v)) (hrun' : (operation u').run serve' w' = (x', v'))
    (hbrings : Brings serve w v delivery) (hbrings' : Brings serve' w' v' delivery) :
    x = x' ∧ "password" ∉ x.2.record.attributes.keys ∧ v.session = v'.session := by
  obtain ⟨path, hleft⟩ := hop.left_eq
  have hsame : (x, v.session) = (x', v'.session) := calc
    (x, v.session) = leftOf c path w.session others delivery := hleft hu hpassword hrun hbrings
    _ = leftOf c path w'.session others delivery := by rw [hsession]
    _ = (x', v'.session) := (hleft hu' hpassword' hrun' hbrings').symm
  obtain ⟨hx, hv⟩ := Prod.mk.inj hsame
  exact ⟨hx, hop.password_notMem hrun, hv⟩

/-- Here one user has the password first and the other one last, and the server echoes one. -/
theorem password_leaves_no_trace_echoed :
    let others : Record := ((User.setUsername {} "ann").setEmail "ann@example.com").record
    let u : User := ((User.setPassword {} "secret").setUsername "ann").setEmail "ann@example.com"
    let u' : User := ((User.setUsername {} "ann").setEmail "ann@example.com").setPassword "hidden"
    let serve := answering (.object [("objectId", .string "u1"), ("sessionToken", .string "r:1"),
      ("password", .string "secret")])
    let w : World Unit := { server := () }
    u.HasPassword others "secret" ∧ u'.HasPassword others "hidden" ∧
      ∃ x v x' v', (logIn {} u).run serve w = (x, v) ∧ (logIn {} u').run serve w = (x', v') ∧
        v.sent.map Http.Request.query = [[("username", "ann"), ("password", "secret")]] ∧
        v'.sent.map Http.Request.query = [[("username", "ann"), ("password", "hidden")]] ∧
        x = x' ∧ "password" ∉ x.2.record.attributes.keys ∧ v.session = v'.session := by
  intro others u u' serve w
  have hu : u.HasPassword others "secret" := ⟨rfl, rfl, rfl, rfl, rfl, [], _, rfl, rfl⟩
  have hu' : u'.HasPassword others "hidden" :=
    ⟨rfl, rfl, rfl, rfl, rfl, _, [], (List.append_nil _).symm, rfl⟩
  have hsent : ((logIn {} u).run serve w).2.sent.map Http.Request.query =
      [[("username", "ann"), ("password", "secret")]] := by
    decide +kernel
  have hsent' : ((logIn {} u').run serve w).2.sent.map Http.Request.query =
      [[("username", "ann"), ("password", "hidden")]] := by
    decide +kernel
  generalize hrun : (logIn {} u).run serve w = run at hsent
  generalize hrun' : (logIn {} u').run serve w = run' at hsent'
  obtain ⟨x, v⟩ := run
  obtain ⟨x', v'⟩ := run'
  have hsame := password_leaves_no_trace .logIn hu hu' (by decide) (by decide) rfl hrun hrun'
    (fun _ _ => rfl) (fun _ _ => rfl)
  exact ⟨hu, hu', x, v, x', v', rfl, rfl, hsent, hsent', hsame⟩

end Client

end DocStore
