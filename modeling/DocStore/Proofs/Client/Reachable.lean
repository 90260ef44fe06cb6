import DocStore.Proofs.Client.Atomicity
import DocStore.Proofs.Api.Request
import DocStore.Proofs.Client.Sent
import DocStore.Proofs.Record.Body
import DocStore.Proofs.Success

/-!
# Records that can be reached

A record begins as a new one, as a handle on a stored object, as a document of the server, as a role
or as a user; callers change it, documents are laid over it, and the operations of a client give it
back merged with whatever the server answered (`Client.Reachable`).

* `Client.ObjectOperation.afterReply`, `Client.AttemptOperation.afterAttempt` : what operations do
  to a record: at most one document is laid over it, and an attempt removes the password;
* `Client.Reachable.sound` : **no attribute ever has a reserved name**, and the class never changes;
* `Client.saved_document` : so what is sent when such a record is saved or signs up is exactly its
  attributes without the session token, in their order, and its access control list.
-/

namespace DocStore.Client

open Call

/-- The operations on a stored object. -/
inductive ObjectOperation (c : Config) {τ : Type} [Stored τ] : Operation τ → Prop
  | save : ObjectOperation c (save c)
  | fetch : ObjectOperation c (fetch c)
  | refresh : ObjectOperation c (refresh c)
  | update (changes : Json) : ObjectOperation c (update c changes)
  | delete : ObjectOperation c (delete c)

/-- The attempts to make a user current. -/
inductive AttemptOperation (c : Config) : Operation User → Prop
  | logIn : AttemptOperation c (logIn c)
  | signUp : AttemptOperation c (signUp c)

/-- The records that can be reached, each with the class for which it was made.  The traces of
operations say nothing of the server, so that every reply is among them. -/
inductive Reachable : String → Record → Prop
  | new (className : String) : Reachable className { className }
  | handle (className objectId : String) : Reachable className { className, objectId }
  | described (className : String) (document : Json) :
      Reachable className (Record.ofDocument className document)
  | role {name : String} {acl : Acl} {role : Role} (h : Role.create name acl = .ok role) :
      Reachable Api.Path.roleClass role.record
  | user : Reachable Api.Path.userClass ({} : User).record
  /-- A result of a query. -/
  | found {c : Config} {q q' : Query} {r : Record} {events : List CallEvent}
      (h : Trace (find c q) events (.ok (), q')) (hr : r ∈ q'.results) : Reachable q.className r
  /-- A user who has logged in by name and password. -/
  | loggedIn {c : Config} {username password : String} {u : User} {events : List CallEvent}
      (h : Trace (login c username password) events (.ok u)) :
      Reachable Api.Path.userClass u.record
  /-- A user whose token has been exchanged. -/
  | validated {c : Config} {token : String} {u : User} {events : List CallEvent}
      (h : Trace (validate c token) events (.ok u)) : Reachable Api.Path.userClass u.record
  | edit {className : String} {r : Record} (h : Reachable className r) (e : Record.Edit) :
      Reachable className (r.edit e)
  | merge {className : String} {r : Record} (h : Reachable className r) (document : Json) :
      Reachable className (r.merge document)
  | operated {className : String} {c : Config} {τ : Type} [Stored τ] {operation : Operation τ}
      {target target' : τ} {outcome : Outcome} {events : List CallEvent}
      (h : Reachable className (Stored.record target)) (hop : ObjectOperation c operation)
      (htrace : Trace (operation target) events (outcome, target')) :
      Reachable className (Stored.record target')
  | attempted {className : String} {c : Config} {operation : Operation User} {u u' : User}
      {outcome : Outcome} {events : List CallEvent} (h : Reachable className u.record)
      (hop : AttemptOperation c operation) (htrace : Trace (operation u) events (outcome, u')) :
      Reachable className u'.record
  /-- The current user, as an attempt left it in the session. -/
  | current {className : String} {c : Config} {operation : Operation User} {u u' : User}
      {token : String} {x : Outcome × User} {events : List CallEvent}
      (h : Reachable className u.record) (hop : AttemptOperation c operation)
      (htrace : Trace (operation u) events x)
      (hstart : .changeSession (.start token u') ∈ events) : Reachable className u'.record

/-! ### What the operations of a client do to a record -/

/-- A record after an operation: as it was, or with a document laid over it. -/
inductive AfterReply (r : Record) : Record → Prop
  | same : AfterReply r r
  | merged (reply : Json) : AfterReply r (r.merge reply)

section Operations

variable {c : Config} {events : List CallEvent}

section Objects

variable {τ : Type} [Stored τ] {target target' : τ} {outcome : Outcome}

theorem afterReply_of_exchange {request : Api.Request} {receive : Json → Except Error τ}
    (hreceive : ∀ reply target', receive reply = .ok target' →
      AfterReply (Stored.record target) (Stored.record target'))
    (htrace : Trace (exchange c request target receive) events (outcome, target')) :
    AfterReply (Stored.record target) (Stored.record target') := by
  cases trace_exchange.1 htrace with
  | failed => exact .same
  | unusable => exact .same
  | received _ h => exact hreceive _ _ h

theorem afterReply_of_onSaved {request : String → τ → Api.Request}
    {receive : τ → Json → Except Error τ}
    (hreceive : ∀ reply target', receive target reply = .ok target' →
      AfterReply (Stored.record target) (Stored.record target'))
    (htrace : Trace (onSaved (fun path target =>
      exchange c (request path target) target (receive target)) target) events (outcome, target')) :
    AfterReply (Stored.record target) (Stored.record target') := by
  obtain ⟨path, -, htrace⟩ | ⟨-, -, hx⟩ := trace_onSaved.1 htrace
  · exact afterReply_of_exchange hreceive htrace
  · cases hx
    exact .same

theorem afterReply_of_mergeReply (reply : Json) (target' : τ)
    (h : mergeReply target reply = .ok target') :
    AfterReply (Stored.record target) (Stored.record target') := by
  cases h
  rw [Stored.record_withRecord]
  exact .merged reply

/-- An operation on an object leaves its record as it was, or lays a document over it. -/
theorem ObjectOperation.afterReply {operation : Operation τ} (hop : ObjectOperation c operation)
    (htrace : Trace (operation target) events (outcome, target')) :
    AfterReply (Stored.record target) (Stored.record target') := by
  cases hop with
  | save => exact afterReply_of_exchange afterReply_of_mergeReply htrace
  | fetch => exact afterReply_of_onSaved afterReply_of_mergeReply htrace
  | refresh => exact afterReply_of_onSaved afterReply_of_mergeReply htrace
  | update => exact afterReply_of_onSaved afterReply_of_mergeReply htrace
  | delete =>
    refine afterReply_of_onSaved (fun _ _ hreceive => ?_) htrace
    cases hreceive
    exact .same

end Objects

/-- The events of an attempt, as far as they concern the session, and the user after it. -/
inductive AfterAttempt (u : User) : List CallEvent → User → Prop
  | failed {events : List CallEvent} (h : sessionChanges events = []) :
      AfterAttempt u events u.scrub
  | succeeded {first : List CallEvent} (h : sessionChanges first = []) (reply : Json) :
      AfterAttempt u (first ++ captures (u.scrub.merge reply)) (u.scrub.merge reply).scrub

theorem Submitted.afterAttempt {request : String → String → Api.Request} {u u' : User}
    {outcome : Outcome} (h : Submitted c request u events (outcome, u')) :
    AfterAttempt u events u' := by
  cases h with
  | refused => exact .failed rfl
  | attempted _ h =>
    cases h with
    | failed h => exact .failed h.sessionChanges_eq_nil
    | @succeeded _ reply h => exact .succeeded h.sessionChanges_eq_nil reply

theorem AttemptOperation.afterAttempt {operation : Operation User} {u u' : User}
    {outcome : Outcome} (hop : AttemptOperation c operation)
    (htrace : Trace (operation u) events (outcome, u')) : AfterAttempt u events u' := by
  cases hop with
  | logIn => exact (trace_logIn.1 htrace).afterAttempt
  | signUp => exact (trace_signUp.1 htrace).afterAttempt

/-- The only user whom an attempt makes current is the one over whom the reply was laid. -/
theorem AfterAttempt.eq_of_start {u u' u'' : User} {token : String}
    (h : AfterAttempt u events u') (hstart : .changeSession (.start token u'') ∈ events) :
    ∃ reply, u'' = u.scrub.merge reply := by
  cases h with
  | failed h => exact absurd hstart (changeSession_notMem h _)
  | succeeded h reply =>
    rcases List.mem_append.1 hstart with hmem | hmem
    · exact absurd hmem (changeSession_notMem h _)
    · unfold captures at hmem
      split at hmem
      · cases List.mem_singleton.1 hmem
        exact ⟨reply, rfl⟩
      · cases hmem

end Operations

/-! ### The invariant -/

/-- What holds of every record that can be reached. -/
structure Sound (className : String) (r : Record) : Prop where
  wellNamed : r.WellNamed
  className_eq : r.className = className

section Invariant

variable {className : String} {r : Record} {u : User}

theorem Sound.edit (h : Sound className r) (e : Record.Edit) : Sound className (r.edit e) :=
  ⟨h.wellNamed.edit e, (Record.identity_editAll r [e]).1.trans h.className_eq⟩

theorem Sound.remove (h : Sound className r) (key : String) : Sound className (r.remove key) :=
  h.edit (.remove key)

theorem Sound.merge (h : Sound className r) (document : Json) :
    Sound className (r.merge document) :=
  ⟨h.wellNamed.merge document, (r.className_merge document).trans h.className_eq⟩

theorem Sound.afterReply {r' : Record} (h : Sound className r) (hafter : AfterReply r r') :
    Sound className r' := by
  cases hafter with
  | same => exact h
  | merged reply => exact h.merge reply

theorem Sound.afterAttempt {u' : User} {events : List CallEvent} (h : Sound className u.record)
    (hafter : AfterAttempt u events u') : Sound className u'.record := by
  cases hafter with
  | failed => exact h.remove "password"
  | succeeded _ reply => exact ((h.remove "password").merge reply).remove "password"

theorem sound_new (className : String) : Sound className { className } :=
  ⟨Record.wellNamed_new rfl, rfl⟩

theorem Sound.setText (h : Sound className u.record) {key : String} (hkey : key ∉ Record.reserved)
    (text : String) : Sound className (u.setText key text).record :=
  ⟨h.wellNamed.setAttribute hkey _, h.className_eq⟩

theorem sound_ofCredentials (username password : String) :
    Sound Api.Path.userClass (User.ofCredentials username password).record := by
  have huser : Sound Api.Path.userClass ({} : User).record := sound_new _
  exact (huser.setText (by decide) username).setText (by decide) password

theorem sound_validatedUser (token : String) (reply : Json) :
    Sound Api.Path.userClass (validatedUser token reply).record := by
  have hmerge : Sound Api.Path.userClass (({} : User).merge reply).record :=
    (sound_new _).merge reply
  unfold validatedUser
  simp only
  split
  · exact hmerge
  · exact hmerge.setText (by decide) token

theorem sound_role {name : String} {acl : Acl} {role : Role} (h : Role.create name acl = .ok role) :
    Sound Api.Path.roleClass role.record := by
  obtain ⟨-, -, rfl⟩ := map_eq_ok_iff.1 h
  exact ⟨(Record.wellNamed_new rfl).setAttribute (by decide) _, rfl⟩

/-- What a query takes in are documents of its class. -/
theorem mem_results_of_receive {q q' : Query} {reply : Json} (h : q.receive reply = .ok q')
    (hr : r ∈ q'.results) : ∃ document, r = Record.ofDocument q.className document := by
  unfold Query.receive at h
  split at h
  · rename_i hreceive
    cases h
    split at hreceive
    · obtain ⟨_, -, hdone⟩ := bind_eq_ok_iff.1 hreceive
      cases hdone
      cases hr
    · obtain ⟨documents, -, hdone⟩ := bind_eq_ok_iff.1 hreceive
      cases hdone
      obtain ⟨document, -, rfl⟩ := List.mem_map.1 hr
      exact ⟨document, rfl⟩
  · cases h

theorem sound_found {c : Config} {q q' : Query} {events : List CallEvent}
    (h : Trace (find c q) events (.ok (), q')) (hr : r ∈ q'.results) : Sound q.className r := by
  obtain ⟨reply, -, hreceive⟩ := (trace_exchange.1 h).received_of_ok
  obtain ⟨document, rfl⟩ := mem_results_of_receive hreceive hr
  exact (sound_new q.className).merge document

/-- **Every record that can be reached** has the class for which it was made, and no attribute with a
reserved name. -/
theorem Reachable.sound (h : Reachable className r) : Sound className r := by
  induction h with
  | new className => exact sound_new className
  | handle className objectId => exact ⟨Record.wellNamed_new rfl, rfl⟩
  | described className document => exact (sound_new className).merge document
  | role h => exact sound_role h
  | user => exact sound_new _
  | found h hr => exact sound_found h hr
  | @loggedIn c username password u events h =>
    obtain ⟨outcome, u', htrace, hx⟩ := trace_login.1 h
    obtain ⟨-, -, rfl⟩ := map_eq_ok_iff.1 hx.symm
    have hop : AttemptOperation c (logIn c) := .logIn
    exact (sound_ofCredentials username password).afterAttempt (hop.afterAttempt htrace)
  | @validated c token u events h =>
    generalize hx : Except.ok u = x at h
    cases trace_validate.1 h with
    | missing => cases hx
    | failed => cases hx
    | succeeded =>
      cases hx
      exact sound_validatedUser token _
  | edit _ e ih => exact ih.edit e
  | merge _ document ih => exact ih.merge document
  | operated _ hop htrace ih => exact ih.afterReply (hop.afterReply htrace)
  | attempted _ hop htrace ih => exact ih.afterAttempt (hop.afterAttempt htrace)
  | current _ hop htrace hstart ih =>
    obtain ⟨reply, rfl⟩ := (hop.afterAttempt htrace).eq_of_start hstart
    exact (ih.remove "password").merge reply

/-! ### What is sent -/

/-- Every request that a call sends has a certain document. -/
def SendsDocument {α : Type} (call : Call α) (document : Json) : Prop :=
  ∀ {σ : Type} (serve : Server σ) (w : World σ), ∃ sent,
    (call.run serve w).2.sent = w.sent ++ sent ∧ ∀ request ∈ sent, request.body = some document

theorem sendsDocument_of_body {α : Type} {call : Call α} {c : Config} {request : Api.Request}
    {document : Json} (hbody : request.body = some document)
    (hsends : ∀ {events x}, Trace call events x → Sends c request events) :
    SendsDocument call document := by
  intro σ serve w
  obtain hnone | ⟨http, hresolve, hone⟩ := Sends.of_run hsends (rfl : call.run serve w = _)
  · exact ⟨[], by rw [hnone, List.append_nil], by simp⟩
  · refine ⟨[http], hone, fun http' hmem => ?_⟩
    obtain rfl := List.mem_singleton.1 hmem
    obtain ⟨-, rfl⟩ := Api.Request.resolve_eq_ok_iff.1 hresolve
    exact hbody

theorem sendsDocument_save (c : Config) {τ : Type} [Stored τ] (target : τ) :
    SendsDocument (save c target) (Stored.record target).body := by
  refine sendsDocument_of_body ?_ (sends_save (c := c))
  unfold saveRequest
  split <;> rfl

/-- All that a call hands to the server are documents of a save of the record. -/
def SendsSaved {α : Type} (call : Call α) (r : Record) : Prop :=
  ∀ {σ : Type} (serve : Server σ) (w : World σ), ∃ sent,
    (call.run serve w).2.sent = w.sent ++ sent ∧
      ∀ request ∈ sent, ∃ entries, request.body = some (.object entries) ∧ r.SavedAs entries

theorem sendsSaved_of_document {α : Type} {call : Call α} (hr : r.WellNamed)
    (h : SendsDocument call r.body) : SendsSaved call r := by
  intro σ serve w
  obtain ⟨sent, hsent, hbody⟩ := h serve w
  exact ⟨sent, hsent, fun request hmem => ⟨r.bodyMembers, hbody request hmem, hr.savedAs⟩⟩

/-- **What only the server may set is never sent.**  A record that can be reached has no attribute
with a reserved name, and its class is the one for which it was made.  What is sent when it is saved
or signs up are exactly its attributes without the session token, in their order, and its access
control list. -/
theorem saved_document (h : Reachable className r) :
    (∀ key ∈ Record.reserved, key ∉ r.attributes.keys) ∧ r.className = className ∧
      (∀ (c : Config) {τ : Type} [Stored τ] (target : τ), Stored.record target = r →
        SendsSaved (save c target) r) ∧
      ∀ (c : Config) (u : User), u.record = r → SendsSaved (signUp c u) r := by
  obtain ⟨hnamed, hclass⟩ := h.sound
  refine ⟨hnamed, hclass, ?_, ?_⟩
  · rintro c τ _ target rfl
    exact sendsSaved_of_document hnamed (sendsDocument_save c target)
  · rintro c u rfl
    exact sendsSaved_of_document hnamed (sendsDocument_of_body rfl (sends_signUp (c := c)))

/-- Here a user is described by a document with all reserved names and a token, is incremented, and
is refused a forged time. -/
theorem saved_document_forged :
    let r := ((Record.ofDocument "_User" (.object [("objectId", .string "u1"),
      ("className", .string "Other"), ("sessionToken", .string "r:1"),
      ("ACL", .object [("u1", .object [("read", .bool true)])])])).edit
        (.increment "logins" 1)).edit (.set "createdAt" (.string "2015-01-01T00:00:00Z"))
    Reachable "_User" r ∧ r.attributes.keys = ["sessionToken", "logins"] ∧
      r.className = "_User" ∧ SendsSaved (save {} r) r := by
  intro r
  have h : Reachable "_User" r := ((Reachable.described "_User" _).edit _).edit _
  obtain ⟨-, hclass, hsaved, -⟩ := saved_document h
  exact ⟨h, by decide +kernel, hclass, hsaved {} r rfl⟩

end Invariant

end DocStore.Client
