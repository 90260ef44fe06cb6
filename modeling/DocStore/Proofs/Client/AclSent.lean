import DocStore.Proofs.Client.Reachable
import DocStore.Proofs.Json.Equality

/-!
# The access control list that is sent

A record has its access control list in a field.  Documents are merged into that field and never into
an attribute of the same name, but callers may set such an attribute (`Record.reserved` does not hold
the name), and a save sends it when the field is empty.

* `Client.ReachableBy` : a record that can be reached, with all changes that callers have made to it
  (`Client.reachable_iff`: every such record is meant);
* `Client.ReachableBy.get?_acl` : the attribute is what the last change under its name has left;
* `Client.shown_acl_sent_iff` : so a save sends the list that the record shows, and none if it shows
  none, **if and only if** there is a list or the last such change, if any, removed the attribute;
* `Client.cleared_acl_sent` : a list that was set as an attribute is sent after the list is cleared.
-/

namespace DocStore.Client

open Call

/-! ### Records and the changes that were made to them -/

/-- A record that can be reached, with all changes that callers have made to it, in their order. -/
inductive ReachableBy : String → List Record.Edit → Record → Prop
  | new (className : String) : ReachableBy className [] { className }
  | handle (className objectId : String) : ReachableBy className [] { className, objectId }
  | described (className : String) (document : Json) :
      ReachableBy className [] (Record.ofDocument className document)
  | role {name : String} {acl : Acl} {role : Role} (h : Role.create name acl = .ok role) :
      ReachableBy Api.Path.roleClass [] role.record
  | user : ReachableBy Api.Path.userClass [] ({} : User).record
  | found {c : Config} {q q' : Query} {r : Record} {events : List CallEvent}
      (h : Trace (find c q) events (.ok (), q')) (hr : r ∈ q'.results) :
      ReachableBy q.className [] r
  | loggedIn {c : Config} {username password : String} {u : User} {events : List CallEvent}
      (h : Trace (login c username password) events (.ok u)) :
      ReachableBy Api.Path.userClass [] u.record
  | validated {c : Config} {token : String} {u : User} {events : List CallEvent}
      (h : Trace (validate c token) events (.ok u)) : ReachableBy Api.Path.userClass [] u.record
  | edit {className : String} {edits : List Record.Edit} {r : Record}
      (h : ReachableBy className edits r) (e : Record.Edit) :
      ReachableBy className (edits ++ [e]) (r.edit e)
  | merge {className : String} {edits : List Record.Edit} {r : Record}
      (h : ReachableBy className edits r) (document : Json) :
      ReachableBy className edits (r.merge document)
  | operated {className : String} {edits : List Record.Edit} {c : Config} {τ : Type} [Stored τ]
      {operation : Operation τ} {target target' : τ} {outcome : Outcome} {events : List CallEvent}
      (h : ReachableBy className edits (Stored.record target)) (hop : ObjectOperation c operation)
      (htrace : Trace (operation target) events (outcome, target')) :
      ReachableBy className edits (Stored.record target')
  | attempted {className : String} {edits : List Record.Edit} {c : Config}
      {operation : Operation User} {u u' : User} {outcome : Outcome} {events : List CallEvent}
      (h : ReachableBy className edits u.record) (hop : AttemptOperation c operation)
      (htrace : Trace (operation u) events (outcome, u')) : ReachableBy className edits u'.record
  | current {className : String} {edits : List Record.Edit} {c : Config}
      {operation : Operation User} {u u' : User} {token : String} {x : Outcome × User}
      {events : List CallEvent} (h : ReachableBy className edits u.record)
      (hop : AttemptOperation c operation) (htrace : Trace (operation u) events x)
      (hstart : .changeSession (.start token u') ∈ events) : ReachableBy className edits u'.record

section AclSent

variable {className : String} {edits : List Record.Edit} {r : Record}

/-- Every record that can be reached has a list of changes. -/
theorem reachable_iff : Reachable className r ↔ ∃ edits, ReachableBy className edits r := by
  constructor
  · intro h
    induction h with
    | new className => exact ⟨[], .new className⟩
    | handle className objectId => exact ⟨[], .handle className objectId⟩
    | described className document => exact ⟨[], .described className document⟩
    | role h => exact ⟨[], .role h⟩
    | user => exact ⟨[], .user⟩
    | found h hr => exact ⟨[], .found h hr⟩
    | loggedIn h => exact ⟨[], .loggedIn h⟩
    | validated h => exact ⟨[], .validated h⟩
    | edit _ e ih => exact ih.imp' (· ++ [e]) fun _ h => h.edit e
    | merge _ document ih => exact ih.imp fun _ h => h.merge document
    | operated _ hop htrace ih => exact ih.imp fun _ h => h.operated hop htrace
    | attempted _ hop htrace ih => exact ih.imp fun _ h => h.attempted hop htrace
    | current _ hop htrace hstart ih => exact ih.imp fun _ h => h.current hop htrace hstart
  · rintro ⟨edits, h⟩
    induction h with
    | new className => exact .new className
    | handle className objectId => exact .handle className objectId
    | described className document => exact .described className document
    | role h => exact .role h
    | user => exact .user
    | found h hr => exact .found h hr
    | loggedIn h => exact .loggedIn h
    | validated h => exact .validated h
    | edit _ e ih => exact ih.edit e
    | merge _ document ih => exact ih.merge document
    | operated _ hop htrace ih => exact ih.operated hop htrace
    | attempted _ hop htrace ih => exact ih.attempted hop htrace
    | current _ hop htrace hstart ih => exact ih.current hop htrace hstart

/-! ### The attribute that has the name of the list -/

theorem get?_acl_merge (r : Record) (document : Json) :
    (r.merge document).get? "ACL" = r.get? "ACL" :=
  r.get?_merge_of_field document (by decide)

theorem get?_acl_scrub (u : User) : u.scrub.record.get? "ACL" = u.record.get? "ACL" :=
  u.record.get?_remove "password" "ACL"

theorem AfterReply.get?_acl {r' : Record} (h : AfterReply r r') :
    r'.get? "ACL" = r.get? "ACL" := by
  cases h with
  | same => rfl
  | merged reply => exact get?_acl_merge r reply

theorem AfterAttempt.get?_acl {u u' : User} {events : List CallEvent}
    (h : AfterAttempt u events u') : u'.record.get? "ACL" = u.record.get? "ACL" := by
  cases h with
  | failed => exact get?_acl_scrub u
  | succeeded _ reply =>
    rw [get?_acl_scrub]
    exact (get?_acl_merge _ reply).trans (get?_acl_scrub u)

theorem get?_acl_role {name : String} {acl : Acl} {role : Role}
    (h : Role.create name acl = .ok role) : role.record.get? "ACL" = none := by
  obtain ⟨-, -, rfl⟩ := map_eq_ok_iff.1 h
  rfl

theorem get?_acl_validatedUser (token : String) (reply : Json) :
    (validatedUser token reply).record.get? "ACL" = none := by
  have hmerge : (({} : User).merge reply).record.get? "ACL" = none :=
    get?_acl_merge ({} : User).record reply
  unfold validatedUser
  simp only
  split
  · exact hmerge
  · exact (Record.get?_setAttribute _ "sessionToken" "ACL" _).trans hmerge

/-- **Only callers write the attribute**: it is what their last change under its name has left, whatever
servers replied. -/
theorem ReachableBy.get?_acl (h : ReachableBy className edits r) :
    r.get? "ACL" = Record.lastWritten "ACL" edits := by
  induction h with
  | new => rfl
  | handle => rfl
  | described className document => exact get?_acl_merge { className } document
  | role h => exact get?_acl_role h
  | user => rfl
  | @found c q q' r events h hr =>
    obtain ⟨reply, -, hreceive⟩ := (trace_exchange.1 h).received_of_ok
    obtain ⟨document, rfl⟩ := mem_results_of_receive hreceive hr
    exact get?_acl_merge { className := q.className } document
  | @loggedIn c username password u events h =>
    obtain ⟨outcome, u', htrace, hx⟩ := trace_login.1 h
    obtain ⟨-, -, rfl⟩ := map_eq_ok_iff.1 hx.symm
    have hop : AttemptOperation c (logIn c) := .logIn
    exact (hop.afterAttempt htrace).get?_acl
  | @validated c token u events h =>
    generalize hx : Except.ok u = x at h
    cases trace_validate.1 h with
    | missing => cases hx
    | failed => cases hx
    | succeeded =>
      cases hx
      exact get?_acl_validatedUser token _
  | @edit className edits r _ e ih =>
    rw [r.get?_edit e (by decide), Record.lastWritten_concat, ih]
  | merge _ document ih => exact (get?_acl_merge _ document).trans ih
  | operated _ hop htrace ih => exact (hop.afterReply htrace).get?_acl.trans ih
  | attempted _ hop htrace ih => exact (hop.afterAttempt htrace).get?_acl.trans ih
  | current _ hop htrace hstart ih =>
    obtain ⟨reply, rfl⟩ := (hop.afterAttempt htrace).eq_of_start hstart
    exact ((get?_acl_merge _ reply).trans (get?_acl_scrub _)).trans ih

/-! ### What a save sends -/

/-- The list that is sent is that of the record, or else the attribute of its name. -/
theorem field?_acl_body (r : Record) :
    r.body.field? "ACL" = (r.acl.map Acl.toJson).or (r.get? "ACL") :=
  (r.get?_bodyMembers (by decide)).trans (if_pos rfl)

/-- **When the access control list that a record shows is the one that it sends.**  What a save of the
record sends under the list's name is the list that the record shows, and nothing if it shows none,
exactly if there is a list or the callers' last change under the name, if there was any, has removed
it.  In particular what is sent after the list is cleared is what callers have left under its name. -/
theorem shown_acl_sent_iff (h : ReachableBy className edits r) :
    (∀ (c : Config) {τ : Type} [Stored τ] (target : τ), Stored.record target = r →
      SendsDocument (save c target) r.body) ∧
      r.body.field? "ACL" = (r.acl.map Acl.toJson).or (Record.lastWritten "ACL" edits) ∧
      (r.body.field? "ACL" = r.acl.map Acl.toJson ↔
        r.acl.isSome ∨ Record.lastWritten "ACL" edits = none) ∧
      (r.edit .clearAcl).body.field? "ACL" = Record.lastWritten "ACL" edits := by
  have hsent : r.body.field? "ACL" =
      (r.acl.map Acl.toJson).or (Record.lastWritten "ACL" edits) := by
    rw [field?_acl_body, h.get?_acl]
  refine ⟨?_, hsent, ?_, ?_⟩
  · rintro c τ _ target rfl
    exact sendsDocument_save c target
  · rw [hsent]
    cases r.acl <;> simp
  · rw [field?_acl_body, r.get?_edit .clearAcl (by decide)]
    exact h.get?_acl

/-- The list of a note that everybody may read, as a document. -/
def publicReadDocument : Json := .object [("*", .object [("read", .bool true)])]

/-- Here the attribute has been set and removed again before the list of the server came in. -/
theorem shown_acl_sent_iff_removed :
    let r := (((({ className := "Note" } : Record).edit (.set "ACL" publicReadDocument)).edit
      (.remove "ACL")).merge (.object [("ACL", .object [("u1", .object [("read", .bool true)])])]))
    ∃ edits, ReachableBy "Note" edits r ∧ r.acl.isSome ∧
      SendsDocument (save {} r) r.body ∧ r.body.field? "ACL" = r.acl.map Acl.toJson ∧
      (r.edit .clearAcl).body.field? "ACL" = none := by
  intro r
  have h : ReachableBy "Note" [.set "ACL" publicReadDocument, .remove "ACL"] r :=
    (((ReachableBy.new "Note").edit _).edit _).merge _
  obtain ⟨hsends, -, hiff, hcleared⟩ := shown_acl_sent_iff h
  exact ⟨_, h, by decide, hsends {} r rfl, hiff.2 (.inr (by decide)),
    hcleared.trans (by decide)⟩

/-- **A record that shows no list can send one**: a caller has set an attribute of its name, and cleared
the list. -/
theorem cleared_acl_sent :
    let r := (({ className := "Note" } : Record).edit (.set "ACL" publicReadDocument)).edit .clearAcl
    Reachable "Note" r ∧ r.acl = none ∧ r.body.field? "ACL" = some publicReadDocument := by
  intro r
  exact ⟨((Reachable.new "Note").edit _).edit _, by decide, by decide⟩

end AclSent

end DocStore.Client
