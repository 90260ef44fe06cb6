import DocStore.Proofs.Acl.WireForm
import DocStore.Proofs.Client.ReadBack
import DocStore.Proofs.Client.Reachable
import DocStore.Proofs.Record.Document

/-!
# Laying over a record what it sends itself

A server that answers a save with the document that it was sent gives it back to the record that sent
it.  This changes nothing (`Client.merge_own_document`), whatever has happened to the record before:
its attributes are overwritten in their places by what they are, and its access control list is read
back from its wire form.

The proof needs of the record that no attribute has a reserved name, and of its list that no subject
has two entries.  The latter is so for the lists that can be reached, and records have no others as long
as callers have none:

* `Client.Grown` : what becomes of records by the changes that callers make, with lists of a certain
  kind, and by documents that are laid over them;
* `Client.reachable_iff_grown` : all records that can be reached come about in this way, since the
  operations of a client do nothing else to them (`Client.Grown.operated`, `Client.Grown.attempted`);
* `Client.Grown.reachable_acl` : so what lists callers have decides what lists records have.
-/

namespace DocStore

/-! ### The document of a save, laid over its record -/

namespace Record

theorem nodup_keys_bodyMembers (r : Record) : r.bodyMembers.keys.Nodup := by
  have hfilter : Members.keys (r.attributes.filter fun entry => entry.1 ≠ "sessionToken") |>.Nodup :=
    (List.filter_sublist.map Prod.fst).nodup r.distinct
  unfold bodyMembers withAcl
  cases r.acl with
  | none => exact hfilter
  | some acl => exact Members.nodup_keys_insert hfilter _ _

/-- A field whose name is reserved is not in the document, and stays. -/
theorem WellNamed.latest_bodyMembers {β : Type} {r : Record} (h : r.WellNamed) {key : String}
    (hkey : key ∈ reserved) (read : Json → Option β) (old : Option β) :
    latest key read r.bodyMembers old = old := by
  rw [latest_of_nodup r.nodup_keys_bodyMembers,
    Members.get?_eq_none_iff.2 (h.savedAs.reserved_notMem key hkey)]
  rfl

/-- **What a save sends changes nothing** when it is laid over the record again. -/
theorem WellNamed.merge_body {r : Record} (h : r.WellNamed) (hacl : "ACL" ∉ r.attributes.keys)
    (hdistinct : r.HasDistinctAcl) : r.merge r.body = r := by
  have hbody : r.merge r.body = r.mergeMembers r.bodyMembers := rfl
  rw [hbody]
  ext1
  · exact className_mergeMembers r r.bodyMembers
  · rw [objectId_mergeMembers, h.latest_bodyMembers (by decide)]
  · rw [createdAt_mergeMembers, h.latest_bodyMembers (by decide)]
  · rw [updatedAt_mergeMembers, h.latest_bodyMembers (by decide)]
  · rw [attributes_mergeMembers, h.filter_bodyMembers hacl]
    exact Members.overlay_of_get? fun entry hentry =>
      Members.get?_of_mem r.distinct (List.mem_filter.1 hentry).1
  · have hsent : r.bodyMembers.get? "ACL" = r.acl.map Acl.toJson := by
      rw [r.get?_bodyMembers (by decide), if_pos rfl, get?, Members.get?_eq_none_iff.2 hacl,
        Option.or_none]
    rw [acl_mergeMembers, latest_of_nodup r.nodup_keys_bodyMembers, hsent, bind_toJson hdistinct,
      Option.or_self]

/-- A document that is laid over a record brings a list of its own or leaves the old one. -/
theorem forall_acl_merge {P : Acl → Prop} (hread : ∀ value acl, Acl.ofJson? value = some acl → P acl)
    {r : Record} (h : ∀ acl ∈ r.acl, P acl) (document : Json) :
    ∀ acl ∈ (r.merge document).acl, P acl := by
  cases document with
  | object entries =>
    intro acl hacl
    rw [Record.merge, Option.mem_def, acl_mergeMembers, latest_eq_or, Option.or_eq_some_iff] at hacl
    obtain hnew | ⟨-, hold⟩ := hacl
    · obtain ⟨value, hvalue⟩ := exists_of_latest hnew
      exact hread value acl hvalue
    · exact h acl hold
  | _ => exact h

end Record

namespace Client

open Call

/-! ### How records grow -/

/-- What becomes of new records and handles by changes and documents, if the lists that callers put
into records are of a certain kind. -/
inductive Grown (kind : Acl → Prop) : String → Record → Prop
  | new (className : String) : Grown kind className { className }
  | handle (className objectId : String) : Grown kind className { className, objectId }
  | edit {className : String} {r : Record} (h : Grown kind className r) (e : Record.Edit)
      (he : ∀ acl, e = .setAcl acl → kind acl) : Grown kind className (r.edit e)
  | merge {className : String} {r : Record} (h : Grown kind className r) (document : Json) :
      Grown kind className (r.merge document)

section Grown

variable {kind : Acl → Prop} {className : String} {r : Record} {u : User} {c : Config}

theorem Grown.setAttribute (h : Grown kind className r) {key : String}
    (hkey : key ∉ Record.reserved) (value : Json) :
    Grown kind className (r.setAttribute key value) := by
  have hset : r.edit (.set key value) = r.setAttribute key value :=
    (r.set?_getD key value).trans (if_neg hkey)
  rw [← hset]
  exact h.edit _ nofun

theorem Grown.setText (h : Grown kind className u.record) {key : String}
    (hkey : key ∉ Record.reserved) (text : String) : Grown kind className (u.setText key text).record :=
  h.setAttribute hkey (.string text)

theorem Grown.scrub (h : Grown kind className u.record) : Grown kind className u.scrub.record :=
  h.edit (.remove "password") nofun

theorem Grown.afterReply {r' : Record} (h : Grown kind className r) (hafter : AfterReply r r') :
    Grown kind className r' := by
  cases hafter with
  | same => exact h
  | merged reply => exact h.merge reply

theorem Grown.afterAttempt {u' : User} {events : List CallEvent}
    (h : Grown kind className u.record) (hafter : AfterAttempt u events u') :
    Grown kind className u'.record := by
  cases hafter with
  | failed => exact h.scrub
  | succeeded _ reply =>
    have hmerged : Grown kind className (u.scrub.merge reply).record := h.scrub.merge reply
    exact hmerged.scrub

/-- A new role is a record with a name and the list that the caller gives it. -/
theorem Grown.role {name : String} {acl : Acl} {role : Role} (hacl : kind acl)
    (h : Role.create name acl = .ok role) : Grown kind Api.Path.roleClass role.record := by
  obtain ⟨-, -, rfl⟩ := map_eq_ok_iff.1 h
  have hlist : Grown kind Api.Path.roleClass { className := Api.Path.roleClass, acl := some acl } :=
    (Grown.new _).edit (.setAcl acl) fun acl' heq => by cases heq; exact hacl
  exact hlist.setAttribute (by decide) _

theorem Grown.found {q q' : Query} {events : List CallEvent}
    (h : Trace (find c q) events (.ok (), q')) (hr : r ∈ q'.results) :
    Grown kind q.className r := by
  obtain ⟨reply, -, hreceive⟩ := (trace_exchange.1 h).received_of_ok
  obtain ⟨document, rfl⟩ := mem_results_of_receive hreceive hr
  exact (Grown.new q.className).merge document

theorem Grown.user : Grown kind Api.Path.userClass ({} : User).record := .new _

theorem Grown.loggedIn {username password : String} {events : List CallEvent}
    (h : Trace (login c username password) events (.ok u)) :
    Grown kind Api.Path.userClass u.record := by
  obtain ⟨outcome, u', htrace, hx⟩ := trace_login.1 h
  obtain ⟨-, -, rfl⟩ := map_eq_ok_iff.1 hx.symm
  have hop : AttemptOperation c (logIn c) := .logIn
  have hcredentials : Grown kind Api.Path.userClass (User.ofCredentials username password).record :=
    (Grown.user.setText (by decide) username).setText (by decide) password
  exact hcredentials.afterAttempt (hop.afterAttempt htrace)

theorem Grown.validated {token : String} {events : List CallEvent}
    (h : Trace (validate c token) events (.ok u)) : Grown kind Api.Path.userClass u.record := by
  generalize hx : Except.ok u = x at h
  cases trace_validate.1 h with
  | missing => cases hx
  | failed => cases hx
  | @succeeded _ reply =>
    cases hx
    have hmerged : Grown kind Api.Path.userClass (({} : User).merge reply).record :=
      Grown.user.merge reply
    unfold validatedUser
    simp only
    split
    · exact hmerged
    · exact hmerged.setText (by decide) token

theorem Grown.operated {τ : Type} [Stored τ] {operation : Operation τ} {target target' : τ}
    {outcome : Outcome} {events : List CallEvent} (h : Grown kind className (Stored.record target))
    (hop : ObjectOperation c operation) (htrace : Trace (operation target) events (outcome, target')) :
    Grown kind className (Stored.record target') :=
  h.afterReply (hop.afterReply htrace)

theorem Grown.attempted {operation : Operation User} {u' : User} {outcome : Outcome}
    {events : List CallEvent} (h : Grown kind className u.record) (hop : AttemptOperation c operation)
    (htrace : Trace (operation u) events (outcome, u')) : Grown kind className u'.record :=
  h.afterAttempt (hop.afterAttempt htrace)

theorem Grown.current {operation : Operation User} {u' : User} {token : String}
    {x : Outcome × User} {events : List CallEvent} (h : Grown kind className u.record)
    (hop : AttemptOperation c operation) (htrace : Trace (operation u) events x)
    (hstart : .changeSession (.start token u') ∈ events) : Grown kind className u'.record := by
  obtain ⟨reply, rfl⟩ := (hop.afterAttempt htrace).eq_of_start hstart
  exact h.scrub.merge reply

/-- What has become of a record by changes and documents can be reached. -/
theorem Grown.reachable (h : Grown kind className r) : Reachable className r := by
  induction h with
  | new => exact .new className
  | handle objectId => exact .handle className objectId
  | edit _ e _ ih => exact ih.edit e
  | merge _ document ih => exact ih.merge document

/-- **Records come about by changes and documents only**: no operation of a client leads to others. -/
theorem reachable_iff_grown : Reachable className r ↔ Grown (fun _ => True) className r := by
  refine ⟨fun h => ?_, Grown.reachable⟩
  induction h with
  | new className => exact .new className
  | handle className objectId => exact .handle className objectId
  | described className document => exact (Grown.new className).merge document
  | role h => exact .role trivial h
  | user => exact .user
  | found h hr => exact .found h hr
  | loggedIn h => exact .loggedIn h
  | validated h => exact .validated h
  | edit _ e ih => exact ih.edit e fun _ _ => trivial
  | merge _ document ih => exact ih.merge document
  | operated _ hop htrace ih => exact ih.operated hop htrace
  | attempted _ hop htrace ih => exact ih.attempted hop htrace
  | current _ hop htrace hstart ih => exact ih.current hop htrace hstart

/-- If the lists of the callers can be reached, so can those of the records. -/
theorem Grown.reachable_acl (hkind : ∀ acl, kind acl → acl.Reachable)
    (h : Grown kind className r) : ∀ acl ∈ r.acl, acl.Reachable := by
  induction h with
  | new => exact nofun
  | handle objectId => exact nofun
  | edit _ e he ih =>
    exact Record.forall_acl_edit .empty (fun _ settings hacl => hacl.setAll settings) ih
      fun acl heq => hkind acl (he acl heq)
  | merge _ document ih => exact Record.forall_acl_merge (fun _ _ => .read) ih document

/-- **A record's own document changes nothing.**  Laying over a record what a save of it sends leaves it
exactly as it was, unless a caller has set an attribute named like the list: id, times, class, the
access control list with the order of its entries, and all attributes in their order, the session token
among them.  This holds of every record that can be reached, if its list can be reached as well.  A
record has no other list unless a caller has one: all records come about by changes and documents, and
as long as callers put in lists that can be reached, so are those of the records. -/
theorem merge_own_document :
    (∀ (className : String) (r : Record), Reachable className r →
      (∀ acl ∈ r.acl, acl.Reachable) → "ACL" ∉ r.attributes.keys → r.merge r.body = r) ∧
      (∀ (className : String) (r : Record),
        Reachable className r ↔ Grown (fun _ => True) className r) ∧
      ∀ (className : String) (r : Record), Grown Acl.Reachable className r →
        ∀ acl ∈ r.acl, acl.Reachable := by
  refine ⟨fun className r h hlist hacl => ?_, fun _ _ => reachable_iff_grown,
    fun _ _ h => h.reachable_acl fun _ => id⟩
  have hdistinct : r.HasDistinctAcl := fun acl hmem => (hlist acl hmem).distinct
  exact h.sound.wellNamed.merge_body hacl hdistinct

/-- Here a user who has a session has been given a friend, a field operator and grants. -/
theorem merge_own_document_user :
    let document := Json.object [("sessionToken", .string "r:1"), ("objectId", .string "u1"),
      ("createdAt", .string "2015-01-01T00:00:00Z"),
      ("ACL", .object [("u1", .object [("write", .bool true)]), ("u2", .null)])]
    let friend : Record := { className := "_User", objectId := some "u2" }
    let r := (((({ className := "_User" } : Record).merge document).edit
      (.setReference "friend" friend)).edit (.increment "logins" 1)).edit
        (.grant [.read "*" true, .read "u1" true])
    Reachable "_User" r ∧ (∀ acl ∈ r.acl, acl.Reachable) ∧ "ACL" ∉ r.attributes.keys ∧
      r.attributes.keys = ["sessionToken", "friend", "logins"] ∧
      r.acl = some ⟨[("u1", ⟨true, true⟩), ("*", ⟨true, false⟩)]⟩ ∧ r.merge r.body = r := by
  intro document friend r
  have h : Grown Acl.Reachable "_User" r :=
    ((((Grown.new "_User").merge document).edit _ nofun).edit _ nofun).edit _ nofun
  have hacl : "ACL" ∉ r.attributes.keys := by decide +kernel
  obtain ⟨hown, -, hreached⟩ := merge_own_document
  have hreachable : Reachable "_User" r := h.reachable
  have hlist : ∀ acl ∈ r.acl, acl.Reachable := hreached _ r h
  exact ⟨hreachable, hlist, hacl, by decide +kernel, by decide +kernel,
    hown _ r hreachable hlist hacl⟩

end Grown

end Client

end DocStore
