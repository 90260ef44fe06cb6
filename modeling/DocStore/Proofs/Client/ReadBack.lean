import DocStore.Proofs.Api.Reply
import DocStore.Proofs.Api.Request
import DocStore.Proofs.Client.Operation
import DocStore.Proofs.Json.Equality
import DocStore.Proofs.Record.Body
import DocStore.Proofs.Success

/-!
# What was saved can be read back

A server that keeps documents answers a new record with an id and a time, and later gives back what
was sent, with id and time among its members (`Client.Creates`, `Client.GivesBack`).

* `Record.merge_of_stored` : a document that holds what a save sends of a record describes that
  record, its attributes in their order and its access control list;
* `Client.run_exchange` : the run of an operation that sends one request;
* `Client.saved_reads_back` : so a saved record can be loaded again under its id, **if and only if**
  no attribute is named `error`: in a reply this name reports a failure, whatever the status.
-/

namespace DocStore

/-! ### The record that a stored document describes -/

namespace Record

/-- What is kept of a record that is saved and loaded again: the attributes in their order, without
the session token, and the access control list. -/
structure CopyOf (loaded r : Record) : Prop where
  attributes : loaded.attributes = r.attributes.filter fun entry => entry.1 ≠ "sessionToken"
  acl : loaded.acl = r.acl

/-- The access control list of a record, if there is one, has no subject twice. -/
def HasDistinctAcl (r : Record) : Prop := ∀ acl ∈ r.acl, acl.Distinct

/-- What the empty list has and settings keep, changes keep, if the lists of the callers have it. -/
theorem forall_acl_edit {P : Acl → Prop} (hempty : P {})
    (hset : ∀ a settings, P a → P (Acl.setAll a settings)) {r : Record} (h : ∀ acl ∈ r.acl, P acl)
    {e : Edit} (he : ∀ acl, e = .setAcl acl → P acl) : ∀ acl ∈ (r.edit e).acl, P acl := by
  have hvalue : ∀ key value, ∀ acl ∈ ((r.set? key value).getD r).acl, P acl := by
    intro key value
    rw [set?_getD]
    split <;> exact h
  cases e with
  | set key value => exact hvalue key value
  | setReference key other => exact hvalue key _
  | increment key amount => exact hvalue key _
  | deleteField key => exact hvalue key _
  | remove key => exact h
  | grant settings =>
    intro acl hacl
    cases hacl
    cases hold : r.acl with
    | none => exact hset {} settings hempty
    | some old => exact hset old settings (h old hold)
  | setAcl acl =>
    intro acl' hacl
    cases hacl
    exact he acl rfl
  | clearAcl => exact nofun

theorem HasDistinctAcl.edit {r : Record} (h : r.HasDistinctAcl) {e : Edit}
    (he : ∀ acl, e = .setAcl acl → acl.Distinct) : (r.edit e).HasDistinctAcl :=
  forall_acl_edit Acl.distinct_empty (fun _ settings h => h.setAll settings) h he

theorem HasDistinctAcl.editAll {r : Record} (h : r.HasDistinctAcl) {edits : List Edit}
    (hedits : ∀ acl, .setAcl acl ∈ edits → acl.Distinct) : (r.editAll edits).HasDistinctAcl := by
  unfold Record.editAll
  induction edits generalizing r with
  | nil => exact h
  | cons e edits ih =>
    refine ih (h.edit ?_) fun acl hacl => hedits acl (List.mem_cons_of_mem e hacl)
    rintro acl rfl
    exact hedits acl List.mem_cons_self

/-- A reply with id and time gives a record its id, and leaves attributes and list alone. -/
theorem merge_identity (r : Record) {id : String} (createdAt : String) (hid : id ≠ "") :
    let r' := r.merge (.object [("objectId", .string id), ("createdAt", .string createdAt)])
    r'.objectId = some id ∧ r'.attributes = r.attributes ∧ r'.acl = r.acl := by
  simp [merge, mergeMembers, mergeMember, Json.asObjectId?, hid]

/-- The members with which a server keeps id and time. -/
def identityNames : List String := ["objectId", "createdAt"]

/-- A document that holds what a save sends of a record, and id and time, makes a fresh handle a copy
of that record. -/
theorem merge_of_stored {r handle : Record} {entries : Members Json} (hnames : r.WellNamed)
    (hacl : "ACL" ∉ r.attributes.keys) (hdistinct : r.HasDistinctAcl)
    (hattributes : handle.attributes = []) (hnoAcl : handle.acl = none)
    (hentries : entries.keys.Nodup)
    (hstored : entries.filter (fun entry => entry.1 ∉ identityNames) = r.bodyMembers) :
    (handle.mergeMembers entries).CopyOf r := by
  constructor
  · have hmembers : entries.filter (fun entry => isAttributeName entry.1) =
        r.attributes.filter fun entry => entry.1 ≠ "sessionToken" := by
      -- Id and time are no attributes, so that it does not matter whether they are left out first.
      rw [← hnames.filter_bodyMembers hacl, ← hstored, List.filter_filter]
      refine List.filter_congr fun entry _ => ?_
      by_cases hidentity : entry.1 ∈ identityNames
      · have hreserved : isAttributeName entry.1 = false := by
          revert hidentity
          simp only [identityNames, List.mem_cons, List.not_mem_nil, or_false]
          rintro (heq | heq) <;> rw [heq] <;> decide
        simp [hreserved]
      · simp [hidentity]
    have hnodup : Members.keys (entries.filter fun entry => isAttributeName entry.1) |>.Nodup :=
      (List.filter_sublist.map Prod.fst).nodup hentries
    rw [attributes_mergeMembers, hattributes, ← hmembers]
    exact Members.ofList_of_nodup hnodup
  · have hget : entries.get? "ACL" = r.acl.map Acl.toJson := by
      have hfilter := Members.get?_filter (· ∉ identityNames) entries "ACL"
      rw [if_pos (by decide), hstored, get?_bodyMembers r (by decide), if_pos rfl, get?,
        Members.get?_eq_none_iff.2 hacl, Option.or_none] at hfilter
      exact hfilter.symm
    rw [acl_mergeMembers, latest_of_nodup hentries, hnoAcl, hget]
    cases hr : r.acl with
    | none => rfl
    | some acl => simp [Acl.ofJson?_toJson (hdistinct acl hr)]

end Record

namespace Client

variable {σ τ : Type} {c : Config} {serve : Server σ} {w w' : World σ}

/-! ### Servers that keep documents -/

/-- The server answers a request with a status and a document. -/
def Replies (serve : Server σ) (s : σ) (request : Http.Request) (status : Nat) (document : Json) :
    Prop :=
  ∃ text, (serve request s).1 = .ok ⟨status, text⟩ ∧ Json.parse text = .ok document

/-- The server makes an object of whatever is posted, and answers with its id and the time. -/
def Creates (serve : Server σ) (s : σ) (id createdAt : String) : Prop :=
  ∀ request : Http.Request, request.method = .post →
    Replies serve s request 201
      (.object [("objectId", .string id), ("createdAt", .string createdAt)])

/-- The server gives back what was stored of the object at a URL, in its order, with id and time. -/
def GivesBack (serve : Server σ) (s : σ) (url : String) (stored : Members Json)
    (id createdAt : String) : Prop :=
  ∀ request : Http.Request, request.method = .get → request.url = url →
    ∃ entries : Members Json, Replies serve s request 200 (.object entries) ∧
      entries.get? "objectId" = some (.string id) ∧
      entries.get? "createdAt" = some (.string createdAt) ∧
      entries.filter (fun entry => entry.1 ∉ Record.identityNames) = stored

section Replies

variable {s : σ} {request : Http.Request} {status : Nat} {document : Json}

theorem Replies.replyOf_eq (h : Replies serve s request status document)
    (hstatus : 200 ≤ status ∧ status < 300) (hfield : document.field? "error" = none) :
    replyOf (serve request s).1 = .ok document := by
  obtain ⟨text, hserve, hparse⟩ := h
  have hsuccess : (⟨status, text⟩ : Http.Response).isSuccess = true := by
    simpa [Http.Response.isSuccess] using hstatus
  rw [hserve]
  refine (Api.interpret_of_parse status hparse).trans ?_
  simp only [hfield]
  exact if_pos hsuccess

theorem Replies.replyOf_eq_error {error : Json} (h : Replies serve s request status document)
    (hfield : document.field? "error" = some error) :
    replyOf (serve request s).1 = .error (Api.reportedError status document error) := by
  obtain ⟨text, hserve, hparse⟩ := h
  rw [hserve]
  refine (Api.interpret_of_parse status hparse).trans ?_
  simp only [hfield]

theorem Replies.hasDistinctNames (h : Replies serve s request status document) :
    document.HasDistinctNames := by
  obtain ⟨_, -, hparse⟩ := h
  exact Json.hasDistinctNames_parse hparse

end Replies

/-! ### Saving and loading -/

/-- The run of an operation that sends one request: the world has changed if the request could be
sent, and the target if the reply could be taken in. -/
theorem run_exchange (serve : Server σ) (w : World σ) (request : Api.Request) (target : τ)
    (receive : Json → Except Error τ) :
    (exchange c request target receive).run serve w =
      match request.resolve c w.session.token with
      | .error e => ((.error e, target), w)
      | .ok http =>
        (match (replyOf (serve http w.server).1).bind receive with
          | .error e => (.error e, target)
          | .ok target' => (.ok (), target'), (w.send serve http).2) := by
  rw [exchange, Call.bind_eq, execute_eq]
  cases hresolve : request.resolve c w.session.token with
  | error e => simp [Call.bind, Call.run, hresolve, Except.bind]
  | ok http =>
    have hsend : (w.send serve http).1 = (serve http w.server).1 := rfl
    simp only [Call.bind, Call.run, hresolve, hsend]
    cases (replyOf (serve http w.server).1).bind receive <;> rfl

/-- A new record that was saved has the id it was given, and what was posted are its attributes and
its access control list. -/
theorem saved_of_creates {r r' : Record} {id createdAt : String} (hnew : r.objectId = none)
    (hid : id ≠ "") (hcreates : Creates serve w.server id createdAt)
    (hsave : (save c r).run serve w = ((.ok (), r'), w')) :
    Config.checkUrl (c.resourceText r.classPath) = .ok () ∧
      (r'.objectId = some id ∧ r'.attributes = r.attributes ∧ r'.acl = r.acl) ∧
      ∃ posted : Http.Request, w'.sent = w.sent ++ [posted] ∧
        posted.url = c.resourceText r.classPath ∧
        posted.body = some (.object r.bodyMembers) := by
  have hrequest : saveRequest r =
      { method := .post, path := r.classPath, body := some r.body } := by
    simp [saveRequest, Record.objectPath?, hnew]
  have hrun : (exchange c (saveRequest r) r (mergeReply r)).run serve w = ((.ok (), r'), w') :=
    hsave
  rw [run_exchange] at hrun
  cases hresolve : (saveRequest r).resolve c w.session.token with
  | error e =>
    rw [hresolve] at hrun
    cases hrun
  | ok http =>
    rw [hresolve] at hrun
    obtain ⟨hurl, rfl⟩ := Api.Request.resolve_eq_ok_iff.1 hresolve
    have hmethod : ((saveRequest r).message c w.session.token).method = .post := by
      rw [hrequest]
      rfl
    have hreply := (hcreates _ hmethod).replyOf_eq (by decide)
      (by simp [Json.field?, Json.members?, Members.get?])
    simp only [hreply, Except.bind, mergeReply, Prod.mk.injEq] at hrun
    obtain ⟨⟨-, rfl⟩, rfl⟩ := hrun
    rw [hrequest] at hurl
    refine ⟨hurl, r.merge_identity createdAt hid, _, rfl, ?_, ?_⟩
    · rw [Api.Request.message, hrequest]
    · rw [Api.Request.message, hrequest]
      rfl

/-- A document that is given back for a saved record is loaded as that record, unless it reports an
error. -/
theorem refresh_of_givesBack {r : Record} {className id createdAt : String}
    (hnames : r.WellNamed) (hacl : "ACL" ∉ r.attributes.keys) (hdistinct : r.HasDistinctAcl)
    (hurl : Config.checkUrl (c.resourceText (Api.Path.ofClass className)) = .ok ())
    (hgives : GivesBack serve w.server (c.resourceText (Api.Path.ofClass className) ++ "/" ++ id)
      r.bodyMembers id createdAt) :
    ∃ outcome loaded,
      ((refresh c ({ className, objectId := some id } : Record)).run serve w).1 =
          (outcome, loaded) ∧
        (outcome = .ok () ↔ "error" ∉ r.attributes.keys) ∧
        (outcome = .ok () → loaded.CopyOf r) := by
  obtain ⟨htext, hsame⟩ := c.resourceText_ofObject className id
  let request : Api.Request := { method := .get, path := Api.Path.ofObject className id }
  have hresolve : request.resolve c w.session.token = .ok (request.message c w.session.token) :=
    Api.Request.resolve_eq_ok_iff.2 ⟨hsame.trans hurl, rfl⟩
  obtain ⟨entries, hreplies, -, -, hstored⟩ :=
    hgives (request.message c w.session.token) rfl htext
  have hrun : (refresh c ({ className, objectId := some id } : Record)).run serve w = _ :=
    run_exchange serve w request ({ className, objectId := some id } : Record) (mergeReply _)
  rw [hresolve] at hrun
  -- The server has added id and time only, so that an error is reported by the record itself.
  have herror : (Json.object entries).field? "error" = r.get? "error" := by
    have hfilter := Members.get?_filter (· ∉ Record.identityNames) entries "error"
    rw [if_pos (by decide), hstored, Record.get?_bodyMembers r (by decide),
      if_neg (by decide)] at hfilter
    exact hfilter.symm
  cases hr : r.get? "error" with
  | none =>
    have hentries : entries.keys.Nodup := hreplies.hasDistinctNames entries rfl
    have hreply := hreplies.replyOf_eq (by decide) (herror.trans hr)
    simp only [hreply, Except.bind, mergeReply] at hrun
    refine ⟨_, _, congrArg Prod.fst hrun, ?_, fun _ => ?_⟩
    · exact iff_of_true rfl (Members.get?_eq_none_iff.1 hr)
    · exact Record.merge_of_stored hnames hacl hdistinct rfl rfl hentries hstored
  | some error =>
    have hreply := hreplies.replyOf_eq_error (herror.trans hr)
    have hmem : "error" ∈ r.attributes.keys :=
      (Members.mem_keys_iff ..).2 (Option.isSome_iff_exists.2 ⟨error, hr⟩)
    have hfailed : ∀ e : Error, (.error e : Outcome) ≠ .ok () := by
      rintro e ⟨⟩
    simp only [hreply, Except.bind] at hrun
    exact ⟨_, _, congrArg Prod.fst hrun, iff_of_false (hfailed _) (not_not_intro hmem),
      fun hok => absurd hok (hfailed _)⟩

/-- **What was saved can be read back.**  Take a new record with any changes, none of which sets an
attribute named `ACL`, and a server that keeps documents.  If the record is saved, then it is the
record with an id; and loading that id succeeds **exactly if no attribute is named `error`**, and then
brings a copy of the record. -/
theorem saved_reads_back {className id createdAt : String} {edits : List Record.Edit}
    {r r' : Record} (hr : r = ({ className } : Record).editAll edits)
    (hlists : ∀ acl, .setAcl acl ∈ edits → acl.Distinct) (hacl : "ACL" ∉ r.attributes.keys)
    (hid : id ≠ "") (hcreates : Creates serve w.server id createdAt)
    (hsave : (save c r).run serve w = ((.ok (), r'), w')) :
    (r'.objectId = some id ∧ r'.attributes = r.attributes ∧ r'.acl = r.acl) ∧
      ∃ (posted : Http.Request) (stored : Members Json), w'.sent = w.sent ++ [posted] ∧
        posted.body = some (.object stored) ∧
        ∀ later : World σ,
          GivesBack serve later.server (posted.url ++ "/" ++ id) stored id createdAt →
            ∃ outcome loaded,
              ((refresh c ({ className, objectId := some id } : Record)).run serve later).1 =
                  (outcome, loaded) ∧
                (outcome = .ok () ↔ "error" ∉ r.attributes.keys) ∧
                (outcome = .ok () → loaded.CopyOf r) := by
  have hidentity := Record.identity_editAll ({ className } : Record) edits
  rw [← hr] at hidentity
  have hnames : r.WellNamed := by
    rw [hr]
    exact (Record.wellNamed_new rfl).editAll edits
  have hdistinct : r.HasDistinctAcl := by
    rw [hr]
    refine Record.HasDistinctAcl.editAll (fun acl hnone => ?_) hlists
    cases hnone
  obtain ⟨hurl, hsaved, posted, hsent, hposted, hbody⟩ :=
    saved_of_creates hidentity.2 hid hcreates hsave
  rw [Record.classPath, hidentity.1] at hurl hposted
  refine ⟨hsaved, posted, r.bodyMembers, hsent, hbody, fun later hgives => ?_⟩
  rw [hposted] at hgives
  exact refresh_of_givesBack hnames hacl hdistinct hurl hgives

/-! ### A server with one shelf -/

/-- The members with which the shelf completes a document. -/
def shelfIdentity : Members Json :=
  [("objectId", .string "s1"), ("createdAt", .string "2015-01-01T00:00:00Z")]

/-- A server that keeps the document posted last, and gives it back to every other request. -/
def shelf : Server (Members Json) := fun request stored =>
  if request.method = .post then
    (.ok ⟨201, (Json.object shelfIdentity).compact⟩, ((request.body.bind Json.members?).getD []))
  else (.ok ⟨200, (Json.object (stored ++ shelfIdentity)).compact⟩, stored)

theorem creates_shelf (stored : Members Json) :
    Creates shelf stored "s1" "2015-01-01T00:00:00Z" := by
  intro request hmethod
  refine ⟨(Json.object shelfIdentity).compact, by simp [shelf, hmethod], ?_⟩
  rw [eq_ok_iff_toOption]
  decide +kernel

/-- The shelf gives back what can be read again. -/
theorem givesBack_shelf {stored : Members Json} (url : String)
    (h : let entries := stored ++ shelfIdentity
      Members.get? entries "objectId" = some (.string "s1") ∧
      Members.get? entries "createdAt" = some (.string "2015-01-01T00:00:00Z") ∧
      entries.filter (fun entry => entry.1 ∉ Record.identityNames) = stored ∧
      (Json.parse (Json.object entries).compact).toOption = some (.object entries)) :
    GivesBack shelf stored url stored "s1" "2015-01-01T00:00:00Z" := by
  obtain ⟨hid, hcreated, hstored, hparse⟩ := h
  intro request hmethod _
  have hserve : (shelf request stored).1 =
      .ok ⟨200, (Json.object (stored ++ shelfIdentity)).compact⟩ := by
    simp [shelf, hmethod]
  exact ⟨_, ⟨_, hserve, eq_ok_iff_toOption.2 hparse⟩, hid, hcreated, hstored⟩

/-- A score with changes, saved to the shelf: the outcome, the record and the world after it. -/
def shelved (edits : List Record.Edit) : (Outcome × Record) × World (Members Json) :=
  (save {} (({ className := "Score" } : Record).editAll edits)).run shelf { server := [] }

/-- The score loaded from the shelf. -/
def unshelved (edits : List Record.Edit) : Outcome × Record :=
  ((refresh {} ({ className := "Score", objectId := some "s1" } : Record)).run shelf
    (shelved edits).2).1

theorem eq_of_ok {x : (Outcome × τ) × World σ} (h : x.1.1 = .ok ()) :
    x = ((.ok (), x.1.2), x.2) := by
  rw [← h]

/-- What was posted last is what the shelf holds. -/
theorem eq_of_getLast? {posted : Http.Request} {stored kept : Members Json}
    (hsent : w'.sent = w.sent ++ [posted]) (hbody : posted.body = some (.object stored))
    (hkept : (w'.sent.map Http.Request.body).getLast? = some (some (.object kept))) :
    stored = kept := by
  rw [hsent, List.map_append, List.map_singleton, List.getLast?_concat, hbody] at hkept
  cases hkept
  rfl

/-- The changes that make a score: a token that is not sent, a value that is taken back, and a list
that lets everyone read. -/
def scoreEdits : List Record.Edit :=
  [.set "points" (.int 7), .set "sessionToken" (.string "r:1"), .set "draft" .null,
    .grant [.read "*" true], .remove "draft"]

theorem saved_reads_back_shelf :
    (shelved scoreEdits).1.1 = .ok () ∧ (unshelved scoreEdits).1 = .ok () ∧
      (unshelved scoreEdits).2.attributes.keys = ["points"] ∧
      (unshelved scoreEdits).2.acl = some .publicReadOnly := by
  have hok : (shelved scoreEdits).1.1 = .ok () := eq_ok_iff_toOption.2 (by decide +kernel)
  have hlists : ∀ acl, .setAcl acl ∈ scoreEdits → acl.Distinct := by simp [scoreEdits]
  have hsave : shelved scoreEdits =
      ((.ok (), (shelved scoreEdits).1.2), (shelved scoreEdits).2) := eq_of_ok hok
  obtain ⟨-, posted, stored, hsent, hbody, hlater⟩ :=
    saved_reads_back rfl hlists (by decide +kernel) (by decide) (creates_shelf []) hsave
  have hstored : stored = (shelved scoreEdits).2.server :=
    eq_of_getLast? hsent hbody (by decide +kernel)
  rw [hstored] at hlater
  obtain ⟨outcome, loaded, hrun, hiff, hsame⟩ :=
    hlater (shelved scoreEdits).2 (givesBack_shelf _ (by decide +kernel))
  have hloaded : outcome = .ok () := hiff.2 (by decide +kernel)
  obtain ⟨hattributes, hacl⟩ := hsame hloaded
  have hunshelved : unshelved scoreEdits = (outcome, loaded) := hrun
  rw [hunshelved]
  refine ⟨hok, hloaded, ?_, ?_⟩
  · rw [hattributes]
    decide +kernel
  · rw [hacl]
    decide +kernel

/-- **A record with an attribute named `error` is saved and cannot be loaded again**, although the
server gives back what was posted. -/
theorem unreadable_error_attribute :
    let edits : List Record.Edit := [.set "error" (.string "none")]
    let stored := (shelved edits).2.server
    Creates shelf [] "s1" "2015-01-01T00:00:00Z" ∧ (shelved edits).1.1 = .ok () ∧
      (shelved edits).2.sent.map (fun request => (request.url, request.body)) =
        [("https://api.parse.com/1/classes/Score", some (.object stored))] ∧
      GivesBack shelf stored "https://api.parse.com/1/classes/Score/s1" stored "s1"
        "2015-01-01T00:00:00Z" ∧
      "ACL" ∉ (shelved edits).1.2.attributes.keys ∧ (unshelved edits).1 ≠ .ok () := by
  intro edits stored
  have hsaved : (shelved edits).1.1 = .ok () := eq_ok_iff_toOption.2 (by decide +kernel)
  have hlost : (unshelved edits).1 ≠ .ok () := by
    rw [ne_eq, eq_ok_iff_toOption]
    decide +kernel
  exact ⟨creates_shelf [], hsaved, by decide +kernel, givesBack_shelf _ (by decide +kernel),
    by decide +kernel, hlost⟩

end Client

end DocStore
