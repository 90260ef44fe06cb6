import DocStore.Proofs.Client.Access
import DocStore.Proofs.Client.Reply
import DocStore.Proofs.Client.Sent
import DocStore.Proofs.Json.Equality
import DocStore.Proofs.Record.Edit
import DocStore.Proofs.Success

/-!
# The identity of a record

A record gets its id from the documents that are laid over it, and from nothing else.  A `Life` of a
record is any sequence of changes by callers, of documents that callers lay over it and of operations
with any replies; its notes tell which documents were laid over the record (`Client.Note.document?`)
and so which id each of them gave it (`Client.Note.id?`).

* `Client.Life.identified` : the id of a record is the last one that its notes give, and every
  operation goes to the path of the id at that time;
* `Client.identity_over_life` : **the life of a new record**: it is new until a reply carries an id,
  and never again;
* `Client.created_again_iff` : **a saved record is created again** by a later save exactly if it was
  new and the reply of the first save carried no id.
-/

namespace DocStore

/-- The id that a document carries: a text that is not empty. -/
def Json.carriedId? (document : Json) : Option String :=
  (document.field? "objectId").bind Json.asObjectId?

theorem Json.ne_empty_of_carriedId? {document : Json} {id : String}
    (h : document.carriedId? = some id) : id ≠ "" := by
  obtain ⟨value, -, hvalue⟩ := Option.bind_eq_some_iff.1 h
  cases value with
  | string text =>
    by_cases hempty : text = "" <;> simp_all [Json.asObjectId?]
  | _ => cases hvalue

namespace Record

/-- The id after a merge is the one that the document carries, or else the old one. -/
theorem objectId_merge (r : Record) {document : Json} (h : document.HasDistinctNames) :
    (r.merge document).objectId = document.carriedId?.or r.objectId := by
  cases document with
  | object entries =>
    rw [merge, objectId_mergeMembers, latest_of_nodup (h entries rfl)]
    rfl
  | _ => rfl

/-- A record over which a document has been laid, if there is one. -/
def overlaid (r : Record) : Option Json → Record
  | some document => r.merge document
  | none => r

theorem className_overlaid (r : Record) (document? : Option Json) :
    (r.overlaid document?).className = r.className := by
  cases document? with
  | none => rfl
  | some document => exact className_merge r document

theorem objectId_overlaid (r : Record) {document? : Option Json}
    (h : ∀ document ∈ document?, document.HasDistinctNames) :
    (r.overlaid document?).objectId = (document?.bind Json.carriedId?).or r.objectId := by
  cases document? with
  | none => rfl
  | some document => exact r.objectId_merge (h document rfl)

end Record

namespace Client

open Call

/-! ### Lives of records -/

/-- What is noted of a record: a document that a caller has laid over it, or an operation with its
settings, its events and its outcome. -/
inductive Note where
  | merged (document : Json)
  | asked (access : Access) (c : Config) (calls : List CallEvent) (outcome : Outcome)

namespace Note

/-- The document that has been laid over the record, if any: that of a caller, or the reply of an
operation that succeeded and was no deletion. -/
def document? : Note → Option Json
  | merged document => some document
  | asked .delete .. => none
  | asked _ _ calls (.ok ()) => (replies calls).head?
  | asked _ _ _ (.error _) => none

/-- The id that the record has been given, if any. -/
def id? (note : Note) : Option String := note.document?.bind Json.carriedId?

/-- The document of the note is all that a record has got, and it names every member once. -/
def Lays (note : Note) (r r' : Record) : Prop :=
  r' = r.overlaid note.document? ∧ ∀ document ∈ note.document?, document.HasDistinctNames

/-- Every request among events has a method, and goes to a path. -/
def GoTo (c : Config) (method : Http.Method) (path : String) (calls : List CallEvent) : Prop :=
  ∀ http ∈ sentRequests calls, http.method = method ∧ c.resourceUrl path = .ok http.url

/-- What an operation may do while the record has a certain id.  Without one, a save creates an object
of the class and all else fails at once; and with one, all goes to the path of the object. -/
def Addresses (classPath : String) (id? : Option String) : Note → Prop
  | merged _ => True
  | asked access c calls outcome =>
    match id?, access with
    | none, .save => GoTo c .post classPath calls
    | none, _ => outcome = .error .missingObjectId ∧ calls = []
    | some id, access => GoTo c access.method (classPath ++ "/" ++ id) calls

/-- An operation has sent a request that creates an object. -/
def Posts : Note → Prop
  | merged _ => False
  | asked _ _ calls _ => ∃ http ∈ sentRequests calls, http.method = .post

end Note

/-- The id that notes give, the latest one first. -/
def latestId? (notes : List Note) : Option String := notes.findSome? Note.id?

/-- The lives that begin with a record, with a note of every document and every operation, the latest
one first.  Each operation may be made by a client of its own, with any replies. -/
inductive Life (start : Record) : List Note → Record → Prop
  | start : Life start [] start
  | edit {notes : List Note} {r : Record} (h : Life start notes r) (e : Record.Edit) :
      Life start notes (r.edit e)
  | merge {notes : List Note} {r : Record} (h : Life start notes r) {document : Json}
      (hdocument : document.HasDistinctNames) :
      Life start (.merged document :: notes) (r.merge document)
  | ask {notes : List Note} {τ : Type} [Stored τ] {target target' : τ} {access : Access} {c : Config}
      {calls : List CallEvent} {outcome : Outcome} (h : Life start notes (Stored.record target))
      (htrace : Trace (access.operation c target) calls (outcome, target')) :
      Life start (.asked access c calls outcome :: notes) (Stored.record target')

/-! ### One operation -/

section Operation

variable {τ : Type} [Stored τ] {c : Config} {request : Api.Request} {access : Access}
  {target target' : τ} {calls : List CallEvent} {outcome : Outcome}

/-- The requests that are sent go where their request says. -/
theorem Sends.goTo (h : Sends c request calls) : Note.GoTo c request.method request.path calls := by
  intro http hmem
  cases h with
  | nothing hnone =>
    rw [hnone] at hmem
    cases hmem
  | @once active sent rest hresolve delivery hrest =>
    rw [sentRequests_once hrest] at hmem
    obtain rfl := List.mem_singleton.1 hmem
    obtain ⟨hurl, rfl⟩ := Api.Request.resolve_eq_ok_iff.1 hresolve
    exact ⟨rfl, Config.resourceUrl_eq_ok_iff.2 ⟨hurl, rfl⟩⟩

/-- An operation that fails lays nothing over the record. -/
theorem lays_error (access : Access) (c : Config) (calls : List CallEvent) (e : Error) (r : Record) :
    (Note.asked access c calls (.error e)).Lays r r := by
  have hnone : (Note.asked access c calls (.error e)).document? = none := by
    cases access <;> rfl
  unfold Note.Lays
  rw [hnone]
  exact ⟨rfl, nofun⟩

/-- An operation that succeeds lays the reply over the record, unless it was a deletion. -/
theorem lays_of_receive {reply : Json} (hanswered : Answered calls reply)
    (hreceive : access.receive target reply = .ok target') :
    (Note.asked access c calls (.ok ())).Lays (Stored.record target) (Stored.record target') := by
  have hdistinct := hanswered.hasDistinctNames
  cases access with
  | delete =>
    cases hreceive
    exact ⟨rfl, nofun⟩
  | _ =>
    -- The other four take in a reply in the same way.
    cases hreceive
    simp only [Note.Lays, Note.document?, hanswered.replies_eq, List.head?_cons, Option.mem_some_iff]
    exact ⟨Stored.record_withRecord _ _, by rintro _ rfl; exact hdistinct⟩

theorem lays_of_trace (htrace : Trace (access.operation c target) calls (outcome, target')) :
    (Note.asked access c calls outcome).Lays (Stored.record target) (Stored.record target') := by
  rw [Access.trace_iff] at htrace
  cases hrequest : access.request? (Stored.record target) with
  | none =>
    rw [hrequest] at htrace
    obtain ⟨-, hx⟩ := htrace
    cases hx
    exact lays_error ..
  | some request =>
    rw [hrequest] at htrace
    cases htrace with
    | failed => exact lays_error ..
    | unusable => exact lays_error ..
    | received hanswer hreceive => exact lays_of_receive hanswer.answered hreceive

/-- An operation goes where the id of the record says. -/
theorem addresses_of_trace (htrace : Trace (access.operation c target) calls (outcome, target')) :
    (Note.asked access c calls outcome).Addresses (Stored.record target).classPath
      (Stored.record target).objectId := by
  rw [Access.trace_iff] at htrace
  obtain ⟨hid, rfl, hrequest⟩ | ⟨hid, hother, hrequest⟩ |
      ⟨id, request, hid, hrequest, hmethod, hpath⟩ := access.request?_cases (Stored.record target)
  · rw [hrequest] at htrace
    rw [hid]
    exact (sends_exchange (trace_exchange.2 htrace)).goTo
  · -- Without an id there is no request, and `Addresses` asks the same of all but a save.
    rw [hrequest] at htrace
    rw [hid]
    obtain ⟨rfl, hx⟩ := htrace
    cases hx
    cases access with
    | save => exact absurd rfl hother
    | _ => exact ⟨rfl, rfl⟩
  · rw [hrequest] at htrace
    rw [hid, Note.Addresses, ← hmethod, ← hpath]
    exact (sends_exchange (trace_exchange.2 htrace)).goTo

end Operation

/-! ### Whole lives -/

theorem latestId?_cons (note : Note) (notes : List Note) :
    latestId? (note :: notes) = note.id?.or (latestId? notes) := by
  rw [latestId?, List.findSome?_cons]
  cases note.id? <;> rfl

/-- What the notes of a life say about the record at its end. -/
structure Identified (start : Record) (notes : List Note) (r : Record) : Prop where
  className : r.className = start.className
  /-- The id is the last one that the notes give, or else the one at the start. -/
  objectId : r.objectId = (latestId? notes).or start.objectId
  /-- Every operation went where the id at its time says. -/
  addresses : ∀ note earlier, note :: earlier <:+ notes →
    note.Addresses start.classPath ((latestId? earlier).or start.objectId)

section Lives

variable {start r r' : Record} {notes : List Note} {note : Note}

/-- One more note, whose document is laid over the record. -/
theorem Identified.cons (h : Identified start notes r)
    (haddresses : note.Addresses r.classPath r.objectId) (hlays : note.Lays r r') :
    Identified start (note :: notes) r' where
  className := by rw [hlays.1, Record.className_overlaid, h.className]
  objectId := by
    rw [hlays.1, r.objectId_overlaid hlays.2, h.objectId, latestId?_cons, Option.or_assoc]
    rfl
  addresses := by
    intro note' earlier hsuffix
    rcases List.suffix_cons_iff.1 hsuffix with heq | hsuffix
    · -- The new note was made while the record had the id that the earlier notes give.
      cases heq
      rw [Record.classPath, h.className, h.objectId] at haddresses
      exact haddresses
    · exact h.addresses note' earlier hsuffix

/-- **The id of a record is what its notes say**, at the end of every life. -/
theorem Life.identified (h : Life start notes r) : Identified start notes r := by
  -- By induction on the life: changes by callers leave class and id alone, and all else adds a note.
  induction h with
  | start => exact ⟨rfl, rfl, fun note earlier h => by cases List.suffix_nil.1 h⟩
  | @edit notes r _ e ih =>
    obtain ⟨hclass, hid⟩ := r.identity_editAll [e]
    exact ⟨hclass.trans ih.className, hid.trans ih.objectId, ih.addresses⟩
  | @merge notes r _ document hdocument ih =>
    exact ih.cons trivial ⟨rfl, by rintro _ ⟨⟩; exact hdocument⟩
  | ask _ htrace ih => exact ih.cons (addresses_of_trace htrace) (lays_of_trace htrace)

theorem latestId?_eq_none_iff : latestId? notes = none ↔ ∀ note ∈ notes, note.id? = none :=
  List.findSome?_eq_none_iff

/-- The ids that notes give are texts that are not empty. -/
theorem ne_empty_of_latestId? {id : String} (h : latestId? notes = some id) : id ≠ "" := by
  obtain ⟨note, -, hid⟩ := List.exists_of_findSome?_eq_some h
  obtain ⟨document, -, hcarried⟩ := Option.bind_eq_some_iff.1 hid
  exact Json.ne_empty_of_carriedId? hcarried

/-- **The identity of a record over its whole life.**  A record of a class is new as long as no
document that was laid over it has carried an id; until then a save creates an object of the class,
and all other operations fail at once.  From the first such document on it has the id that the last
one of them carried, and every operation goes to the path of that id. -/
theorem identity_over_life {className : String} (h : Life { className } notes r) :
    r.className = className ∧ (r.isNew = true ↔ ∀ note ∈ notes, note.id? = none) ∧
      r.objectId = latestId? notes ∧ (∀ id ∈ r.objectId, id ≠ "") ∧
      ∀ note earlier, note :: earlier <:+ notes →
        note.Addresses (Api.Path.ofClass className) (latestId? earlier) := by
  have hid : r.objectId = latestId? notes := by
    rw [h.identified.objectId, Option.or_none]
  refine ⟨h.identified.className, ?_, hid, ?_, ?_⟩
  · rw [Record.isNew, hid, Option.isNone_iff_eq_none, latestId?_eq_none_iff]
  · intro id hmem
    exact ne_empty_of_latestId? (hid ▸ hmem)
  · intro note earlier hsuffix
    have haddresses := h.identified.addresses note earlier hsuffix
    rwa [Option.or_none] at haddresses

/-- Here a forged id is refused, a first save is answered without an id, so that a refresh fails,
and a second one is answered with an id, which the deletion then goes to. -/
theorem identity_over_life_score :
    let r : Record := ({ className := "Score" } : Record).edit (.set "objectId" (.string "forged"))
    let reply := "\x7b\"objectId\":\"s1\"\x7d"
    let saved : Record := r.merge (.object [("objectId", .string "s1")])
    let request : Api.Request := { method := .delete, path := "classes/Score/s1" }
    let notes : List Note :=
      [.asked .delete {} (answered request "{}") (.ok ()),
        .asked .save {} (answeredSave r reply) (.ok ()),
        .asked .refresh {} [] (.error .missingObjectId),
        .asked .save {} (answeredSave r "{}") (.ok ())]
    Life { className := "Score" } notes saved ∧ latestId? notes = some "s1" ∧
      saved.className = "Score" ∧ saved.objectId = latestId? notes := by
  intro r reply saved request notes
  have hedited : Life { className := "Score" } [] r := Life.start.edit _
  have hurl : Config.checkUrl (({} : Config).resourceText (saveRequest r).path) = .ok () :=
    eq_ok_iff_toOption.2 (by decide +kernel)
  have hempty : Api.interpret ⟨200, "{}"⟩ = .ok (.object []) :=
    eq_ok_iff_toOption.2 (by decide +kernel)
  have hfirst : Trace (Access.save.operation {} r) (answeredSave r "{}") (.ok (), r) :=
    trace_answeredSave hurl hempty
  have hrefresh : Trace (Access.refresh.operation {} r) [] (.error .missingObjectId, r) := by
    refine (Access.trace_iff .refresh).2 ?_
    exact And.intro rfl rfl
  have hsecond : Trace (Access.save.operation {} r) (answeredSave r reply) (.ok (), saved) :=
    trace_answeredSave hurl (eq_ok_iff_toOption.2 (by decide +kernel))
  have hdelete : Trace (Access.delete.operation {} saved) (answered request "{}") (.ok (), saved) := by
    have hpath : (Stored.record saved).objectPath? = some "classes/Score/s1" := by decide +kernel
    have hrequest : Access.delete.request? (Stored.record saved) = some request := by
      rw [Access.request?, hpath]
      rfl
    have hdeleteUrl : Config.checkUrl (({} : Config).resourceText request.path) = .ok () :=
      eq_ok_iff_toOption.2 (by decide +kernel)
    rw [Access.trace_iff, hrequest]
    exact .received (answer_answered hdeleteUrl hempty) rfl
  have hlife : Life { className := "Score" } notes saved :=
    (((hedited.ask hfirst).ask hrefresh).ask hsecond).ask hdelete
  obtain ⟨hclass, -, hid, -, -⟩ := identity_over_life hlife
  exact ⟨hlife, by decide +kernel, hclass, hid⟩

end Lives

/-! ### Objects that are created twice -/

/-- A life that begins with an id creates no object. -/
theorem Life.not_posts {start r : Record} {notes : List Note} (h : Life start notes r)
    (hstart : start.isNew = false) {note : Note} (hnote : note ∈ notes) : ¬ note.Posts := by
  obtain ⟨later, earlier, rfl⟩ := List.append_of_mem hnote
  have haddresses := h.identified.addresses note earlier (List.suffix_append ..)
  obtain ⟨id, hid⟩ : ∃ id, (latestId? earlier).or start.objectId = some id := by
    rw [Record.isNew, Option.isNone_eq_false_iff] at hstart
    rw [← Option.isSome_iff_exists, Option.isSome_or, hstart, Bool.or_true]
  rw [hid] at haddresses
  cases note with
  | merged => exact not_false
  | asked access c calls outcome =>
    rintro ⟨http, hmem, hpost⟩
    have hmethod : http.method = access.method := (haddresses http hmem).1
    rw [hpost] at hmethod
    cases access <;> cases hmethod

section Created

variable {τ : Type} [Stored τ] {c : Config} {target target' : τ} {calls : List CallEvent}

theorem saveRequest_of_isNew {r : Record} (h : r.isNew = true) :
    saveRequest r = { method := .post, path := r.classPath, body := some r.body } := by
  rw [Record.isNew, Option.isNone_iff_eq_none] at h
  rw [saveRequest, Record.objectPath?, h]
  rfl

/-- A new record that is still new after a save can be saved again, which creates another object. -/
theorem exists_posts (htrace : Trace (save c target) calls (.ok (), target'))
    (hclass : (Stored.record target').className = (Stored.record target).className)
    (hstart : (Stored.record target).isNew = true) (hnew : (Stored.record target').isNew = true) :
    ∃ notes r, Life (Stored.record target') notes r ∧ ∃ note ∈ notes, note.Posts := by
  obtain ⟨-, -, -, hurl, -⟩ := trace_exchange_ok_iff.1 htrace
  have hpath : (saveRequest (Stored.record target)).path =
      (saveRequest (Stored.record target')).path := by
    rw [saveRequest_of_isNew hstart, saveRequest_of_isNew hnew]
    exact congrArg Api.Path.ofClass hclass.symm
  rw [hpath] at hurl
  have hagain : Trace (Access.save.operation c target') _ (.ok (), _) :=
    trace_exchange_ok_iff.2 ⟨none, ⟨200, ""⟩, .object [], hurl, rfl, rfl, rfl⟩
  refine ⟨_, _, Life.start.ask hagain, _, List.mem_singleton_self _, _, List.mem_singleton_self _, ?_⟩
  rw [saveRequest_of_isNew hnew]
  rfl

/-- **A saved record is created again** by a later save if it was new and the reply to the first save
carried no id, and only then; and a save that succeeds leaves it with an id that is not empty if the
reply carried one or the record had one, and only then. -/
theorem created_again_iff (htrace : Trace (save c target) calls (.ok (), target')) :
    ∃ reply, replies calls = [reply] ∧
      ((∃ id ∈ (Stored.record target').objectId, id ≠ "") ↔
        reply.carriedId?.isSome ∨ ∃ id ∈ (Stored.record target).objectId, id ≠ "") ∧
      ((∃ notes r, Life (Stored.record target') notes r ∧ ∃ note ∈ notes, note.Posts) ↔
        reply.carriedId? = none ∧ (Stored.record target).isNew = true) := by
  obtain ⟨reply, hanswer, -⟩ := (trace_exchange.1 htrace).received_of_ok
  have hsave : Trace (Access.save.operation c target) calls (.ok (), target') := htrace
  obtain ⟨hrecord, hdistinct⟩ := lays_of_trace hsave
  have hreplies := hanswer.answered.replies_eq
  have hid : (Stored.record target').objectId =
      reply.carriedId?.or (Stored.record target).objectId := by
    rw [hrecord, Record.objectId_overlaid _ hdistinct]
    simp only [Note.document?, hreplies]
    rfl
  have hclass : (Stored.record target').className = (Stored.record target).className := by
    rw [hrecord, Record.className_overlaid]
  refine ⟨reply, hreplies, ?_, ?_, ?_⟩
  · rw [hid]
    cases hcarried : reply.carriedId? with
    | none => simp
    | some id => simp [Json.ne_empty_of_carriedId? hcarried]
  · -- A life that creates an object begins with a new record, which the reply has left so.
    rintro ⟨notes, r, hlife, note, hnote, hposts⟩
    have hnew : (Stored.record target').isNew = true := by
      cases hnew : (Stored.record target').isNew with
      | true => rfl
      | false => exact absurd hposts (hlife.not_posts hnew hnote)
    rw [Record.isNew, hid, Option.isNone_iff_eq_none, Option.or_eq_none_iff] at hnew
    exact ⟨hnew.1, Option.isNone_iff_eq_none.2 hnew.2⟩
  · rintro ⟨hcarried, hstart⟩
    have hnew : (Stored.record target').isNew = true := by
      rw [Record.isNew, hid, hcarried]
      exact hstart
    exact exists_posts htrace hclass hstart hnew

end Created

/-- Here a new score is saved, and the reply is an empty object. -/
theorem created_again_iff_score :
    let r : Record := { className := "Score" }
    Trace (save {} r) (answeredSave r "{}") (.ok (), r) ∧
      (∃ notes r', Life r notes r' ∧ ∃ note ∈ notes, note.Posts) ∧
      ¬ ∃ id ∈ r.objectId, id ≠ "" := by
  intro r
  have hurl : Config.checkUrl (({} : Config).resourceText (saveRequest r).path) = .ok () :=
    eq_ok_iff_toOption.2 (by decide +kernel)
  have hreply : Api.interpret ⟨200, "{}"⟩ = .ok (.object []) :=
    eq_ok_iff_toOption.2 (by decide +kernel)
  have htrace : Trace (save {} r) (answeredSave r "{}") (.ok (), r) :=
    trace_answeredSave hurl hreply
  obtain ⟨reply, hreplies, hid, hcreated⟩ := created_again_iff htrace
  have hempty : replies (answeredSave r "{}") = [.object []] := by decide +kernel
  obtain rfl : reply = .object [] := List.head_eq_of_cons_eq (hreplies.symm.trans hempty)
  exact ⟨htrace, hcreated.2 ⟨rfl, rfl⟩, fun h => nomatch hid.1 h⟩

/-- **One record, two objects.**  The server creates an object and answers with an empty one, and the
record is saved, still new, and created again. -/
theorem created_twice :
    let serve : Server Unit := fun _ _ => (.ok ⟨201, "{}"⟩, ())
    let first := (save {} ({ className := "Score" } : Record)).run serve { server := () }
    let second := (save {} first.1.2).run serve first.2
    first.1.1.toOption = some () ∧ first.1.2.objectId = none ∧ second.1.1.toOption = some () ∧
      second.2.sent.map (fun http => (http.method, http.url)) =
        [(.post, "https://api.parse.com/1/classes/Score"),
          (.post, "https://api.parse.com/1/classes/Score")] := by
  decide +kernel

end Client

end DocStore
