import DocStore.Command.Execution
import DocStore.Proofs.Client.Identity
import DocStore.Proofs.Client.ReadBack
import DocStore.Proofs.Record.Document

/-!
# The command that saves an object

The data of the command is a text.  It is read and checked before anything is sent, so that a reserved
name anywhere among its keys means that nothing is.

* `Command.setAll_eq` : all attributes are set in order, or the first reserved name is refused;
* `Command.run_save_eq` : the command with data that is not refused is one exchange;
* `Command.Saves`, `Command.Shows` : what is then sent of the data, and what is shown of data and reply;
* `Command.saveEnds_run` : **every way in which the command ends**, whatever it is given and whatever
  the server answers (`Command.SaveEnds`).
-/

namespace DocStore.Command

open Client

/-! ### The record to save -/

/-- The first of the reserved names among keys. -/
def firstReserved? (keys : List String) : Option String := keys.find? (· ∈ Record.reserved)

theorem setAll_eq (r : Record) (entries : List (String × Json)) :
    setAll r entries =
      match firstReserved? (Members.keys entries) with
      | some key => .error (.reservedField key)
      | none => .ok { r with
          attributes := r.attributes.overlay entries
          distinct := Members.nodup_keys_overlay r.distinct entries } := by
  induction entries generalizing r with
  | nil => rfl
  | cons entry entries ih =>
    obtain ⟨key, value⟩ := entry
    by_cases hkey : key ∈ Record.reserved
    · simp [setAll, Record.set?, firstReserved?, Members.keys, hkey]
    · have hfirst : firstReserved? (Members.keys ((key, value) :: entries)) =
          firstReserved? (Members.keys entries) := by
        simp [firstReserved?, Members.keys, hkey]
      rw [hfirst, setAll, Record.set?, if_neg hkey]
      exact ih _

/-- The record that has the data as its attributes. -/
def dataRecord (className : String) (id? : Option String) (entries : Members Json)
    (h : entries.keys.Nodup) : Record :=
  { className, objectId := id?, attributes := entries, distinct := h }

section Data

variable {σ : Type} {serve : Server σ} {w : World σ} {c : Config} {className data : String}
  {id? : Option String} {entries : Members Json}

theorem recordToSave_of_error {e : Json.ReadError} (hparse : Json.parse data = .error e) :
    recordToSave className data id? = .error (.invalidJson "data" e) := by
  unfold recordToSave parseObject
  rw [hparse]
  rfl

theorem recordToSave_of_not_object {value : Json} (hparse : Json.parse data = .ok value)
    (h : value.members? = none) :
    recordToSave className data id? = .error (.notAnObject "data") := by
  unfold recordToSave parseObject
  rw [hparse]
  cases value with
  | object entries => cases h
  | _ => rfl

theorem recordToSave_eq (hparse : Json.parse data = .ok (.object entries)) :
    recordToSave className data id? = setAll { className, objectId := id? } entries := by
  unfold recordToSave parseObject
  rw [hparse]
  rfl

theorem nodup_keys_of_parse (hparse : Json.parse data = .ok (.object entries)) :
    entries.keys.Nodup := Json.hasDistinctNames_parse hparse entries rfl

theorem recordToSave_of_reserved {key : String} (hparse : Json.parse data = .ok (.object entries))
    (hkey : firstReserved? entries.keys = some key) :
    recordToSave className data id? = .error (.reservedField key) := by
  rw [recordToSave_eq hparse, setAll_eq, hkey]

theorem recordToSave_of_free (hparse : Json.parse data = .ok (.object entries))
    (hfree : firstReserved? entries.keys = none) :
    recordToSave className data id? =
      .ok (dataRecord className id? entries (nodup_keys_of_parse hparse)) := by
  rw [recordToSave_eq hparse, setAll_eq, hfree]
  refine congrArg Except.ok (Record.ext rfl rfl rfl rfl ?_ rfl)
  exact Members.ofList_of_nodup (nodup_keys_of_parse hparse)

/-- A command whose data is refused sends nothing. -/
theorem run_save_of_error {e : CommandError} (h : recordToSave className data id? = .error e) :
    (execute c (.save className data id?)).run serve w = (.error e, w) := by
  rw [execute, h]
  rfl

/-- Otherwise it is the exchange that saves the record, and shows the record after it. -/
theorem run_save_eq {r : Record} (h : recordToSave className data id? = .ok r) :
    (execute c (.save className data id?)).run serve w =
      match (saveRequest r).resolve c w.session.token with
      | .error e => (.error (.client e), w)
      | .ok http =>
        match replyOf (serve http w.server).1 with
        | .error e => (.error (.client e), (w.send serve http).2)
        | .ok reply => (.ok (r.merge reply).document, (w.send serve http).2) := by
  have hexecute : execute c (.save className data id?) =
      (exchange c (saveRequest r) r (mergeReply r)).bind fun ended =>
        .done (resultOf Record.document ended) := by
    rw [execute, h]
    rfl
  rw [hexecute, Call.run_bind, run_exchange, Call.run]
  cases (saveRequest r).resolve c w.session.token with
  | error e => rfl
  | ok http =>
    dsimp only
    cases replyOf (serve http w.server).1 <;> rfl

/-! ### What is sent and what is shown -/

/-- The path that data is sent to: that of the object if an id is given. -/
def savePath (className : String) : Option String → String
  | some id => Api.Path.ofObject className id
  | none => Api.Path.ofClass className

/-- A request writes data: to the object if an id is given, and else to a new one.  Its body is the data
without the session token, in the same order. -/
structure Saves (c : Config) (className : String) (id? : Option String) (entries : Members Json)
    (http : Http.Request) : Prop where
  method : http.method = if id?.isSome then .put else .post
  url : http.url = c.resourceText (savePath className id?)
  query : http.query = []
  body : http.body = some (.object (entries.filter fun entry => entry.1 ≠ "sessionToken"))

/-- A document shows data over which a reply has been laid.  Its id is the text in the reply, if there is
one that is not empty, or else the id that was given. -/
structure Shows (id? : Option String) (entries : Members Json) (reply document : Json) : Prop where
  objectId : document.field? "objectId" = (reply.carriedId?.or id?).map .string
  member : ∀ key, key ∉ Record.reserved → key ≠ "ACL" →
    document.field? key = (reply.field? key).or (entries.get? key)

theorem saveRequest_dataRecord (h : entries.keys.Nodup) :
    saveRequest (dataRecord className id? entries h) =
      { method := if id?.isSome then .put else .post
        path := savePath className id?
        body := some (.object (entries.filter fun entry => entry.1 ≠ "sessionToken")) } := by
  cases id? <;> rfl

theorem saves_message (h : entries.keys.Nodup) (active : Option String) :
    Saves c className id? entries
      ((saveRequest (dataRecord className id? entries h)).message c active) := by
  rw [saveRequest_dataRecord h]
  exact ⟨rfl, rfl, rfl, rfl⟩

theorem wellNamed_dataRecord (h : entries.keys.Nodup)
    (hfree : firstReserved? entries.keys = none) :
    (dataRecord className id? entries h).WellNamed := by
  intro key hreserved hkey
  exact List.find?_eq_none.1 hfree key hkey (decide_eq_true hreserved)

theorem shows_merge {reply : Json} (hdistinct : reply.HasDistinctNames) (h : entries.keys.Nodup)
    (hfree : firstReserved? entries.keys = none) :
    Shows id? entries reply ((dataRecord className id? entries h).merge reply).document where
  objectId := by
    have hwell : ((dataRecord className id? entries h).merge reply).WellNamed :=
      (wellNamed_dataRecord h hfree).merge reply
    rw [Record.field?_document_objectId (hwell _ (by decide)), Record.objectId_merge _ hdistinct]
    rfl
  member key hreserved hacl := by
    have hname : Record.isAttributeName key = true := by
      simp [Record.isAttributeName, hreserved, hacl]
    rw [Record.field?_document_of_isAttributeName _ hname, Record.get?_merge _ hdistinct hname]
    rfl

/-! ### How the command ends -/

/-- How the command ends, by what is read of its data.  In the first four cases nothing is sent, and in
the last two one request is. -/
inductive SaveEnds (c : Config) (className : String) (id? : Option String) (serve : Server σ)
    (w : World σ) : Except Json.ReadError Json → Result × World σ → Prop
  | unreadable (e : Json.ReadError) :
      SaveEnds c className id? serve w (.error e) (.error (.invalidJson "data" e), w)
  | notAnObject {value : Json} (h : value.members? = none) :
      SaveEnds c className id? serve w (.ok value) (.error (.notAnObject "data"), w)
  | reserved {entries : Members Json} {key : String}
      (hkey : firstReserved? entries.keys = some key) :
      SaveEnds c className id? serve w (.ok (.object entries)) (.error (.reservedField key), w)
  /-- There is no URL to send the data to. -/
  | unaddressed {entries : Members Json} {e : Error} (hfree : firstReserved? entries.keys = none)
      (hurl : Config.checkUrl (c.resourceText (savePath className id?)) = .error e) :
      SaveEnds c className id? serve w (.ok (.object entries)) (.error (.client e), w)
  /-- The server was not reached, or has refused, or its reply could not be read. -/
  | failed {entries : Members Json} {http : Http.Request} {e : Error}
      (hfree : firstReserved? entries.keys = none)
      (hurl : Config.checkUrl (c.resourceText (savePath className id?)) = .ok ())
      (hsaves : Saves c className id? entries http)
      (hreply : replyOf (serve http w.server).1 = .error e) :
      SaveEnds c className id? serve w (.ok (.object entries))
        (.error (.client e), (w.send serve http).2)
  | saved {entries : Members Json} {http : Http.Request} {reply document : Json}
      (hfree : firstReserved? entries.keys = none)
      (hurl : Config.checkUrl (c.resourceText (savePath className id?)) = .ok ())
      (hsaves : Saves c className id? entries http)
      (hreply : replyOf (serve http w.server).1 = .ok reply)
      (hshows : Shows id? entries reply document) :
      SaveEnds c className id? serve w (.ok (.object entries)) (.ok document, (w.send serve http).2)

/-- Data that is not refused is sent if there is a URL for it. -/
theorem saveEnds_of_free (hparse : Json.parse data = .ok (.object entries))
    (hfree : firstReserved? entries.keys = none) :
    SaveEnds c className id? serve w (.ok (.object entries))
      ((execute c (.save className data id?)).run serve w) := by
  have h := nodup_keys_of_parse hparse
  rw [run_save_eq (recordToSave_of_free hparse hfree)]
  have hpath : (saveRequest (dataRecord className id? entries h)).path = savePath className id? := by
    rw [saveRequest_dataRecord h]
  cases hresolve : (saveRequest (dataRecord className id? entries h)).resolve c w.session.token with
  | error e =>
    rw [Api.Request.resolve_eq_error_iff, hpath] at hresolve
    exact .unaddressed hfree hresolve
  | ok http =>
    obtain ⟨hurl, rfl⟩ := Api.Request.resolve_eq_ok_iff.1 hresolve
    rw [hpath] at hurl
    dsimp only
    split
    · rename_i hreply
      exact .failed hfree hurl (saves_message h _) hreply
    · rename_i hreply
      exact .saved hfree hurl (saves_message h _) hreply
        (shows_merge (hasDistinctNames_replyOf hreply) h hfree)

/-- **What becomes of data that is to be saved**, whatever it is and whatever the server answers.  A text
that is no JSON object, or has a reserved name anywhere among its keys, is refused, the name being the
first of them in the text, and nothing is sent.  Else one request is sent if there is a URL: it goes to
the object if an id is given, and its body is the data without the session token.  If the reply can be
read, the data is shown with the reply laid over it. -/
theorem saveEnds_run (c : Config) (className data : String) (id? : Option String) (serve : Server σ)
    (w : World σ) :
    SaveEnds c className id? serve w (Json.parse data)
      ((execute c (.save className data id?)).run serve w) := by
  cases hparse : Json.parse data with
  | error e =>
    rw [run_save_of_error (recordToSave_of_error hparse)]
    exact .unreadable e
  | ok value =>
    cases hmembers : value.members? with
    | none =>
      rw [run_save_of_error (recordToSave_of_not_object hparse hmembers)]
      exact .notAnObject hmembers
    | some entries =>
      obtain rfl : value = .object entries := by
        cases value <;> cases hmembers
        rfl
      cases hfirst : firstReserved? entries.keys with
      | some key =>
        rw [run_save_of_error (recordToSave_of_reserved hparse hfirst)]
        exact .reserved hfirst
      | none => exact saveEnds_of_free hparse hfirst

/-- Here the token is not sent, the reply has another level, and all else is shown as it was given. -/
example :
    let serve : Server Unit := fun _ _ =>
      (.ok ⟨201, "\x7b\"objectId\":\"s1\",\"level\":2\x7d"⟩, ())
    let data := "\x7b\"level\":1,\"sessionToken\":\"t\",\"name\":\"ann\"\x7d"
    let ended := (execute {} (.save "Score" data none)).run serve { server := () }
    ended.1.toOption.map Json.compact =
        some "\x7b\"objectId\":\"s1\",\"level\":2,\"sessionToken\":\"t\",\"name\":\"ann\"\x7d" ∧
      ended.2.sent.map (fun http => http.body.map Json.compact) =
        [some "\x7b\"level\":1,\"name\":\"ann\"\x7d"] := by
  decide +kernel

end Data

end DocStore.Command
