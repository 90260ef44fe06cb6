import DocStore.Command.Execution
import DocStore.Proofs.Client.Expansion
import DocStore.Proofs.Record.Document

/-!
# What a command shows of references

The command that loads an object has a flag that asks for its references to be expanded.  The record
that it loads is a handle, which has a class and an id and nothing else, so that there is no
reference that the request could name.

* `Record.holdsReference_document` : the references that are shown of a record are those that its
  attributes hold;
* `Client.fetch_eq_refresh` : a load of a record without references expands nothing;
* `Command.get_shows_references` : so **the flag changes nothing**, and every reference of an object
  that a server keeps is shown as it is.
-/

namespace DocStore

/-! ### References that are shown -/

/-- A document holds a reference under a name. -/
def Json.HoldsReference (document : Json) (name : String) : Prop :=
  ∃ value, document.field? name = some value ∧ value.isPointer = true

theorem Json.holdsReference_object {entries : Members Json} {name : String} :
    (Json.object entries).HoldsReference name ↔
      ∃ value, entries.get? name = some value ∧ value.isPointer = true := Iff.rfl

theorem Acl.isPointer_toJson (a : Acl) : a.toJson.isPointer = false := by
  have htype : a.toJson.field? "__type" = (a.grants.get? "__type").map Acl.grantToJson :=
    Members.get?_map (fun _ => Acl.grantToJson) a.grants "__type"
  rw [Json.isPointer, htype]
  cases a.grants.get? "__type" <;> rfl

namespace Record

variable {r : Record} {name : String}

theorem exists_of_mem_optionalMember {α : Type} {key : String} {x? : Option α} {toJson : α → Json}
    {entry : String × Json} (h : entry ∈ optionalMember key (x?.map toJson)) :
    ∃ x, toJson x = entry.2 := by
  cases x? with
  | none => cases h
  | some x =>
    obtain rfl := List.mem_singleton.1 h
    exact ⟨x, rfl⟩

/-- Id and times are shown as texts. -/
theorem isPointer_of_mem_metadata {entry : String × Json} (h : entry ∈ r.metadata) :
    entry.2.isPointer = false := by
  rw [metadata, List.mem_append, List.mem_append] at h
  obtain (h | h) | h := h
  all_goals
    obtain ⟨_, hvalue⟩ := exists_of_mem_optionalMember h
    rw [← hvalue]
    rfl

/-- Below the access control list, the references that are shown are those that attributes hold. -/
theorem holdsReference_overlay (r : Record) (name : String) :
    Json.HoldsReference (.object (r.metadata.overlay r.attributes)) name ↔
      name ∈ r.pointerKeys := by
  have hget : (r.metadata.overlay r.attributes).get? name =
      (r.get? name).or (r.metadata.get? name) := Members.get?_overlay _ r.distinct name
  rw [Json.holdsReference_object, hget, mem_pointerKeys]
  cases hattribute : r.get? name with
  | some value => rfl
  | none =>
    refine ⟨fun ⟨value, hvalue, hpointer⟩ => ?_, nofun⟩
    have htext := isPointer_of_mem_metadata (Members.mem_of_get? hvalue)
    exact absurd hpointer (Bool.eq_false_iff.1 htext)

/-- The references that are shown of a record are those that its attributes hold. -/
theorem holdsReference_document (hacl : "ACL" ∉ r.pointerKeys) :
    r.document.HoldsReference name ↔ name ∈ r.pointerKeys := by
  rw [document, Json.holdsReference_object, get?_withAcl]
  split
  · -- The list, if there is one, is shown in place of an attribute of its name.
    rename_i hname
    subst hname
    cases hacl' : r.acl with
    | none => exact r.holdsReference_overlay "ACL"
    | some acl => simp [hacl, acl.isPointer_toJson]
  · exact r.holdsReference_overlay name

end Record

namespace Client

/-- A load of a record without references expands nothing. -/
theorem fetch_eq_refresh (c : Config) {r : Record} (h : r.pointerKeys = []) :
    fetch c r = refresh c r := by
  have hparameters : expandParameter r = [] := by
    rw [expandParameter, h]
    rfl
  have hrequest (path : String) : exchange c
      { method := .get, path, parameters := expandParameter r } r (mergeReply r) =
      exchange c { method := .get, path } r (mergeReply r) := by rw [hparameters]
  unfold fetch refresh onSaved
  cases (Stored.record r).objectPath? with
  | none => rfl
  | some path => exact hrequest path

variable {o : KeptObject} {r : Record} {name : String}

/-- If nothing is named in the request, every reference of the object becomes one of the record. -/
theorem mem_pointerKeys_merge_unexpanded (h : r.pointerKeys = []) :
    name ∈ (r.merge (.object (o.answer []))).pointerKeys ↔ name ∈ o.references := by
  constructor
  · intro hname
    obtain hold | hreference := mem_of_mem_pointerKeys_merge hname
    · rw [h] at hold
      cases hold
    · exact hreference
  · exact fun hname => (mem_pointerKeys_merge_answer r [] hname).2 List.not_mem_nil

end Client

namespace Command

open Client

variable {σ τ : Type} {serve : Server σ} {w : World σ} {o : KeptObject} {c : Config}
variable {className id : String} {document : Json}

theorem resultOf_eq_ok_iff {shown : τ → Json} {ended : Outcome × τ} :
    resultOf shown ended = .ok document ↔
      ∃ target, ended = (.ok (), target) ∧ document = shown target := by
  obtain ⟨outcome, target⟩ := ended
  cases outcome <;> simp [resultOf, eq_comm]

/-- The handle of an object: a record that has nothing but its id. -/
def handle (className id : String) : Record := { className, objectId := some id }

/-- What `get` shows of an object that is kept: the unexpanded document laid over a handle. -/
theorem run_get_eq_ok_iff (expand : Bool)
    (hkeeps : Keeps serve w.server (objectUrl c className id) o) :
    ((execute c (.get className id expand)).run serve w).1 = .ok document ↔
      Config.checkUrl (objectUrl c className id) = .ok () ∧ "error" ∉ o.document.keys ∧
        document = ((handle className id).merge (.object (o.answer []))).document := by
  have hload : execute c (.get className id expand) =
      (exchange c (loadRequest className id []) (handle className id)
        (mergeReply (handle className id))).bind fun ended =>
          .done (resultOf Record.document ended) := by
    cases expand with
    | true => exact congrArg (Call.bind · _) (fetch_eq_exchange c rfl)
    | false => rfl
  rw [hload, Call.run_bind, Call.run, resultOf_eq_ok_iff]
  constructor
  · rintro ⟨r₁, hended, rfl⟩
    obtain ⟨hurl, herror, rfl⟩ := (run_load_eq_ok_iff [] hkeeps).1 hended
    exact ⟨hurl, herror, rfl⟩
  · rintro ⟨hurl, herror, rfl⟩
    exact ⟨_, (run_load_eq_ok_iff [] hkeeps).2 ⟨hurl, herror, rfl⟩, rfl⟩

/-- The references that are shown of an object are all that it has. -/
theorem holdsReference_shown (o : KeptObject) (className id name : String) :
    ((handle className id).merge (.object (o.answer []))).document.HoldsReference name ↔
      name ∈ o.references := by
  have hreferences : ∀ name,
      name ∈ ((handle className id).merge (.object (o.answer []))).pointerKeys ↔
        name ∈ o.references := fun _ => mem_pointerKeys_merge_unexpanded rfl
  have hacl : "ACL" ∉ o.references := fun hmem =>
    absurd (KeptObject.mem_references.1 hmem).1 (by decide)
  rw [Record.holdsReference_document fun hmem => hacl ((hreferences _).1 hmem), hreferences]

/-- **The flag of `get` changes nothing**: with it or without it, the command shows an object that a
server keeps if there is a URL for it and the document has no member `error`, and every reference of
the object is shown as a reference.  So no reference is left **exactly if the object has none**. -/
theorem get_shows_references (c : Config) (className id : String)
    (hkeeps : Keeps serve w.server (objectUrl c className id) o) :
    execute c (.get className id true) = execute c (.get className id false) ∧
      ((∃ document, ((execute c (.get className id true)).run serve w).1 = .ok document) ↔
        Config.checkUrl (objectUrl c className id) = .ok () ∧ "error" ∉ o.document.keys) ∧
      ∀ document, ((execute c (.get className id true)).run serve w).1 = .ok document →
        (∀ name, document.HoldsReference name ↔ name ∈ o.references) ∧
          ((∀ name, ¬ document.HoldsReference name) ↔ o.references = []) := by
  refine ⟨congrArg (Call.bind · _) (fetch_eq_refresh c rfl), ?_, fun document hdocument => ?_⟩
  · simp only [run_get_eq_ok_iff true hkeeps, exists_and_left, exists_eq, and_true]
  · obtain ⟨-, -, rfl⟩ := (run_get_eq_ok_iff true hkeeps).1 hdocument
    have hshown := holdsReference_shown o className id
    refine ⟨hshown, ?_⟩
    simp only [hshown, List.eq_nil_iff_forall_not_mem]

/-- The player of a score is shown as a reference. -/
theorem get_shows_references_score :
    Keeps (keeper keptScore) () (objectUrl {} "Score" "s1") keptScore ∧
      ∃ document,
        ((execute {} (.get "Score" "s1" true)).run (keeper keptScore) { server := () }).1 =
          .ok document ∧ document.HoldsReference "player" := by
  have hkeeps := keeps_keptScore () (objectUrl {} "Score" "s1")
  obtain ⟨-, hruns, hshown⟩ :=
    get_shows_references (w := { server := () }) {} "Score" "s1" hkeeps
  obtain ⟨document, hdocument⟩ := hruns.2 ⟨eq_ok_iff_toOption.2 (by decide +kernel), by decide⟩
  exact ⟨hkeeps, document, hdocument, ((hshown document hdocument).1 "player").2 (by decide)⟩

/-- **A reference that was to be expanded is shown**, whatever the server would have answered if it
had been named. -/
theorem get_leaves_reference :
    (∀ s, Keeps (keeper keptScore) s (objectUrl {} "Score" "s1") keptScore) ∧
      ((execute {} (.get "Score" "s1" true)).run (keeper keptScore) { server := () }).1 =
        .ok (.object keptScore.document) ∧
      (Json.object keptScore.document).HoldsReference "player" := by
  have hkeeps := fun s => keeps_keptScore s (objectUrl {} "Score" "s1")
  refine ⟨hkeeps, (run_get_eq_ok_iff true (hkeeps ())).2 ⟨?_, by decide, ?_⟩, player, rfl, ?_⟩
  · exact eq_ok_iff_toOption.2 (by decide +kernel)
  · decide +kernel
  · exact Record.isPointer_pointer _

end Command

end DocStore
