import DocStore.Proofs.Client.ReadBack
import DocStore.Proofs.Record.Overlaid

/-!
# Expanding references

A server that keeps an object answers with its document, in which the references that the request
names are expanded (`Client.KeptObject`, `Client.Keeps`).  A load names the attributes of the record
that hold a reference **before** the load, so that what it brings depends on what the record held: a
reference that the record did not have yet stays as it is, and one that was expanded the last time
is named no more.

* `Client.namesToExpand_expandParameter` : the names that a load sends are those of the attributes
  that hold a reference, if they can be told apart in a list with commas;
* `Client.merge_answer_eq_iff` : a second answer changes nothing exactly if it expands the same
  references as the first one;
* `Client.fetch_again_eq_iff` : so a second load changes nothing exactly if it names the same
  references of the object, and with such names **only if the object has no references at all**.
-/

namespace DocStore

open Record (isAttributeName)

theorem Record.mem_pointerKeys {r : Record} {name : String} :
    name ∈ r.pointerKeys ↔ ∃ value, r.get? name = some value ∧ value.isPointer = true := by
  constructor
  · intro h
    obtain ⟨entry, hentry, rfl⟩ := List.mem_map.1 h
    obtain ⟨hmem, hpointer⟩ := List.mem_filter.1 hentry
    exact ⟨entry.2, Members.get?_of_mem r.distinct hmem, hpointer⟩
  · rintro ⟨value, hget, hpointer⟩
    have hmem : (name, value) ∈ r.attributes := Members.mem_of_get? hget
    exact List.mem_map.2 ⟨(name, value), List.mem_filter.2 ⟨hmem, hpointer⟩, rfl⟩

namespace Client

/-! ### Names in a request -/

/-- The names of references to expand, as a server reads them from the parameters of a request: the
texts between the commas. -/
def namesToExpand (parameters : List (String × String)) : List String :=
  match parameters.find? fun p => p.1 = "include" with
  | some p => (p.2.toList.splitOn ',').map String.ofList
  | none => []

/-- A name that can be told apart in a list with commas. -/
def IsListable (name : String) : Prop := name ≠ "" ∧ ',' ∉ name.toList

instance (name : String) : Decidable (IsListable name) :=
  inferInstanceAs (Decidable (name ≠ "" ∧ ',' ∉ name.toList))

theorem splitOn_intercalate {names : List String} (hne : names ≠ [])
    (h : ∀ name ∈ names, IsListable name) :
    ((String.intercalate "," names).toList.splitOn ',').map String.ofList = names := by
  have hcomma : ∀ l ∈ names.map String.toList, ',' ∉ l := by
    intro l hl
    obtain ⟨name, hname, rfl⟩ := List.mem_map.1 hl
    exact (h name hname).2
  rw [String.toList_intercalate]
  refine (congrArg _ (List.splitOn_intercalate ',' hcomma (by simpa using hne))).trans ?_
  simp [Function.comp_def]

/-- The parameter is left out exactly if no attribute holds a reference. -/
theorem expandParameter_eq {r : Record} (h : ∀ name ∈ r.pointerKeys, IsListable name) :
    expandParameter r =
      if r.pointerKeys = [] then [] else [("include", String.intercalate "," r.pointerKeys)] := by
  cases hkeys : r.pointerKeys with
  | nil => simp [expandParameter, hkeys]
  | cons first rest =>
    rw [hkeys] at h
    have hsplit := splitOn_intercalate (List.cons_ne_nil first rest) h
    have hne : String.intercalate "," (first :: rest) ≠ "" := by
      intro hempty
      rw [hempty] at hsplit
      have hfirst : "" = first := (List.cons.inj hsplit).1
      exact (h first List.mem_cons_self).1 hfirst.symm
    simp [expandParameter, hkeys, hne]

/-- **The names that a load sends** are those of the attributes that hold a reference, in order. -/
theorem namesToExpand_expandParameter {r : Record} (h : ∀ name ∈ r.pointerKeys, IsListable name) :
    namesToExpand (expandParameter r) = r.pointerKeys := by
  rw [expandParameter_eq h]
  split
  · rename_i hkeys
    rw [hkeys]
    rfl
  · exact splitOn_intercalate ‹_› h

/-! ### Objects that a server keeps -/

/-- An object that a server keeps, with what each of its references is expanded to. -/
structure KeptObject where
  document : Members Json
  distinct : document.keys.Nodup
  /-- What the reference in an attribute is expanded to. -/
  expansion : String → Json
  expansion_type : ∀ name, (expansion name).field? "__type" = some (.string "Object")

namespace KeptObject

variable (o : KeptObject) (names : List String)

/-- The attributes that hold a reference. -/
def references : List String :=
  (o.document.filter fun entry => isAttributeName entry.1 && entry.2.isPointer).map Prod.fst

/-- How the value of an attribute is shown when names are asked to be expanded. -/
def shown (name : String) (value : Json) : Json :=
  if isAttributeName name && value.isPointer && names.contains name then o.expansion name else value

/-- The document in which the references of some names are expanded. -/
def answer : Members Json := o.document.map fun entry => (entry.1, o.shown names entry.1 entry.2)

/-- The document names no id but this one. -/
def HasId (id : String) : Prop :=
  ∀ other, o.document.get? "objectId" = some (.string other) → other ≠ "" → other = id

variable {o names} {name : String} {value : Json}

theorem mem_references : name ∈ o.references ↔
    isAttributeName name = true ∧ ∃ value, o.document.get? name = some value ∧
      value.isPointer = true := by
  constructor
  · intro h
    obtain ⟨entry, hentry, rfl⟩ := List.mem_map.1 h
    obtain ⟨hmem, hboth⟩ := List.mem_filter.1 hentry
    rw [Bool.and_eq_true] at hboth
    exact ⟨hboth.1, entry.2, Members.get?_of_mem o.distinct hmem, hboth.2⟩
  · rintro ⟨hname, value, hget, hpointer⟩
    refine List.mem_map.2 ⟨(name, value), List.mem_filter.2 ⟨Members.mem_of_get? hget, ?_⟩, rfl⟩
    rw [hname, hpointer, Bool.and_true]

theorem isPointer_expansion (o : KeptObject) (name : String) :
    (o.expansion name).isPointer = false := by
  rw [Json.isPointer, o.expansion_type]
  decide

@[simp] theorem keys_answer : (o.answer names).keys = o.document.keys := by
  rw [answer, Members.keys, List.map_map]
  rfl

theorem get?_answer (name : String) :
    (o.answer names).get? name = (o.document.get? name).map (o.shown names name) :=
  Members.get?_map (o.shown names) o.document name

/-- The members of a name that is no attribute are shown as they are. -/
theorem shown_of_field (h : isAttributeName name = false) : o.shown names name value = value := by
  simp [shown, h]

/-- What is shown is a reference exactly if one is kept that is not expanded. -/
theorem isPointer_shown (h : isAttributeName name = true) :
    (o.shown names name value).isPointer = true ↔ value.isPointer = true ∧ name ∉ names := by
  unfold shown
  rw [h, Bool.true_and]
  by_cases hpointer : value.isPointer <;> by_cases hname : name ∈ names <;>
    simp [hpointer, hname, o.isPointer_expansion]

end KeptObject

/-! ### Two answers, one after the other -/

variable {o : KeptObject} {r : Record} {names : List String} {name : String}

theorem get?_merge_answer (r : Record) (hname : isAttributeName name = true) :
    (r.merge (.object (o.answer names))).get? name =
      ((o.document.get? name).map (o.shown names name)).or (r.get? name) := by
  have hdistinct : (Json.object (o.answer names)).HasDistinctNames := by
    rintro _ ⟨⟩
    rw [KeptObject.keys_answer]
    exact o.distinct
  rw [r.get?_merge hdistinct hname, Json.field?, Json.members?, Option.bind_some,
    KeptObject.get?_answer]

/-- After an answer, a reference of the object is one of the record exactly if it was not expanded.
-/
theorem mem_pointerKeys_merge_answer (r : Record) (names : List String)
    (hname : name ∈ o.references) :
    name ∈ (r.merge (.object (o.answer names))).pointerKeys ↔ name ∉ names := by
  obtain ⟨hattribute, value, hget, hpointer⟩ := KeptObject.mem_references.1 hname
  rw [Record.mem_pointerKeys, get?_merge_answer r hattribute, hget]
  simp [KeptObject.isPointer_shown hattribute, hpointer]

/-- An answer brings no references but those of the object. -/
theorem mem_of_mem_pointerKeys_merge
    (h : name ∈ (r.merge (.object (o.answer names))).pointerKeys) :
    name ∈ r.pointerKeys ∨ name ∈ o.references := by
  obtain ⟨value, hget, hpointer⟩ := Record.mem_pointerKeys.1 h
  cases hattribute : isAttributeName name with
  | false =>
    rw [r.get?_merge_of_field _ hattribute] at hget
    exact .inl (Record.mem_pointerKeys.2 ⟨value, hget, hpointer⟩)
  | true =>
    rw [get?_merge_answer r hattribute] at hget
    cases hkept : o.document.get? name with
    | none =>
      rw [hkept] at hget
      exact .inl (Record.mem_pointerKeys.2 ⟨value, hget, hpointer⟩)
    | some kept =>
      rw [hkept] at hget
      cases hget
      have hkeptPointer := ((KeptObject.isPointer_shown hattribute).1 hpointer).1
      exact .inr (KeptObject.mem_references.2 ⟨hattribute, kept, hkept, hkeptPointer⟩)

/-- **A second answer changes nothing** exactly if it expands the same references as the first one.
-/
theorem merge_answer_eq_iff {r₁ : Record} (hr₁ : r₁ = r.merge (.object (o.answer names)))
    (names' : List String) :
    r₁.merge (.object (o.answer names')) = r₁ ↔
      ∀ name ∈ o.references, name ∈ names ↔ name ∈ names' := by
  constructor
  · intro heq name hname
    have hfirst := mem_pointerKeys_merge_answer r names hname
    rw [← hr₁] at hfirst
    have hsecond := mem_pointerKeys_merge_answer r₁ names' hname
    rw [heq] at hsecond
    exact Decidable.not_iff_not.1 (hfirst.symm.trans hsecond)
  · intro hsame
    -- Then the two answers are the same document.
    have hanswer : o.answer names' = o.answer names := by
      refine List.map_congr_left fun entry hentry => ?_
      have hboth : isAttributeName entry.1 && entry.2.isPointer →
          names'.contains entry.1 = names.contains entry.1 := by
        intro h
        have hname := hsame entry.1 (List.mem_map_of_mem (List.mem_filter.2 ⟨hentry, h⟩))
        rw [Bool.eq_iff_iff, List.contains_iff_mem, List.contains_iff_mem]
        exact hname.symm
      unfold KeptObject.shown
      by_cases h : isAttributeName entry.1 && entry.2.isPointer
      · rw [hboth h]
      · simp [Bool.eq_false_iff.2 h]
    rw [hanswer, hr₁]
    exact r.merge_merge_self _

/-! ### Loading -/

variable {σ : Type} {c : Config} {serve : Server σ} {w w₁ : World σ} {r₁ : Record} {id : String}

/-- The server keeps an object at a URL: it answers whatever is asked of it with the document in
which the references that the request names are expanded. -/
def Keeps (serve : Server σ) (s : σ) (url : String) (o : KeptObject) : Prop :=
  ∀ request : Http.Request, request.method = .get → request.url = url →
    Replies serve s request 200 (.object (o.answer (namesToExpand request.query)))

/-- The URL of an object. -/
def objectUrl (c : Config) (className id : String) : String :=
  c.resourceText (Api.Path.ofObject className id)

/-- The request that loads an object. -/
def loadRequest (className id : String) (parameters : List (String × String)) : Api.Request :=
  { method := .get, path := Api.Path.ofObject className id, parameters }

/-- A load of an object that is kept succeeds exactly if there is a URL and the document has no
member `error`, and then lays the answer over the record. -/
theorem run_load_eq_ok_iff (parameters : List (String × String)) {className : String}
    (hkeeps : Keeps serve w.server (objectUrl c className id) o) :
    ((exchange c (loadRequest className id parameters) r (mergeReply r)).run serve w).1 =
        (.ok (), r₁) ↔
      Config.checkUrl (objectUrl c className id) = .ok () ∧ "error" ∉ o.document.keys ∧
        r₁ = r.merge (.object (o.answer (namesToExpand parameters))) := by
  let http := (loadRequest className id parameters).message c w.session.token
  have hreplies : Replies serve w.server http 200
      (.object (o.answer (namesToExpand parameters))) := hkeeps http rfl rfl
  have herror : (Json.object (o.answer (namesToExpand parameters))).field? "error" =
      (o.document.get? "error").map (o.shown (namesToExpand parameters) "error") :=
    KeptObject.get?_answer "error"
  rw [run_exchange]
  cases hurl : Config.checkUrl (objectUrl c className id) with
  | error e =>
    have hresolve : (loadRequest className id parameters).resolve c w.session.token = .error e :=
      Api.Request.resolve_eq_error_iff.2 hurl
    rw [hresolve]
    simp
  | ok =>
    have hresolve : (loadRequest className id parameters).resolve c w.session.token = .ok http :=
      Api.Request.resolve_eq_ok_iff.2 ⟨hurl, rfl⟩
    rw [hresolve]
    cases hget : o.document.get? "error" with
    | none =>
      have hnone : "error" ∉ o.document.keys := Members.get?_eq_none_iff.1 hget
      rw [hget] at herror
      simp only [hreplies.replyOf_eq (by decide) herror, Except.bind, mergeReply]
      simp [hnone, Stored.withRecord, Stored.record, eq_comm]
    | some error =>
      have hmem : "error" ∈ o.document.keys :=
        (Members.mem_keys_iff ..).2 (by rw [hget]; rfl)
      rw [hget] at herror
      simp [hreplies.replyOf_eq_error herror, Except.bind, hmem]

/-- An operation on a saved target is the one on the path of its object. -/
theorem onSaved_eq {τ : Type} [Stored τ] {operation : String → Operation τ} {target : τ}
    (hid : (Stored.record target).objectId = some id) :
    onSaved operation target =
      operation (Api.Path.ofObject (Stored.record target).className id) target := by
  rw [onSaved, Record.objectPath?, hid]
  rfl

/-- A fetch of a saved record is the load that names its references. -/
theorem fetch_eq_exchange (c : Config) (hid : r.objectId = some id) :
    fetch c r =
      exchange c (loadRequest r.className id (expandParameter r)) r (mergeReply r) :=
  onSaved_eq hid

/-- The document of an object leaves a record of that object its id. -/
theorem objectId_merge_answer (hid : r.objectId = some id) (ho : o.HasId id) :
    (r.merge (.object (o.answer names))).objectId = some id := by
  have hnodup : (o.answer names).keys.Nodup := by
    rw [KeptObject.keys_answer]
    exact o.distinct
  have hget : (o.answer names).get? "objectId" = o.document.get? "objectId" := by
    rw [KeptObject.get?_answer]
    cases o.document.get? "objectId" with
    | none => rfl
    | some value => exact congrArg some (KeptObject.shown_of_field (by decide))
  obtain ⟨htaken, hkept⟩ := (r.overlaid_merge hnodup).objectId
  rw [hget] at htaken hkept
  by_cases hnamed : ∃ other, o.document.get? "objectId" = some (.string other) ∧ other ≠ ""
  · obtain ⟨other, hother⟩ := hnamed
    rw [htaken other hother, ho other hother.1 hother.2]
  · rw [hkept fun other hother => hnamed ⟨other, hother⟩, hid]

/-- **Loading twice** changes a record again unless the second load names the same references of the
object as the first one.  If all names of references can be told apart in a list, then what one load
names is what the other leaves out, so that nothing changes **exactly if the object has no
references**. -/
theorem fetch_again_eq_iff (hid : r.objectId = some id) (ho : o.HasId id)
    (hkeeps : Keeps serve w.server (objectUrl c r.className id) o)
    (hfetch : (fetch c r).run serve w = ((.ok (), r₁), w₁))
    (hstill : Keeps serve w₁.server (objectUrl c r.className id) o) :
    ∃ r₂, ((fetch c r₁).run serve w₁).1 = (.ok (), r₂) ∧
      (r₂ = r₁ ↔ ∀ name ∈ o.references,
        name ∈ namesToExpand (expandParameter r) ↔ name ∈ namesToExpand (expandParameter r₁)) ∧
      ((∀ name ∈ r.pointerKeys ++ o.references, IsListable name) →
        (r₂ = r₁ ↔ o.references = [])) := by
  rw [fetch_eq_exchange c hid] at hfetch
  obtain ⟨hurl, herror, hr₁⟩ := (run_load_eq_ok_iff _ hkeeps).1 (congrArg Prod.fst hfetch)
  have hid₁ : r₁.objectId = some id := by
    rw [hr₁]
    exact objectId_merge_answer hid ho
  have hclass : r₁.className = r.className := by
    rw [hr₁]
    exact r.className_merge _
  rw [← hclass] at hstill hurl
  have hsame := merge_answer_eq_iff hr₁ (namesToExpand (expandParameter r₁))
  refine ⟨r₁.merge (.object (o.answer (namesToExpand (expandParameter r₁)))), ?_, hsame,
    fun hlistable => ?_⟩
  · rw [fetch_eq_exchange c hid₁]
    exact (run_load_eq_ok_iff _ hstill).2 ⟨hurl, herror, rfl⟩
  have hnames : namesToExpand (expandParameter r) = r.pointerKeys :=
    namesToExpand_expandParameter fun name hname =>
      hlistable name (List.mem_append_left _ hname)
  have hnames₁ : namesToExpand (expandParameter r₁) = r₁.pointerKeys := by
    refine namesToExpand_expandParameter fun name hname => hlistable name ?_
    rw [hr₁] at hname
    exact List.mem_append.2 (mem_of_mem_pointerKeys_merge hname)
  -- What the first load names is no reference any more when the second one begins.
  have hother : ∀ name ∈ o.references, name ∈ r₁.pointerKeys ↔ name ∉ r.pointerKeys := by
    intro name hname
    rw [hr₁, ← hnames]
    exact mem_pointerKeys_merge_answer r _ hname
  rw [hsame, hnames, hnames₁]
  constructor
  · intro hall
    refine List.eq_nil_iff_forall_not_mem.2 fun name hname => ?_
    exact (iff_not_self ((hall name hname).trans (hother name hname)))
  · rintro hnone name hname
    rw [hnone] at hname
    cases hname

/-! ### A server with one object -/

/-- A server that keeps one object, and answers every request with it. -/
def keeper (o : KeptObject) : Server Unit := fun request _ =>
  (.ok ⟨200, (Json.object (o.answer (namesToExpand request.query))).compact⟩, ())

theorem keeps_keeper (hread : ∀ names, Json.parse (Json.object (o.answer names)).compact =
    .ok (.object (o.answer names))) (s : Unit) (url : String) : Keeps (keeper o) s url o :=
  fun request _ _ => ⟨_, rfl, hread (namesToExpand request.query)⟩

/-- The reference to a player. -/
def player : Json := ({ className := "_User", objectId := some "u1" } : Record).pointer

/-- A score with a reference to its player. -/
def keptScore : KeptObject where
  document := [("objectId", .string "s1"), ("player", player)]
  distinct := by decide
  expansion _ := .object [("__type", .string "Object"), ("className", .string "_User"),
    ("objectId", .string "u1"), ("username", .string "ann")]
  expansion_type _ := rfl

theorem hasId_keptScore : keptScore.HasId "s1" := by
  rintro other ⟨⟩ -
  rfl

theorem keeps_keptScore (s : Unit) (url : String) :
    Keeps (keeper keptScore) s url keptScore := by
  refine keeps_keeper (fun names => ?_) s url
  -- All that matters of the names is whether the player is among them.
  have hanswer : keptScore.answer names =
      keptScore.answer (if names.contains "player" then ["player"] else []) := by
    by_cases h : "player" ∈ names <;>
      simp [KeptObject.answer, KeptObject.shown, keptScore, isAttributeName, Record.reserved, h]
  rw [hanswer, eq_ok_iff_toOption]
  split <;> decide +kernel

/-- Whatever a record of the score holds, loading it succeeds. -/
theorem run_fetch_keptScore {r : Record} (hclass : r.className = "Score")
    (hid : r.objectId = some "s1") (w : World Unit) :
    ∃ w', (fetch {} r).run (keeper keptScore) w =
      ((.ok (), r.merge (.object (keptScore.answer (namesToExpand (expandParameter r))))), w') := by
  have hurl : Config.checkUrl (objectUrl {} "Score" "s1") = .ok () :=
    eq_ok_iff_toOption.2 (by decide +kernel)
  have hload := (run_load_eq_ok_iff (r := r) (expandParameter r) (keeps_keptScore w.server _)).2
    ⟨hurl, by decide, rfl⟩
  rw [fetch_eq_exchange {} hid, hclass]
  generalize (exchange {} (loadRequest "Score" "s1" (expandParameter r)) r (mergeReply r)).run
    (keeper keptScore) w = ended at hload ⊢
  exact ⟨ended.2, congrArg (·, ended.2) hload⟩

/-- A record that held the reference has it expanded by the first load, and not by the second one.
-/
theorem fetch_again_eq_iff_player :
    let r : Record := ({ className := "Score", objectId := some "s1" } : Record).setAttribute
      "player" player
    ∃ r₁ w₁ r₂, keptScore.HasId "s1" ∧
      Keeps (keeper keptScore) () (objectUrl {} r.className "s1") keptScore ∧
      (fetch {} r).run (keeper keptScore) { server := () } = ((.ok (), r₁), w₁) ∧
      Keeps (keeper keptScore) w₁.server (objectUrl {} r.className "s1") keptScore ∧
      ((fetch {} r₁).run (keeper keptScore) w₁).1 = (.ok (), r₂) ∧
      r₁.get? "player" = some (keptScore.expansion "player") ∧ r₂ ≠ r₁ := by
  intro r
  obtain ⟨w₁, hfetch⟩ := run_fetch_keptScore (r := r) rfl rfl { server := () }
  have hstill := keeps_keptScore w₁.server (objectUrl {} r.className "s1")
  obtain ⟨r₂, hsecond, -, hreferences⟩ :=
    fetch_again_eq_iff rfl hasId_keptScore (keeps_keptScore () _) hfetch hstill
  have hlistable : ∀ name ∈ r.pointerKeys ++ keptScore.references, IsListable name := by decide
  refine ⟨_, w₁, r₂, hasId_keptScore, keeps_keptScore () _, hfetch, hstill, hsecond,
    by decide +kernel, fun heq => ?_⟩
  exact absurd ((hreferences hlistable).1 heq) (by decide)

/-- **Loading a handle twice is not loading it once**: the first load brings a reference, and the
second one what it stands for. -/
theorem second_load_expands :
    let r : Record := { className := "Score", objectId := some "s1" }
    ∃ r₁ w₁ r₂, keptScore.HasId "s1" ∧
      (∀ s, Keeps (keeper keptScore) s (objectUrl {} r.className "s1") keptScore) ∧
      (fetch {} r).run (keeper keptScore) { server := () } = ((.ok (), r₁), w₁) ∧
      ((fetch {} r₁).run (keeper keptScore) w₁).1 = (.ok (), r₂) ∧
      r₁.get? "player" = some player ∧
      r₂.get? "player" = some (keptScore.expansion "player") ∧ r₂ ≠ r₁ := by
  intro r
  let r₁ := r.merge (.object (keptScore.answer (namesToExpand (expandParameter r))))
  obtain ⟨w₁, hfirst⟩ := run_fetch_keptScore (r := r) rfl rfl { server := () }
  obtain ⟨w₂, hsecond⟩ := run_fetch_keptScore (r := r₁) rfl (by decide +kernel) w₁
  have hplayer : r₁.get? "player" = some player := by decide +kernel
  have hexpanded : (r₁.merge (.object (keptScore.answer (namesToExpand (expandParameter r₁))))).get?
      "player" = some (keptScore.expansion "player") := by decide +kernel
  refine ⟨r₁, w₁, _, hasId_keptScore, fun s => keeps_keptScore s _, hfirst,
    congrArg Prod.fst hsecond, hplayer, hexpanded, fun heq => ?_⟩
  rw [heq, hplayer] at hexpanded
  exact absurd hexpanded (by decide)

end Client

end DocStore
