import Mathlib.Data.List.Perm.Subperm
import DocStore.Proofs.Client.Expansion
import DocStore.Proofs.Client.Identity
import DocStore.Proofs.Client.Reachable

/-!
# A fetch and a refresh

A fetch is a refresh that also asks for references to be expanded.

* `Record.ListsReferences` : names are those of the attributes that hold a reference, which only one
  list of names is;
* `Client.Includes` : parameters say which references to expand, by one text with commas or not at all;
* `Client.trace_fetch_iff` : a fetch shows what a refresh shows, and ends as it does, but its request
  has these parameters;
* `Client.Spared` : what can become of a record while the attribute of a name is neither overwritten
  nor removed, so that a reference that callers set there **is asked for** as long as it is there;
* `Client.fetch_adds_references` : all of this, for every saved record whose names can be listed.
-/

namespace DocStore

open Record (isAttributeName)

/-! ### References among the attributes -/

/-- A value is an object that is tagged as a reference. -/
def Json.IsReference (value : Json) : Prop :=
  ∃ members, value = .object members ∧ Members.get? members "__type" = some (.string "Pointer")

theorem Json.isPointer_iff {value : Json} : value.isPointer = true ↔ value.IsReference := by
  unfold isPointer IsReference
  rw [decide_eq_true_iff, Option.bind_eq_some_iff]
  simp only [asString?_eq_some_iff, exists_eq_right]
  cases value <;> simp [field?, members?]

/-- The names are those of the attributes that hold a reference, each of them once and in the order of
the attributes. -/
structure Record.ListsReferences (r : Record) (names : List String) : Prop where
  sublist : names.Sublist r.attributes.keys
  nodup : names.Nodup
  mem_iff : ∀ name, name ∈ names ↔ ∃ value, r.get? name = some value ∧ value.IsReference

theorem Record.listsReferences_pointerKeys (r : Record) : r.ListsReferences r.pointerKeys where
  sublist := List.filter_sublist.map Prod.fst
  nodup := (List.filter_sublist.map Prod.fst).nodup r.distinct
  mem_iff name := by
    rw [mem_pointerKeys]
    exact exists_congr fun value => and_congr_right fun _ => Json.isPointer_iff

/-- Such names are what is left of the attributes' names if all others are taken out. -/
theorem Record.ListsReferences.eq_filter {r : Record} {names : List String}
    (h : r.ListsReferences names) : names = r.attributes.keys.filter (· ∈ names) := by
  have hsublist := h.sublist.filter (· ∈ names)
  rw [List.filter_eq_self.2 fun name hname => decide_eq_true hname] at hsublist
  have hsubset : r.attributes.keys.filter (· ∈ names) ⊆ names :=
    fun name hname => of_decide_eq_true (List.mem_filter.1 hname).2
  exact hsublist.eq_of_length_le (List.subperm_of_subset (r.distinct.filter _) hsubset).length_le

theorem Record.ListsReferences.unique {r : Record} {names names' : List String}
    (h : r.ListsReferences names) (h' : r.ListsReferences names') : names = names' := by
  rw [h.eq_filter, h'.eq_filter]
  refine List.filter_congr fun name _ => decide_eq_decide.2 ?_
  rw [h.mem_iff, h'.mem_iff]

namespace Client

open Call

/-- Parameters that ask for the references of some names to be expanded: none without names, and else
one whose text has the names between its commas. -/
inductive Includes : List String → List (String × String) → Prop
  | nothing : Includes [] []
  | listed {names : List String} {text : String} (hne : names ≠ [])
      (h : (text.toList.splitOn ',').map String.ofList = names) :
      Includes names [("include", text)]

theorem includes_expandParameter {r : Record} (h : ∀ name ∈ r.pointerKeys, IsListable name) :
    Includes r.pointerKeys (expandParameter r) := by
  rw [expandParameter_eq h]
  split
  · rename_i hkeys
    rw [hkeys]
    exact .nothing
  · exact .listed ‹_› (splitOn_intercalate ‹_› h)

end Client

/-! ### The two requests -/

/-- The event with other parameters in its request, if it has one. -/
def CallEvent.asking (parameters : List (String × String)) : CallEvent → CallEvent
  | .send request delivery => .send { request with query := parameters } delivery
  | event => event

/-- Other parameters change nothing else of the message. -/
theorem Api.Request.resolve_parameters (request : Api.Request) (parameters : List (String × String))
    (c : Config) (active : Option String) :
    ({ request with parameters }).resolve c active =
      (request.resolve c active).map fun http => { http with query := parameters } := by
  unfold resolve
  cases c.resourceUrl request.path <;> rfl

namespace Client

open Call

section Parameters

variable {τ : Type} {c : Config} {calls : List CallEvent}

theorem answer_parameters_iff (request : Api.Request) (parameters : List (String × String))
    {answer : Except Error Json} :
    Answer c { request with parameters } calls answer ↔
      ∃ plain, Answer c request plain answer ∧ calls = plain.map (·.asking parameters) := by
  constructor
  · intro h
    cases h with
    | refused h =>
      rw [Api.Request.resolve_parameters, map_eq_error_iff] at h
      exact ⟨_, .refused h, rfl⟩
    | delivered h delivery =>
      rw [Api.Request.resolve_parameters, map_eq_ok_iff] at h
      obtain ⟨http, h, rfl⟩ := h
      exact ⟨_, .delivered h delivery, rfl⟩
  · rintro ⟨plain, h, rfl⟩
    cases h with
    | refused h =>
      refine .refused ?_
      rw [Api.Request.resolve_parameters, map_eq_error_iff]
      exact h
    | delivered h delivery =>
      refine .delivered ?_ delivery
      rw [Api.Request.resolve_parameters, h]
      rfl

theorem exchanged_parameters_iff (request : Api.Request) (parameters : List (String × String))
    {target : τ} {receive : Json → Except Error τ} {x : Outcome × τ} :
    Exchanged c { request with parameters } target receive calls x ↔
      ∃ plain, Exchanged c request target receive plain x ∧
        calls = plain.map (·.asking parameters) := by
  constructor
  · intro h
    cases h with
    | failed h =>
      obtain ⟨plain, hplain, rfl⟩ := (answer_parameters_iff ..).1 h
      exact ⟨plain, .failed hplain, rfl⟩
    | unusable h hreceive =>
      obtain ⟨plain, hplain, rfl⟩ := (answer_parameters_iff ..).1 h
      exact ⟨plain, .unusable hplain hreceive, rfl⟩
    | received h hreceive =>
      obtain ⟨plain, hplain, rfl⟩ := (answer_parameters_iff ..).1 h
      exact ⟨plain, .received hplain hreceive, rfl⟩
  · rintro ⟨plain, h, rfl⟩
    cases h with
    | failed h => exact .failed ((answer_parameters_iff ..).2 ⟨plain, h, rfl⟩)
    | unusable h hreceive => exact .unusable ((answer_parameters_iff ..).2 ⟨plain, h, rfl⟩) hreceive
    | received h hreceive => exact .received ((answer_parameters_iff ..).2 ⟨plain, h, rfl⟩) hreceive

/-- **A fetch is a refresh whose request has more parameters.**  It brings the same and ends in the
same way, whatever is delivered. -/
theorem trace_fetch_iff [Stored τ] {target : τ} {x : Outcome × τ} :
    Trace (fetch c target) calls x ↔ ∃ plain, Trace (refresh c target) plain x ∧
      calls = plain.map (·.asking (expandParameter (Stored.record target))) := by
  rw [fetch, Access.trace_onSaved_iff]
  simp only [refresh, Access.trace_onSaved_iff]
  cases (Stored.record target).objectPath? with
  | none =>
    constructor
    · rintro ⟨rfl, rfl⟩
      exact ⟨[], ⟨rfl, rfl⟩, rfl⟩
    · rintro ⟨_, ⟨rfl, rfl⟩, rfl⟩
      exact ⟨rfl, rfl⟩
  | some path => exact exchanged_parameters_iff { method := .get, path } _

end Parameters

end Client

/-! ### References that stay -/

/-- A document has a member for the attribute of a name. -/
def Json.Overwrites (document : Json) (key : String) : Prop :=
  isAttributeName key = true ∧ (document.field? key).isSome = true

theorem Record.get?_merge_of_not_overwrites (r : Record) {document : Json}
    (hdistinct : document.HasDistinctNames) {key : String} (h : ¬ document.Overwrites key) :
    (r.merge document).get? key = r.get? key := by
  cases hname : isAttributeName key with
  | false => exact r.get?_merge_of_field document hname
  | true =>
    have hnone : document.field? key = none :=
      Option.not_isSome_iff_eq_none.1 fun hsome => h ⟨hname, hsome⟩
    rw [r.get?_merge hdistinct hname, hnone, Option.none_or]

namespace Client

open Call

/-- What can become of a record while the attribute of a name is neither overwritten nor removed: by
changes of others, by documents without a member for it, and by operations that bring no such
document.  An attempt to log in or sign up removes the password. -/
inductive Spared (key : String) (start : Record) : Record → Prop
  | start : Spared key start start
  | edit {r : Record} (h : Spared key start r) {e : Record.Edit} (he : e.key? ≠ some key) :
      Spared key start (r.edit e)
  | merge {r : Record} (h : Spared key start r) {document : Json}
      (hdistinct : document.HasDistinctNames) (hdocument : ¬ document.Overwrites key) :
      Spared key start (r.merge document)
  | ask {τ : Type} [Stored τ] {target target' : τ} {access : Access} {c : Config}
      {calls : List CallEvent} {outcome : Outcome} (h : Spared key start (Stored.record target))
      (htrace : Trace (access.operation c target) calls (outcome, target'))
      (hdocument : ∀ document ∈ (Note.asked access c calls outcome).document?,
        ¬ document.Overwrites key) : Spared key start (Stored.record target')
  | attempt {c : Config} {operation : Operation User} {u u' : User} {calls : List CallEvent}
      {outcome : Outcome} (h : Spared key start u.record) (hop : AttemptOperation c operation)
      (htrace : Trace (operation u) calls (outcome, u')) (hpassword : key ≠ "password")
      (hreplies : ∀ reply ∈ replies calls, ¬ reply.Overwrites key) : Spared key start u'.record

section Spared

variable {key : String} {start r : Record} {c : Config} {calls : List CallEvent} {outcome : Outcome}

theorem Submitted.get?_eq {request : String → String → Api.Request} {u u' : User}
    (h : Submitted c request u calls (outcome, u')) (hpassword : key ≠ "password")
    (hreplies : ∀ reply ∈ replies calls, ¬ reply.Overwrites key) :
    u'.record.get? key = u.record.get? key := by
  have hscrub : ∀ u : User, u.scrub.record.get? key = u.record.get? key := fun u => by
    rw [User.scrub, Record.get?_remove, if_neg hpassword.symm]
  cases h with
  | refused => exact hscrub u
  | attempted _ h =>
    cases h with
    | failed => exact hscrub u
    | @succeeded events reply h =>
      have hmem : reply ∈ replies (events ++ captures (u.scrub.merge reply)) := by
        rw [replies_append, h.answered.replies_eq]
        exact List.mem_append_left _ (List.mem_singleton_self reply)
      rw [hscrub, User.merge, Record.get?_merge_of_not_overwrites _ h.answered.hasDistinctNames
        (hreplies reply hmem), hscrub]

/-- An attribute that is spared has the value that it had. -/
theorem Spared.get?_eq (h : Spared key start r) : r.get? key = start.get? key := by
  induction h with
  | start => rfl
  | edit _ he ih => rw [Record.get?_edit_of_ne _ he, ih]
  | merge _ hdistinct hdocument ih =>
    rw [Record.get?_merge_of_not_overwrites _ hdistinct hdocument, ih]
  | @ask _ _ target target' access c calls outcome _ htrace hdocument ih =>
    obtain ⟨hrecord, hdistinct⟩ := lays_of_trace htrace
    rw [hrecord, ← ih]
    cases hlaid : (Note.asked access c calls outcome).document? with
    | none => rfl
    | some document =>
      exact Record.get?_merge_of_not_overwrites _ (hdistinct _ hlaid) (hdocument _ hlaid)
  | attempt _ hop htrace hpassword hreplies ih =>
    rw [← ih]
    cases hop with
    | logIn => exact (trace_logIn.1 htrace).get?_eq hpassword hreplies
    | signUp => exact (trace_signUp.1 htrace).get?_eq hpassword hreplies

/-- A reference that callers set is listed as long as it is spared. -/
theorem Spared.mem_pointerKeys {other before : Record}
    (hset : before.setReference? key other = some start) (h : Spared key start r) :
    key ∈ r.pointerKeys := by
  rw [Record.mem_pointerKeys]
  refine ⟨other.pointer, ?_, other.isPointer_pointer⟩
  rw [h.get?_eq, Record.get?_of_set? hset, if_pos rfl]

end Spared

/-- **A fetch is a refresh that names the references to expand.**  For a record with an id whose
attributes have names that can be listed, it sends the request of a refresh, which has no parameters,
but with one that lists the attributes that hold a reference, each of them once and in order, or with
none if there are no such attributes; and whatever is delivered, it ends as the refresh does.  A
reference that callers set, to a record that may be new, is in this list until it is overwritten or
removed. -/
theorem fetch_adds_references {τ : Type} [Stored τ] {c : Config} {target : τ} {id : String}
    (hid : (Stored.record target).objectId = some id)
    (hnames : ∀ name ∈ (Stored.record target).attributes.keys, IsListable name) :
    ∃ names parameters, (Stored.record target).ListsReferences names ∧ Includes names parameters ∧
      (∀ {calls x}, Trace (refresh c target) calls x → ∀ http ∈ sentRequests calls,
        http.method = .get ∧
          http.url = c.resourceText (Api.Path.ofObject (Stored.record target).className id) ∧
          http.query = []) ∧
      (∀ {calls x}, Trace (fetch c target) calls x ↔ ∃ plain, Trace (refresh c target) plain x ∧
        calls = plain.map (·.asking parameters)) ∧
      ∀ {key : String} {other before start : Record},
        before.setReference? key other = some start → Spared key start (Stored.record target) →
          key ∈ names := by
  have hlists := (Stored.record target).listsReferences_pointerKeys
  have hlistable : ∀ name ∈ (Stored.record target).pointerKeys, IsListable name :=
    fun name hname => hnames name (hlists.sublist.mem hname)
  refine ⟨_, _, hlists, includes_expandParameter hlistable, fun {calls x} htrace http hhttp => ?_,
    trace_fetch_iff, fun hset hspared => hspared.mem_pointerKeys hset⟩
  rw [refresh, onSaved_eq hid] at htrace
  obtain ⟨_, rfl⟩ := (sends_exchange htrace).eq_message hhttp
  exact ⟨rfl, rfl, rfl⟩

/-- Here a user is referred to who has not signed up, and another reference in an array does not count.
-/
theorem fetch_adds_references_player :
    let before : Record := ({ className := "Score", objectId := some "s1" } : Record).setAttribute
      "judges" (.array [player])
    let newcomer : Record := { className := "_User" }
    let start : Record := before.setAttribute "player" newcomer.pointer
    let r : Record := start.edit (.set "level" (.int 1))
    let plain : List CallEvent := answered (loadRequest "Score" "s1" []) "{}"
    (∀ name ∈ r.attributes.keys, IsListable name) ∧ r.ListsReferences ["player"] ∧
      before.setReference? "player" newcomer = some start ∧ Spared "player" start r ∧
      Trace (refresh {} r) plain (.ok (), r) ∧
      ∃ parameters, Includes ["player"] parameters ∧
        Trace (fetch {} r) (plain.map (·.asking parameters)) (.ok (), r) := by
  intro before newcomer start r plain
  have hid : (Stored.record r).objectId = some "s1" := rfl
  have hnames : ∀ name ∈ (Stored.record r).attributes.keys, IsListable name := by decide
  have hreference : before.setReference? "player" newcomer = some start := rfl
  have hplayer : r.ListsReferences ["player"] := r.listsReferences_pointerKeys
  have hspared : Spared "player" start r := Spared.start.edit (by decide)
  have hurl : Config.checkUrl (({} : Config).resourceText (Api.Path.ofObject "Score" "s1")) = .ok () :=
    eq_ok_iff_toOption.2 (by decide +kernel)
  have hreply : Api.interpret ⟨200, "{}"⟩ = .ok (.object []) :=
    eq_ok_iff_toOption.2 (by decide +kernel)
  have hrefresh : Trace (refresh {} r) plain (.ok (), r) := by
    rw [refresh, onSaved_eq hid]
    exact trace_exchange.2 (.received (answer_answered hurl hreply) rfl)
  obtain ⟨names, parameters, hlists, hincludes, -, hfetch, -⟩ :=
    fetch_adds_references (c := {}) hid hnames
  obtain rfl := hlists.unique hplayer
  exact ⟨hnames, hplayer, hreference, hspared, hrefresh, parameters, hincludes,
    hfetch.2 ⟨plain, hrefresh, rfl⟩⟩

end Client

end DocStore
