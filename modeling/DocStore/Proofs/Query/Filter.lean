import Mathlib.Data.List.Induction
import DocStore.Proofs.Members.Overlay
import DocStore.Query.Filter

/-!
# What calls leave in a filter

A filter is built by calls (`Filter.Call`).  Each of them constrains one field, by an operator or to
equal a value, or frees it; membership in a relation has a field of its own, which other calls may
name too.

* `Filter.perform_eq` : a call writes the member of its field, or removes it;
* `Filter.Leaves` : what calls leave, without saying how: under every field what the last call about it
  asks for, and the fields in the order in which they were added since they were last freed;
* `Filter.leaves_collect`, `Filter.Leaves.unique` : the calls leave such members, and **no others**;
* `Filter.calls_leave_members` : so a filter is **an ordered map of constraints**, and calls about
  different fields may change places but for the order of the members.
-/

namespace DocStore.Filter

/-! ### Calls -/

/-- A call that changes a filter. -/
inductive Call where
  | equal (field : String) (value : Json)
  | less (field : String) (bound : Json)
  | lessOrEqual (field : String) (bound : Json)
  | greater (field : String) (bound : Json)
  | greaterOrEqual (field : String) (bound : Json)
  | notEqual (field : String) (value : Json)
  | oneOf (field : String) (values : List Json)
  | noneOf (field : String) (values : List Json)
  | allOf (field : String) (values : List Json)
  | present (field : String) (expected : Bool)
  /-- The field equals a field of some result of a query. -/
  | selected (field : String) (q : Query) (queryField : String)
  /-- The field equals that field of no result of a query. -/
  | notSelected (field : String) (q : Query) (queryField : String)
  /-- The results belong to a relation of an object. -/
  | relatedTo (object : Record) (relation : String)
  | remove (field : String)

/-- The filter after a call. -/
def perform (f : Filter) : Call → Filter
  | .equal field value => f.equal field value
  | .less field bound => f.require field .less bound
  | .lessOrEqual field bound => f.require field .lessOrEqual bound
  | .greater field bound => f.require field .greater bound
  | .greaterOrEqual field bound => f.require field .greaterOrEqual bound
  | .notEqual field value => f.require field .notEqual value
  | .oneOf field values => f.require field .oneOf (.array values)
  | .noneOf field values => f.require field .noneOf (.array values)
  | .allOf field values => f.require field .allOf (.array values)
  | .present field expected => f.require field .present (.bool expected)
  | .selected field q queryField => f.select field q queryField false
  | .notSelected field q queryField => f.select field q queryField true
  | .relatedTo object relation => f.relatedTo object relation
  | .remove field => f.remove field

/-- The filter that calls build, one after the other. -/
def collect (calls : List Call) : Filter := calls.foldl perform {}

/-- The field that a call is about. -/
def Call.field : Call → String
  | .equal field _ | .less field _ | .lessOrEqual field _ | .greater field _
  | .greaterOrEqual field _ | .notEqual field _ | .oneOf field _ | .noneOf field _
  | .allOf field _ | .present field _ | .selected field _ _ | .notSelected field _ _
  | .remove field => field
  | .relatedTo .. => "$relatedTo"

/-- A field of the results of a query: the class and the filter of the query, if it has one, and the
name of the field. -/
def resultField (q : Query) (field : String) : Json :=
  .object [("query", .object (("className", .string q.className) ::
      (q.filter.map fun filter => ("where", filter)).toList)), ("key", .string field)]

/-- What a call asks of its field; one that frees it asks for nothing. -/
def Call.constraint? : Call → Option Json
  | .equal _ value => some value
  | .less _ bound => some (.object [("$lt", bound)])
  | .lessOrEqual _ bound => some (.object [("$lte", bound)])
  | .greater _ bound => some (.object [("$gt", bound)])
  | .greaterOrEqual _ bound => some (.object [("$gte", bound)])
  | .notEqual _ value => some (.object [("$ne", value)])
  | .oneOf _ values => some (.object [("$in", .array values)])
  | .noneOf _ values => some (.object [("$nin", .array values)])
  | .allOf _ values => some (.object [("$all", .array values)])
  | .present _ expected => some (.object [("$exists", .bool expected)])
  | .selected _ q queryField => some (.object [("$select", resultField q queryField)])
  | .notSelected _ q queryField => some (.object [("$dontSelect", resultField q queryField)])
  | .relatedTo object relation =>
    some (.object [("object", object.pointer), ("key", .string relation)])
  | .remove _ => none

theorem subquery_eq_resultField (q : Query) (field : String) :
    subquery q field = resultField q field := by
  unfold subquery resultField
  cases q.filter <;> rfl

/-- **A call writes the member of its field**, or removes it. -/
theorem perform_eq (f : Filter) (call : Call) :
    (f.perform call).constraints =
      match call.constraint? with
      | some constraint => f.constraints.insert call.field constraint
      | none => f.constraints.erase call.field := by
  cases call with
  | selected field q queryField =>
    simp [perform, select, require, subquery_eq_resultField, Call.constraint?, Call.field,
      Operator.name]
  | notSelected field q queryField =>
    simp [perform, select, require, subquery_eq_resultField, Call.constraint?, Call.field,
      Operator.name]
  | _ => rfl

theorem collect_concat (calls : List Call) (call : Call) :
    collect (calls ++ [call]) = (collect calls).perform call := by
  rw [collect, List.foldl_append]
  rfl

/-! ### What calls ask for -/

/-- What calls ask of a field: what the last one about it does. -/
def asked? (calls : List Call) (field : String) : Option Json :=
  (calls.filter (·.field = field)).getLast?.bind Call.constraint?

/-- Whether a call frees a field. -/
def Call.frees (call : Call) (field : String) : Bool :=
  call.field = field && call.constraint?.isNone

/-- The calls since a field was last freed. -/
def sinceFreed (calls : List Call) (field : String) : List Call :=
  (calls.reverse.takeWhile fun call => !call.frees field).reverse

/-- The place of the call that added a field: the first one about it since it was last freed. -/
def addedAt (calls : List Call) (field : String) : Nat :=
  calls.length - (sinceFreed calls field).length +
    (sinceFreed calls field).findIdx (·.field = field)

/-- Calls leave members: one for every field of which they ask something, in the order in which the
fields were added. -/
structure Leaves (calls : List Call) (members : Members Json) : Prop where
  get? : ∀ field, members.get? field = asked? calls field
  order : members.keys.Pairwise fun field field' => addedAt calls field < addedAt calls field'

variable {calls : List Call} {call : Call} {field : String}

theorem asked?_concat (calls : List Call) (call : Call) (field : String) :
    asked? (calls ++ [call]) field =
      if call.field = field then call.constraint? else asked? calls field := by
  unfold asked?
  by_cases hfield : call.field = field <;> simp [List.filter_append, hfield]

theorem sinceFreed_concat (calls : List Call) (call : Call) (field : String) :
    sinceFreed (calls ++ [call]) field =
      if call.frees field then [] else sinceFreed calls field ++ [call] := by
  unfold sinceFreed
  rw [List.reverse_concat, List.takeWhile_cons]
  cases call.frees field <;> simp

theorem length_sinceFreed_le (calls : List Call) (field : String) :
    (sinceFreed calls field).length ≤ calls.length := by
  have hsublist := List.takeWhile_sublist (l := calls.reverse) fun call => !call.frees field
  simpa [sinceFreed] using hsublist.length_le

/-- Something is asked of a field exactly if there has been a call about it since it was last freed. -/
theorem isSome_asked?_iff :
    (asked? calls field).isSome ↔ ∃ call ∈ sinceFreed calls field, call.field = field := by
  induction calls using List.reverseRecOn with
  | nil => simp [asked?, sinceFreed]
  | append_singleton calls call ih =>
    rw [asked?_concat, sinceFreed_concat]
    by_cases hfield : call.field = field
    · cases hconstraint : call.constraint? <;> simp [Call.frees, hfield, hconstraint]
    · simp [Call.frees, hfield, ih]

/-- A field is added by one of the calls. -/
theorem addedAt_lt (h : (asked? calls field).isSome) : addedAt calls field < calls.length := by
  obtain ⟨call, hcall, hfield⟩ := isSome_asked?_iff.1 h
  have hplace : (sinceFreed calls field).findIdx (·.field = field) <
      (sinceFreed calls field).length :=
    List.findIdx_lt_length_of_exists ⟨call, hcall, by simpa using hfield⟩
  have hle := length_sinceFreed_le calls field
  unfold addedAt
  omega

/-- A field keeps its place until it is freed. -/
theorem addedAt_concat_of_isSome (h : (asked? calls field).isSome)
    (hfrees : call.frees field = false) :
    addedAt (calls ++ [call]) field = addedAt calls field := by
  obtain ⟨first, hfirst, hfield⟩ := isSome_asked?_iff.1 h
  have hplace : (sinceFreed calls field).findIdx (·.field = field) <
      (sinceFreed calls field).length :=
    List.findIdx_lt_length_of_exists ⟨first, hfirst, by simpa using hfield⟩
  simp [addedAt, sinceFreed_concat, hfrees, List.findIdx_append, hplace]

/-- A field of which nothing was asked is added at the end. -/
theorem addedAt_concat_of_none (h : asked? calls call.field = none)
    (hconstraint : call.constraint? ≠ none) :
    addedAt (calls ++ [call]) call.field = calls.length := by
  have hnone : ¬ ∃ c ∈ sinceFreed calls call.field, c.field = call.field := by
    rw [← isSome_asked?_iff, h]
    exact Bool.false_ne_true
  have hplace : (sinceFreed calls call.field).findIdx (·.field = call.field) =
      (sinceFreed calls call.field).length := by
    refine List.findIdx_eq_length.2 fun c hc => ?_
    simpa using fun heq => hnone ⟨c, hc, heq⟩
  have hle := length_sinceFreed_le calls call.field
  simp [addedAt, sinceFreed_concat, Call.frees, hconstraint, List.findIdx_append, hplace]
  omega

/-! ### What calls leave -/

variable {members : Members Json}

theorem leaves_nil : Leaves [] [] := ⟨fun _ => rfl, .nil⟩

theorem Leaves.nodup (h : Leaves calls members) : members.keys.Nodup :=
  h.order.imp fun hlt heq => Nat.ne_of_lt hlt (congrArg _ heq)

theorem Leaves.isSome_asked? (h : Leaves calls members) (hfield : field ∈ members.keys) :
    (asked? calls field).isSome := by
  rwa [← h.get?, ← Members.mem_keys_iff]

/-- A call that asks for something replaces what was asked of its field, or adds the field. -/
theorem Leaves.insert (h : Leaves calls members) {constraint : Json}
    (hconstraint : call.constraint? = some constraint) :
    Leaves (calls ++ [call]) (members.insert call.field constraint) := by
  have hplace : ∀ field ∈ members.keys, addedAt (calls ++ [call]) field = addedAt calls field :=
    fun field hfield =>
      addedAt_concat_of_isSome (h.isSome_asked? hfield) (by simp [Call.frees, hconstraint])
  have hkept : members.keys.Pairwise fun field field' =>
      addedAt (calls ++ [call]) field < addedAt (calls ++ [call]) field' :=
    h.order.imp_of_mem fun hfield hfield' hlt => by
      rwa [hplace _ hfield, hplace _ hfield']
  constructor
  · intro field
    rw [Members.get?_insert, asked?_concat, h.get?, hconstraint]
  · rw [Members.keys_insert]
    by_cases hold : call.field ∈ members.keys
    · rwa [if_pos hold]
    · have hnone : asked? calls call.field = none := by
        rwa [← h.get?, Members.get?_eq_none_iff]
      have hlast := addedAt_concat_of_none hnone (by simp [hconstraint])
      rw [if_neg hold]
      refine List.pairwise_append.2 ⟨hkept, List.pairwise_singleton .., fun field hfield last h' => ?_⟩
      rw [List.mem_singleton.1 h', hplace field hfield, hlast]
      exact addedAt_lt (h.isSome_asked? hfield)

/-- A call that frees a field leaves the others in their places. -/
theorem Leaves.erase (h : Leaves calls members) (hconstraint : call.constraint? = none) :
    Leaves (calls ++ [call]) (members.erase call.field) := by
  have hget := Members.get?_erase h.nodup call.field
  have hplace : ∀ field ∈ (members.erase call.field).keys,
      addedAt (calls ++ [call]) field = addedAt calls field := by
    intro field hfield
    have hmem := (Members.keys_erase_sublist members call.field).mem hfield
    have hne : call.field ≠ field := by
      rintro rfl
      rw [Members.mem_keys_iff, hget, if_pos rfl] at hfield
      cases hfield
    exact addedAt_concat_of_isSome (h.isSome_asked? hmem) (by simp [Call.frees, hne])
  constructor
  · intro field
    rw [hget, asked?_concat, h.get?, hconstraint]
  · refine (h.order.sublist (Members.keys_erase_sublist members call.field)).imp_of_mem ?_
    intro field field' hfield hfield' hlt
    rwa [hplace _ hfield, hplace _ hfield']

/-- **What calls leave** is one constraint for every field of which they ask something. -/
theorem leaves_collect (calls : List Call) : Leaves calls (collect calls).constraints := by
  induction calls using List.reverseRecOn with
  | nil => exact leaves_nil
  | append_singleton calls call ih =>
    rw [collect_concat, perform_eq]
    cases hconstraint : call.constraint? with
    | some constraint => exact ih.insert hconstraint
    | none => exact ih.erase hconstraint

/-- The calls decide what they leave. -/
theorem Leaves.unique {members' : Members Json} (h : Leaves calls members)
    (h' : Leaves calls members') : members = members' := by
  have hget : ∀ field, members.get? field = members'.get? field := fun field =>
    (h.get? field).trans (h'.get? field).symm
  have hperm : members.keys.Perm members'.keys := (Members.perm_of_get? h.nodup h'.nodup hget).map _
  have hkeys : members.keys = members'.keys :=
    hperm.eq_of_pairwise (fun _ _ _ _ hlt hlt' => absurd hlt (Nat.lt_asymm hlt')) h.order h'.order
  exact Members.eq_of_get? h.nodup hkeys hget

/-- What is asked of a field does not depend on where the calls about other fields stand. -/
theorem asked?_swap {call' : Call} (hne : call.field ≠ call'.field) (before after : List Call)
    (field : String) :
    asked? (before ++ call :: call' :: after) field =
      asked? (before ++ call' :: call :: after) field := by
  have hfilter : (before ++ call :: call' :: after).filter (·.field = field) =
      (before ++ call' :: call :: after).filter (·.field = field) := by
    by_cases hfield : call.field = field
    · have hother : call'.field ≠ field := fun heq => hne (hfield.trans heq.symm)
      simp [List.filter_append, List.filter_cons, hother]
    · simp [List.filter_append, List.filter_cons, hfield]
  rw [asked?, asked?, hfilter]

/-- **A filter is an ordered map of constraints.**  Whatever calls built it, its document is the only
object that has, for every field of which the last call about it asks something, what that call asks
for, and no other member, the fields standing in the order in which they were added since they were last
freed.  The filter is empty exactly if this object is.  And two calls about different fields can change
places: what they leave, with any calls before and after them, are the same members up to their order. -/
theorem calls_leave_members (calls : List Call) :
    (∀ members, (collect calls).toJson = .object members ↔ Leaves calls members) ∧
      ((collect calls).isEmpty = true ↔ (collect calls).toJson = .object []) ∧
      ∀ (call call' : Call) (before after : List Call), call.field ≠ call'.field →
        (collect (before ++ call :: call' :: after)).constraints.Perm
          (collect (before ++ call' :: call :: after)).constraints := by
  refine ⟨fun members => ?_, ?_, fun call call' before after hne => ?_⟩
  · have hleaves := leaves_collect calls
    constructor
    · rintro ⟨⟩
      exact hleaves
    · exact fun h => congrArg Json.object (hleaves.unique h)
  · simp [isEmpty, toJson, List.isEmpty_iff]
  · have h := leaves_collect (before ++ call :: call' :: after)
    have h' := leaves_collect (before ++ call' :: call :: after)
    refine Members.perm_of_get? h.nodup h'.nodup fun field => ?_
    rw [h.get?, h'.get?, asked?_swap hne]

/-- Here a field is freed and added again, and another call names the field of relations. -/
theorem calls_leave_members_score :
    let post : Record := { className := "Post", objectId := some "p1" }
    let winners : Query := { className := "Team", filter := some (.object [("won", .bool true)]) }
    let calls : List Call :=
      [.less "score" (.int 100), .relatedTo post "likes", .equal "$relatedTo" .null,
        .selected "town" winners "city", .greater "score" (.int 10), .remove "score",
        .oneOf "level" [.int 1, .int 2], .present "score" true]
    let query : Json := .object [("className", .string "Team"),
      ("where", .object [("won", .bool true)])]
    let members : Members Json :=
      [("$relatedTo", .null),
        ("town", .object [("$select", .object [("query", query), ("key", .string "city")])]),
        ("level", .object [("$in", .array [.int 1, .int 2])]),
        ("score", .object [("$exists", .bool true)])]
    Leaves calls members ∧ (collect calls).isEmpty = false ∧
      (Call.relatedTo post "likes").field ≠ (Call.present "score" true).field ∧
      (collect [.relatedTo post "likes", .present "score" true]).constraints.Perm
        (collect [.present "score" true, .relatedTo post "likes"]).constraints := by
  intro post winners calls query members
  obtain ⟨hleaves, -, hswap⟩ := calls_leave_members calls
  have hne : (Call.relatedTo post "likes").field ≠ (Call.present "score" true).field := by decide
  exact ⟨(hleaves members).1 rfl, rfl, hne, hswap _ _ [] [] hne⟩

end DocStore.Filter
