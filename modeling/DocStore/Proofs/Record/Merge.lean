import DocStore.Proofs.Json.Reader
import DocStore.Proofs.Members.Overlay
import DocStore.Record.Merge

/-!
# Merging documents one after the other

What `Record.merge` does is said field by field: id, times and access control list are each the
latest value that can be read under their name (`Record.latest`), and the attributes are overlaid
by the document's other members (`Record.attributes_mergeMembers`).  From this follow the two laws
of merging:

* `Record.merge_merge_self` : merging a document twice is merging it once, whatever malformed
  values it holds;
* `Record.merge_overlay_law` : merging two documents is merging the first one overlaid by the
  second, **if** the second one holds no malformed value under a name that a merge reads.  Without
  this the two differ: a malformed id leaves the earlier one alone when it comes in a document of
  its own, but in one document it has replaced it.
-/

namespace DocStore.Record

variable {β : Type}

/-! ### Values that may be malformed -/

/-- The last value under a name that can be read, or else the old one. -/
def latest (key : String) (read : Json → Option β) (entries : List (String × Json))
    (old : Option β) : Option β :=
  entries.foldl (fun old entry => if entry.1 = key then (read entry.2).or old else old) old

variable {key : String} {read : Json → Option β}

theorem latest_cons (entry : String × Json) (entries : List (String × Json)) (old : Option β) :
    latest key read (entry :: entries) old =
      latest key read entries (if entry.1 = key then (read entry.2).or old else old) := rfl

theorem latest_eq_or (entries : List (String × Json)) (old : Option β) :
    latest key read entries old = (latest key read entries none).or old := by
  induction entries generalizing old with
  | nil => rfl
  | cons entry entries ih =>
    rw [latest_cons, latest_cons, ih, ih (if entry.1 = key then _ else _)]
    split <;> simp [Option.or_assoc]

theorem latest_latest (entries : List (String × Json)) (old : Option β) :
    latest key read entries (latest key read entries old) = latest key read entries old := by
  rw [latest_eq_or entries old, latest_eq_or]
  cases latest key read entries none <;> rfl

/-- Of a document that names every member once, the value under the name is the one that counts. -/
theorem latest_of_nodup {entries : Members Json} (h : entries.keys.Nodup) (old : Option β) :
    latest key read entries old = ((entries.get? key).bind read).or old := by
  induction entries generalizing old with
  | nil => rfl
  | cons entry entries ih =>
    obtain ⟨k, v⟩ := entry
    obtain ⟨hk, h⟩ := List.nodup_cons.1 h
    rw [latest_cons, ih h, Members.get?_cons]
    by_cases hkey : k = key
    · -- The name does not occur again, so that its first value is its last one.
      subst hkey
      simp [Members.get?_eq_none_iff.2 hk]
    · simp [hkey]

theorem latest_overlay {a b : Members Json} (ha : a.keys.Nodup) (hb : b.keys.Nodup)
    (hread : ∀ value, b.get? key = some value → (read value).isSome) (old : Option β) :
    latest key read (a.overlay b) old = latest key read b (latest key read a old) := by
  rw [latest_of_nodup (Members.nodup_keys_overlay ha b), latest_of_nodup ha, latest_of_nodup hb,
    Members.get?_overlay a hb]
  cases hv : b.get? key with
  | none => rfl
  | some value =>
    obtain ⟨x, hx⟩ := Option.isSome_iff_exists.1 (hread value hv)
    simp [hx]

/-! ### A merge, field by field -/

/-- Whether a merge makes the member of a name an attribute. -/
def isAttributeName (key : String) : Bool := !(reserved.contains key || key = "ACL")

/-- What one member does to each field: it goes to the field of its name if it can be read, and to
the attributes if no field has its name. -/
theorem fields_mergeMember (r : Record) (key : String) (value : Json) :
    (r.mergeMember key value).objectId =
        (if key = "objectId" then value.asObjectId?.or r.objectId else r.objectId) ∧
      (r.mergeMember key value).createdAt =
        (if key = "createdAt" then value.asTimestamp?.or r.createdAt else r.createdAt) ∧
      (r.mergeMember key value).updatedAt =
        (if key = "updatedAt" then value.asTimestamp?.or r.updatedAt else r.updatedAt) ∧
      (r.mergeMember key value).acl =
        (if key = "ACL" then (Acl.ofJson? value).or r.acl else r.acl) ∧
      (r.mergeMember key value).attributes =
        if isAttributeName key then r.attributes.insert key value else r.attributes := by
  unfold mergeMember
  repeat' split
  all_goals simp_all [isAttributeName, reserved, setAttribute]

theorem attributes_mergeMembers (r : Record) (entries : List (String × Json)) :
    (r.mergeMembers entries).attributes =
      r.attributes.overlay (entries.filter fun entry => isAttributeName entry.1) := by
  induction entries generalizing r with
  | nil => rfl
  | cons entry entries ih =>
    obtain ⟨k, v⟩ := entry
    have hstep : r.mergeMembers ((k, v) :: entries) = (r.mergeMember k v).mergeMembers entries :=
      rfl
    obtain ⟨-, -, -, -, hattributes⟩ := fields_mergeMember r k v
    rw [hstep, ih, hattributes]
    by_cases h : isAttributeName k <;> simp [h]

/-- A field that takes what can be read under its name holds the latest such value. -/
theorem field_mergeMembers {field : Record → Option β}
    (h : ∀ r k v, field (r.mergeMember k v) = if k = key then (read v).or (field r) else field r)
    (r : Record) (entries : List (String × Json)) :
    field (r.mergeMembers entries) = latest key read entries (field r) := by
  induction entries generalizing r with
  | nil => rfl
  | cons entry entries ih =>
    rw [latest_cons, ← h]
    exact ih (r.mergeMember entry.1 entry.2)

theorem objectId_mergeMembers (r : Record) (entries : List (String × Json)) :
    (r.mergeMembers entries).objectId =
      latest "objectId" Json.asObjectId? entries r.objectId :=
  field_mergeMembers (fun r k v => (fields_mergeMember r k v).1) r entries

theorem createdAt_mergeMembers (r : Record) (entries : List (String × Json)) :
    (r.mergeMembers entries).createdAt =
      latest "createdAt" Json.asTimestamp? entries r.createdAt :=
  field_mergeMembers (fun r k v => (fields_mergeMember r k v).2.1) r entries

theorem updatedAt_mergeMembers (r : Record) (entries : List (String × Json)) :
    (r.mergeMembers entries).updatedAt =
      latest "updatedAt" Json.asTimestamp? entries r.updatedAt :=
  field_mergeMembers (fun r k v => (fields_mergeMember r k v).2.2.1) r entries

theorem acl_mergeMembers (r : Record) (entries : List (String × Json)) :
    (r.mergeMembers entries).acl = latest "ACL" Acl.ofJson? entries r.acl :=
  field_mergeMembers (fun r k v => (fields_mergeMember r k v).2.2.2.1) r entries

theorem className_mergeMembers (r : Record) (entries : List (String × Json)) :
    (r.mergeMembers entries).className = r.className :=
  className_merge r (.object entries)

/-- What an attribute reads after a merge: the document's value, or else the old one. -/
theorem get?_merge (r : Record) {document : Json} (h : document.HasDistinctNames) {key : String}
    (hkey : isAttributeName key) :
    (r.merge document).get? key = (document.field? key).or (r.get? key) := by
  cases document with
  | object entries =>
    have hnodup : Members.keys (entries.filter fun entry => isAttributeName entry.1) |>.Nodup :=
      (List.filter_sublist.map Prod.fst).nodup (h entries rfl)
    simp only [get?, merge, attributes_mergeMembers]
    rw [Members.get?_overlay _ hnodup, Members.get?_filter, if_pos hkey]
    rfl
  | _ => rfl

/-- A merge leaves attributes alone whose names have a field of their own. -/
theorem get?_merge_of_field (r : Record) (document : Json) {key : String}
    (hkey : isAttributeName key = false) : (r.merge document).get? key = r.get? key := by
  cases document with
  | object entries =>
    rw [get?, merge, attributes_mergeMembers]
    refine Members.get?_overlay_of_notMem _ fun hmem => ?_
    rw [Members.keys_filter, List.mem_filter] at hmem
    exact absurd (hkey.symm.trans hmem.2) (by decide)
  | _ => rfl

theorem get?_remove (r : Record) (key key' : String) :
    (r.remove key).get? key' = if key = key' then none else r.get? key' :=
  Members.get?_erase r.distinct key key'

theorem get?_setAttribute (r : Record) (key key' : String) (value : Json) :
    (r.setAttribute key value).get? key' = if key = key' then some value else r.get? key' :=
  Members.get?_insert r.attributes key key' value

/-! ### The laws -/

/-- **Merging a document twice is merging it once.**  The order of the attributes is the same too,
and so is what malformed values have left alone. -/
theorem merge_merge_self (r : Record) (document : Json) :
    (r.merge document).merge document = r.merge document := by
  cases document with
  | object entries =>
    simp only [merge]
    ext1
    · rw [className_mergeMembers]
    · rw [objectId_mergeMembers, objectId_mergeMembers, latest_latest]
    · rw [createdAt_mergeMembers, createdAt_mergeMembers, latest_latest]
    · rw [updatedAt_mergeMembers, updatedAt_mergeMembers, latest_latest]
    · rw [attributes_mergeMembers, attributes_mergeMembers, Members.overlay_overlay_self]
    · rw [acl_mergeMembers, acl_mergeMembers, latest_latest]
  | _ => rfl

/-- Whether a value is of the kind that a merge reads under a name: an id that is not empty, a
time, an access control list.  Under any other name every value is. -/
def isWellFormed (key : String) (value : Json) : Bool :=
  if key = "objectId" then value.asString?.any (· ≠ "")
  else if key = "createdAt" ∨ key = "updatedAt" then value.asTimestamp?.isSome
  else if key = "ACL" then value.members?.isSome
  else true

theorem asObjectId?_isSome (value : Json) :
    value.asObjectId?.isSome = value.asString?.any (· ≠ "") := by
  cases value with
  | string id => by_cases h : id = "" <;> simp [Json.asObjectId?, Json.asString?, h]
  | _ => rfl

theorem ofJson?_isSome (value : Json) : (Acl.ofJson? value).isSome = value.members?.isSome := by
  cases value <;> rfl

/-- Merging a document and then a second one, without malformed values, is merging the first one
overlaid by the second. -/
theorem merge_merge (r : Record) {a b : Members Json} (ha : a.keys.Nodup) (hb : b.keys.Nodup)
    (hwell : ∀ entry ∈ b, isWellFormed entry.1 entry.2) :
    (r.merge (.object a)).merge (.object b) = r.merge (.object (a.overlay b)) := by
  -- Whatever the second document names can be read, so that it counts in either order.
  have hid : ∀ value, b.get? "objectId" = some value → value.asObjectId?.isSome := by
    intro value h
    rw [asObjectId?_isSome]
    exact hwell _ (Members.mem_of_get? h)
  have hcreated : ∀ value, b.get? "createdAt" = some value → value.asTimestamp?.isSome :=
    fun _ h => hwell _ (Members.mem_of_get? h)
  have hupdated : ∀ value, b.get? "updatedAt" = some value → value.asTimestamp?.isSome :=
    fun _ h => hwell _ (Members.mem_of_get? h)
  have hacl : ∀ value, b.get? "ACL" = some value → (Acl.ofJson? value).isSome := by
    intro value h
    rw [ofJson?_isSome]
    exact hwell _ (Members.mem_of_get? h)
  simp only [merge]
  ext1
  · simp only [className_mergeMembers]
  · simp only [objectId_mergeMembers]
    rw [latest_overlay ha hb hid]
  · simp only [createdAt_mergeMembers]
    rw [latest_overlay ha hb hcreated]
  · simp only [updatedAt_mergeMembers]
    rw [latest_overlay ha hb hupdated]
  · simp only [attributes_mergeMembers]
    rw [Members.filter_overlay, Members.overlay_overlay]
    exact (List.filter_sublist.map Prod.fst).nodup ha
  · simp only [acl_mergeMembers]
    rw [latest_overlay ha hb hacl]

/-- **Merging is a proper overlay.**  A second merge of a document changes nothing, and two
documents can be overlaid before they are merged if the second one holds no malformed value.  The
documents name every member once, as all do that were read (`Json.hasDistinctNames_parse`). -/
theorem merge_overlay_law (r : Record) (a b : Members Json) :
    (r.merge (.object a)).merge (.object a) = r.merge (.object a) ∧
      (a.keys.Nodup → b.keys.Nodup → (∀ entry ∈ b, isWellFormed entry.1 entry.2) →
        (r.merge (.object a)).merge (.object b) = r.merge (.object (a.overlay b))) :=
  ⟨merge_merge_self r (.object a), fun ha hb hwell => merge_merge r ha hb hwell⟩

/-- Here the first document holds a malformed id and a malformed time, and the second one
overwrites an attribute, a time and the access control list. -/
theorem merge_overlay_law_score :
    let r : Record :=
      (({ className := "Score" } : Record).setAttribute "points" (.int 1)).setAttribute "name" .null
    let a : Members Json :=
      [("objectId", .int 5), ("level", .int 2), ("updatedAt", .string "soon"),
        ("ACL", .object [("*", .object [("read", .bool true)])])]
    let b : Members Json :=
      [("ACL", .object [("u1", .object [("write", .bool true)])]), ("points", .int 9),
        ("updatedAt", .string "2015-01-01T00:00:00Z"), ("rank", .int 1), ("level", .null)]
    a.keys.Nodup ∧ b.keys.Nodup ∧ (∀ entry ∈ b, isWellFormed entry.1 entry.2) ∧
      (r.merge (.object a)).merge (.object a) = r.merge (.object a) ∧
      (r.merge (.object a)).merge (.object b) = r.merge (.object (a.overlay b)) := by
  intro r a b
  have ha : a.keys.Nodup := by decide
  have hb : b.keys.Nodup := by decide
  have hwell : ∀ entry ∈ b, isWellFormed entry.1 entry.2 := by decide +kernel
  obtain ⟨hself, hlaw⟩ := merge_overlay_law r a b
  exact ⟨ha, hb, hwell, hself, hlaw ha hb hwell⟩

/-- A malformed id in a document of its own does not displace an earlier one, but in the overlay
of the two documents it has replaced it. -/
example :
    let r : Record := { className := "Score" }
    let a : Members Json := [("objectId", .string "s1")]
    let b : Members Json := [("objectId", .null)]
    ((r.merge (.object a)).merge (.object b)).objectId = some "s1" ∧
      (r.merge (.object (a.overlay b))).objectId = none := by
  decide

end DocStore.Record
