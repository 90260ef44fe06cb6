import DocStore.Proofs.Record.Merge

/-!
# The record that a merge leaves

`Record.Overlaid` says what a record is after a document has been laid over it, without saying how:
what each field and each attribute is, and in which order the attributes stand.  A field takes over
what the document has for it, in a form that can be read, and keeps its own value otherwise
(`Record.TakesOver`); a value of any form becomes an attribute, unless there is a field of its name.

* `Record.overlaid_merge`, `Record.Overlaid.unique` : a merge leaves such a record, and there is
  **only one**;
* `Record.merge_eq_iff_overlaid` : so the specification is exactly what a merge does.
-/

namespace DocStore

/-- A document tells a time: as a text that can be read, or as the `iso` text of a date. -/
inductive Json.Tells : Json → Timestamp → Prop
  | text {text : String} {t : Timestamp} (h : Timestamp.parse? text = some t) :
      Tells (.string text) t
  | date {entries : Members Json} {text : String} {t : Timestamp}
      (htype : entries.get? "__type" = some (.string "Date"))
      (hiso : entries.get? "iso" = some (.string text)) (h : Timestamp.parse? text = some t) :
      Tells (.object entries) t

theorem Json.asString?_eq_some_iff {value : Json} {s : String} :
    value.asString? = some s ↔ value = .string s := by
  cases value <;> simp [asString?]

theorem Json.asObjectId?_eq_some_iff {value : Json} {id : String} :
    value.asObjectId? = some id ↔ value = .string id ∧ id ≠ "" := by
  cases value with
  | string text => simp only [asObjectId?, Option.ite_none_left_eq_some, string.injEq]; grind
  | _ => simp [asObjectId?]

theorem Json.asTimestamp?_eq_some_iff {value : Json} {t : Timestamp} :
    value.asTimestamp? = some t ↔ value.Tells t := by
  constructor
  · intro h
    cases value with
    | string text => exact .text h
    | object entries =>
      obtain ⟨htype, h⟩ := Option.ite_none_right_eq_some.1 h
      obtain ⟨text, hiso, h⟩ := Option.bind_eq_some_iff.1 h
      obtain ⟨_, htype, htag⟩ := Option.bind_eq_some_iff.1 htype
      obtain ⟨_, hiso, htext⟩ := Option.bind_eq_some_iff.1 hiso
      rw [Json.asString?_eq_some_iff] at htag htext
      exact .date (htag ▸ htype) (htext ▸ hiso) h
    | _ => cases h
  · rintro (h | ⟨htype, hiso, h⟩)
    · exact h
    · simp [asTimestamp?, htype, hiso, asString?, h]

/-- The list that the members of a wire form describe. -/
def Acl.ofMembers (entries : Members Json) : Acl := entries.foldl Acl.addEntry {}

theorem Acl.ofJson?_eq_some_iff {value : Json} {acl : Acl} :
    Acl.ofJson? value = some acl ↔
      ∃ entries, value = .object entries ∧ acl = ofMembers entries := by
  cases value <;> simp [ofJson?, ofMembers, eq_comm]

namespace Record

variable {β : Type}

/-- The names that have a field of their own, or none at all. -/
def fieldNames : List String := ["objectId", "createdAt", "updatedAt", "className", "ACL"]

/-- A field takes over what is there for it, and keeps its own value if nothing is. -/
structure TakesOver (there : β → Prop) (old new : Option β) : Prop where
  taken : ∀ x, there x → new = some x
  kept : (∀ x, ¬ there x) → new = old

/-- A record is another one with a document laid over it. -/
structure Overlaid (r : Record) (document : Members Json) (r' : Record) : Prop where
  className : r'.className = r.className
  objectId : TakesOver (fun id => document.get? "objectId" = some (.string id) ∧ id ≠ "")
    r.objectId r'.objectId
  createdAt : TakesOver (fun t => ∃ value, document.get? "createdAt" = some value ∧ value.Tells t)
    r.createdAt r'.createdAt
  updatedAt : TakesOver (fun t => ∃ value, document.get? "updatedAt" = some value ∧ value.Tells t)
    r.updatedAt r'.updatedAt
  acl : TakesOver (fun acl => ∃ entries, document.get? "ACL" = some (.object entries) ∧
    acl = .ofMembers entries) r.acl r'.acl
  get?_attribute : ∀ key ∉ fieldNames, r'.get? key = (document.get? key).or (r.get? key)
  get?_field : ∀ key ∈ fieldNames, r'.get? key = r.get? key
  order : r'.attributes.keys = r.attributes.keys ++
    document.keys.filter fun key => key ∉ fieldNames ∧ key ∉ r.attributes.keys

variable {r r' r'' : Record} {document : Members Json}

theorem isAttributeName_iff {key : String} : isAttributeName key = true ↔ key ∉ fieldNames := by
  simp [isAttributeName, reserved, fieldNames]
  grind

/-! ### Fields -/

theorem TakesOver.unique {there : β → Prop} {old new new' : Option β} (h : TakesOver there old new)
    (h' : TakesOver there old new') : new = new' := by
  by_cases hthere : ∃ x, there x
  · obtain ⟨x, hx⟩ := hthere
    rw [h.taken x hx, h'.taken x hx]
  · have hnone : ∀ x, ¬ there x := fun x hx => hthere ⟨x, hx⟩
    rw [h.kept hnone, h'.kept hnone]

/-- A field that holds the latest value takes over what can be read under its name. -/
theorem takesOver_latest {there : β → Prop} {key : String} {read : Json → Option β}
    (hdocument : document.keys.Nodup)
    (hread : ∀ x, there x ↔ ∃ value, document.get? key = some value ∧ read value = some x)
    (old : Option β) : TakesOver there old (latest key read document old) := by
  have hthere : ∀ x, there x ↔ (document.get? key).bind read = some x := fun x =>
    (hread x).trans Option.bind_eq_some_iff.symm
  rw [latest_of_nodup hdocument]
  constructor
  · intro x hx
    rw [(hthere x).1 hx, Option.some_or]
  · intro hnone
    rw [Option.eq_none_iff_forall_ne_some.2 fun x hx => hnone x ((hthere x).2 hx), Option.none_or]

/-! ### The whole record -/

theorem keys_mergeMembers (r : Record) (hdocument : document.keys.Nodup) :
    (r.mergeMembers document).attributes.keys = r.attributes.keys ++
      document.keys.filter fun key => key ∉ fieldNames ∧ key ∉ r.attributes.keys := by
  have hnodup : Members.keys (document.filter fun entry => isAttributeName entry.1) |>.Nodup :=
    (List.filter_sublist.map Prod.fst).nodup hdocument
  rw [attributes_mergeMembers, Members.keys_overlay _ hnodup, Members.keys_filter,
    List.filter_filter]
  refine congrArg _ (List.filter_congr fun key _ => ?_)
  rw [Bool.eq_iff_iff]
  simp [isAttributeName_iff, and_comm]

/-- A merge leaves the record with the document laid over it. -/
theorem overlaid_merge (r : Record) (hdocument : document.keys.Nodup) :
    r.Overlaid document (r.merge (.object document)) := by
  have hdistinct : (Json.object document).HasDistinctNames := by
    rintro _ ⟨⟩
    exact hdocument
  constructor
  · exact className_merge r _
  · rw [merge, objectId_mergeMembers]
    refine takesOver_latest hdocument (fun id => ?_) _
    simp only [Json.asObjectId?_eq_some_iff]
    grind
  · rw [merge, createdAt_mergeMembers]
    exact takesOver_latest hdocument (by simp [Json.asTimestamp?_eq_some_iff]) _
  · rw [merge, updatedAt_mergeMembers]
    exact takesOver_latest hdocument (by simp [Json.asTimestamp?_eq_some_iff]) _
  · rw [merge, acl_mergeMembers]
    refine takesOver_latest hdocument (fun acl => ?_) _
    simp only [Acl.ofJson?_eq_some_iff]
    grind
  · intro key hkey
    exact r.get?_merge hdistinct (isAttributeName_iff.2 hkey)
  · intro key hkey
    refine r.get?_merge_of_field _ (Bool.eq_false_iff.2 fun hname => ?_)
    exact isAttributeName_iff.1 hname hkey
  · exact r.keys_mergeMembers hdocument

/-- There is only one record that is another one with a document laid over it. -/
theorem Overlaid.unique (h : r.Overlaid document r') (h' : r.Overlaid document r'') : r' = r'' := by
  ext1
  · rw [h.className, h'.className]
  · exact h.objectId.unique h'.objectId
  · exact h.createdAt.unique h'.createdAt
  · exact h.updatedAt.unique h'.updatedAt
  · refine Members.eq_of_get? r'.distinct (h.order.trans h'.order.symm) fun key => ?_
    by_cases hkey : key ∈ fieldNames
    · exact (h.get?_field key hkey).trans (h'.get?_field key hkey).symm
    · exact (h.get?_attribute key hkey).trans (h'.get?_attribute key hkey).symm
  · exact h.acl.unique h'.acl

/-- **A merge lays a document over a record.**  A document that is no object changes nothing; and a
record is what a merge leaves **if and only if** it is the record with the object laid over it,
field by field, attribute by attribute and in this order.  The object names every member once, as
all do that were read (`Json.hasDistinctNames_parse`). -/
theorem merge_eq_iff_overlaid (r : Record) (document : Json) (h : document.HasDistinctNames) :
    (document.members? = none → r.merge document = r) ∧
      ∀ members, document.members? = some members →
        ∀ r', r.merge document = r' ↔ r.Overlaid members r' := by
  cases document with
  | object members =>
    refine ⟨nofun, ?_⟩
    rintro _ ⟨⟩ r'
    have hmerge := r.overlaid_merge (h members rfl)
    exact ⟨fun heq => heq ▸ hmerge, fun hoverlaid => hmerge.unique hoverlaid⟩
  | _ => exact ⟨fun _ => rfl, nofun⟩

/-- Here id and list cannot be read, the time is a date, and another class is named. -/
theorem merge_eq_iff_overlaid_score :
    let r : Record :=
      { ({ className := "Score" } : Record).setAttribute "points" (.int 1) with
        objectId := some "s1" }
    let date := Json.object [("__type", .string "Date"), ("iso", .string "2015-01-01T00:00:00Z")]
    let members : Members Json :=
      [("objectId", .int 5), ("updatedAt", date), ("className", .string "Game"), ("level", .int 2),
        ("points", .null), ("ACL", .null)]
    let r' := r.merge (.object members)
    (Json.object members).HasDistinctNames ∧ r.Overlaid members r' ∧
      r'.objectId = some "s1" ∧ r'.updatedAt = some ⟨1420070400, 0⟩ ∧
      r'.attributes = [("points", .null), ("level", .int 2)] := by
  intro r date members r'
  have hdistinct : (Json.object members).HasDistinctNames := by
    rintro _ ⟨⟩
    decide
  have hoverlaid := ((r.merge_eq_iff_overlaid (.object members) hdistinct).2 members rfl r').1 rfl
  exact ⟨hdistinct, hoverlaid, rfl, by decide +kernel, rfl⟩

end Record

end DocStore
