import DocStore.Proofs.Acl.Setting
import DocStore.Proofs.Record.Merge
import DocStore.Proofs.Timestamp.RoundTrip
import DocStore.Record.Document

/-!
# Reading back the document that shows a record

A record that came from a document can be shown, and what is shown describes the same record.

* `Record.Received` : what is true of a record that came from a document, whatever the document held
  (`Record.received_ofDocument`);
* `Record.Received.document_eq` : id and times, the attributes and the access control list stand one
  after the other in what is shown, and **none of them overwrites another**;
* `Record.shown_document_reads_back` : what is shown **describes the record itself**, its times cut to
  whole milliseconds.

The times are read back only if they lie in the years 0 to 9999 (`Timestamp.parse?_text`).
-/

namespace DocStore.Record

variable {r : Record} {key : String}

/-! ### What comes from a document -/

/-- What is true of a record that came from a document. -/
structure Received (r : Record) : Prop where
  names : ∀ key ∈ r.attributes.keys, isAttributeName key = true
  objectId : ∀ id ∈ r.objectId, id ≠ ""
  createdAt : ∀ t ∈ r.createdAt, t.IsInstant
  updatedAt : ∀ t ∈ r.updatedAt, t.IsInstant
  acl : ∀ acl ∈ r.acl, acl.Distinct

/-- The latest value was read from some member. -/
theorem exists_of_latest {β : Type} {read : Json → Option β} {entries : List (String × Json)} {x : β}
    (h : latest key read entries none = some x) : ∃ value, read value = some x := by
  suffices hlatest : ∀ old, latest key read entries old = some x →
      old = some x ∨ ∃ value, read value = some x by
    obtain hold | hread := hlatest none h
    · cases hold
    · exact hread
  clear h
  induction entries with
  | nil => exact fun old h => .inl h
  | cons entry entries ih =>
    intro old h
    rw [latest_cons] at h
    obtain hold | hread := ih _ h
    · split at hold
      · obtain hread | ⟨-, hold⟩ := Option.or_eq_some_iff.1 hold
        · exact .inr ⟨_, hread⟩
        · exact .inl hold
      · exact .inl hold
    · exact .inr hread

theorem ne_empty_of_asObjectId? {value : Json} {id : String} (h : value.asObjectId? = some id) :
    id ≠ "" := by
  cases value with
  | string text =>
    obtain ⟨hne, heq⟩ := Option.ite_none_left_eq_some.1 h
    cases heq
    exact hne
  | _ => cases h

theorem isInstant_of_asTimestamp? {value : Json} {t : Timestamp} (h : value.asTimestamp? = some t) :
    t.IsInstant := by
  cases value with
  | string text => exact Timestamp.isInstant_of_parse? h
  | object entries =>
    obtain ⟨-, h⟩ := Option.ite_none_right_eq_some.1 h
    obtain ⟨text, -, h⟩ := Option.bind_eq_some_iff.1 h
    exact Timestamp.isInstant_of_parse? h
  | _ => cases h

/-- Whatever a document holds, the record that it describes is well formed. -/
theorem received_ofDocument (className : String) (document : Json) :
    (ofDocument className document).Received := by
  cases document with
  | object entries =>
    have hattributes := attributes_mergeMembers { className } entries
    constructor
    · intro key hkey
      rw [ofDocument, merge, hattributes] at hkey
      obtain hkey | hkey := Members.mem_keys_overlay.1 hkey
      · cases hkey
      · obtain ⟨entry, hentry, rfl⟩ := List.mem_map.1 hkey
        exact (List.mem_filter.1 hentry).2
    · intro id hid
      obtain ⟨value, hread⟩ := exists_of_latest ((objectId_mergeMembers _ entries).symm.trans hid)
      exact ne_empty_of_asObjectId? hread
    · intro t ht
      obtain ⟨value, hread⟩ := exists_of_latest ((createdAt_mergeMembers _ entries).symm.trans ht)
      exact isInstant_of_asTimestamp? hread
    · intro t ht
      obtain ⟨value, hread⟩ := exists_of_latest ((updatedAt_mergeMembers _ entries).symm.trans ht)
      exact isInstant_of_asTimestamp? hread
    · intro acl hacl
      obtain ⟨value, hread⟩ := exists_of_latest ((acl_mergeMembers _ entries).symm.trans hacl)
      exact Acl.distinct_of_ofJson? hread
  | _ =>
    constructor
    all_goals
      intro _ hnone
      cases hnone

/-! ### What is shown -/

/-- The members that show a record. -/
def shown (r : Record) : Members Json :=
  r.metadata ++ r.attributes ++ optionalMember "ACL" (r.acl.map Acl.toJson)

theorem keys_optionalMember_sublist (key : String) (value : Option Json) :
    (Members.keys (optionalMember key value)).Sublist [key] := by
  cases value with
  | none => exact List.nil_sublist _
  | some value => exact List.Sublist.refl _

theorem get?_optionalMember (key key' : String) (value : Option Json) :
    Members.get? (optionalMember key value) key' = if key = key' then value else none := by
  cases value with
  | none => exact (ite_self none).symm
  | some value => rfl

theorem get?_metadata (r : Record) (key : String) :
    r.metadata.get? key =
      ((if "objectId" = key then r.objectId.map Json.string else none).or
        (if "createdAt" = key then r.createdAt.map timeToJson else none)).or
        (if "updatedAt" = key then r.updatedAt.map timeToJson else none) := by
  rw [metadata, Members.get?_append, Members.get?_append, get?_optionalMember, get?_optionalMember,
    get?_optionalMember]

/-- An attribute is shown under its name, and in place of id and times. -/
theorem field?_document (r : Record) {key : String} (hkey : key ≠ "ACL") :
    r.document.field? key = (r.get? key).or (r.metadata.get? key) := by
  rw [Json.field?, document, Json.members?, Option.bind_some, get?_withAcl, if_neg hkey,
    Members.get?_overlay _ r.distinct]
  rfl

theorem field?_document_objectId (h : "objectId" ∉ r.attributes.keys) :
    r.document.field? "objectId" = r.objectId.map Json.string := by
  have hnone : r.get? "objectId" = none := Members.get?_eq_none_iff.2 h
  rw [r.field?_document (by decide), hnone, get?_metadata]
  simp

/-- A name that is neither reserved nor that of the access control list shows its attribute. -/
theorem field?_document_of_isAttributeName (r : Record) (h : isAttributeName key = true) :
    r.document.field? key = r.get? key := by
  have hne : ∀ name, isAttributeName name = false → name ≠ key := by
    rintro name hname rfl
    exact Bool.false_ne_true (hname.symm.trans h)
  rw [r.field?_document (hne "ACL" (by decide)).symm, get?_metadata,
    if_neg (hne "objectId" (by decide)), if_neg (hne "createdAt" (by decide)),
    if_neg (hne "updatedAt" (by decide))]
  exact Option.or_none

theorem Received.notMem_keys (h : r.Received) (hkey : isAttributeName key = false) :
    key ∉ r.attributes.keys :=
  fun hmem => Bool.false_ne_true (hkey.symm.trans (h.names key hmem))

/-- Every name is shown once. -/
theorem Received.nodup_keys_shown (h : r.Received) : r.shown.keys.Nodup := by
  have hsublist : r.shown.keys.Sublist
      (["objectId", "createdAt", "updatedAt"] ++ r.attributes.keys ++ ["ACL"]) := by
    rw [Members.keys, shown, metadata, List.map_append, List.map_append, List.map_append,
      List.map_append]
    have hone := keys_optionalMember_sublist
    exact ((((hone ..).append (hone ..)).append (hone ..)).append (List.Sublist.refl _)).append
      (hone ..)
  refine hsublist.nodup ?_
  have hmetadata : ∀ key ∈ ["objectId", "createdAt", "updatedAt"],
      isAttributeName key = false ∧ key ≠ "ACL" := by decide
  rw [List.nodup_append, List.nodup_append]
  refine ⟨⟨by decide, r.distinct, fun key hkey key' hkey' heq => ?_⟩, by decide,
    fun key hkey key' hkey' heq => ?_⟩
  · exact h.notMem_keys (hmetadata key hkey).1 (heq ▸ hkey')
  · obtain rfl := List.mem_singleton.1 hkey'
    obtain hkey | hkey := List.mem_append.1 hkey
    · exact (hmetadata key hkey).2 heq
    · exact h.notMem_keys (by decide) (heq ▸ hkey)

/-- **What is shown** is id and times, then the attributes and then the access control list. -/
theorem Received.document_eq (h : r.Received) : r.document = .object r.shown := by
  have hnodup := h.nodup_keys_shown
  rw [Members.keys, shown, List.map_append, List.nodup_append] at hnodup
  obtain ⟨hfront, -, hacl⟩ := hnodup
  rw [document, shown, Members.overlay_of_nodup hfront, withAcl]
  cases hvalue : r.acl with
  | none => exact congrArg Json.object (List.append_nil _).symm
  | some acl =>
    have hnew : "ACL" ∉ Members.keys (r.metadata ++ r.attributes) := fun hmem =>
      hacl "ACL" hmem "ACL" (by simp [hvalue, optionalMember]) rfl
    exact congrArg Json.object (Members.insert_of_notMem hnew _)

/-! ### Reading back -/

theorem filter_optionalMember (hkey : isAttributeName key = false) (value : Option Json) :
    (optionalMember key value).filter (fun entry => isAttributeName entry.1) = [] := by
  cases value with
  | none => rfl
  | some value => exact List.filter_cons_of_neg (Bool.eq_false_iff.1 hkey)

/-- The members that become attributes again are the attributes. -/
theorem Received.filter_shown (h : r.Received) :
    r.shown.filter (fun entry => isAttributeName entry.1) = r.attributes := by
  have hattributes : r.attributes.filter (fun entry => isAttributeName entry.1) = r.attributes :=
    List.filter_eq_self.2 fun entry hentry => h.names entry.1 (List.mem_map_of_mem hentry)
  have hfield := @filter_optionalMember
  rw [shown, metadata, List.filter_append, List.filter_append, List.filter_append,
    List.filter_append, hattributes, hfield (by decide), hfield (by decide), hfield (by decide),
    hfield (by decide), List.nil_append, List.nil_append, List.nil_append, List.append_nil]

/-- Under the name of a field, that field is shown. -/
theorem Received.get?_shown (h : r.Received) :
    r.shown.get? "objectId" = r.objectId.map Json.string ∧
      r.shown.get? "createdAt" = r.createdAt.map timeToJson ∧
      r.shown.get? "updatedAt" = r.updatedAt.map timeToJson ∧
      r.shown.get? "ACL" = r.acl.map Acl.toJson := by
  have hget : ∀ key, isAttributeName key = false → r.shown.get? key =
      (r.metadata.get? key).or (if "ACL" = key then r.acl.map Acl.toJson else none) := by
    intro key hkey
    rw [shown, Members.get?_append, Members.get?_append,
      Members.get?_eq_none_iff.2 (h.notMem_keys hkey), Option.or_none, get?_optionalMember]
  refine ⟨?_, ?_, ?_, ?_⟩
  all_goals
    rw [hget _ (by decide), get?_metadata]
    simp

/-- What is read back under the name of a field is read from what the field shows. -/
theorem Received.latest_shown {β : Type} (h : r.Received) (read : Json → Option β)
    {value : Option Json} (hvalue : r.shown.get? key = value) :
    latest key read r.shown none = value.bind read := by
  rw [latest_of_nodup h.nodup_keys_shown, hvalue, Option.or_none]

theorem bind_string {id? : Option String} (h : ∀ id ∈ id?, id ≠ "") :
    (id?.map Json.string).bind Json.asObjectId? = id? := by
  cases id? with
  | none => rfl
  | some id => exact if_neg (h id rfl)

theorem bind_toJson {acl? : Option Acl} (h : ∀ acl ∈ acl?, acl.Distinct) :
    (acl?.map Acl.toJson).bind Acl.ofJson? = acl? := by
  cases acl? with
  | none => rfl
  | some acl => exact Acl.ofJson?_toJson (h acl rfl)

/-- A time that is shown is read back, cut to whole milliseconds, if it lies in the years 0 to 9999. -/
theorem bind_timeToJson {time? : Option Timestamp} (h : ∀ t ∈ time?, t.IsInstant)
    (hyear : ∀ t ∈ time?, 0 ≤ t.year ∧ t.year ≤ 9999) :
    (time?.map timeToJson).bind Json.asTimestamp? = time?.map Timestamp.cut := by
  cases time? with
  | none => rfl
  | some t => exact Timestamp.parse?_text (h t rfl) (hyear t rfl).1 (hyear t rfl).2

/-- **Showing a record loses nothing.**  Whatever document a record came from: what is shown are its id
and times, then its attributes and then its access control list, and no attribute has the name of
any of the others.  A new record of the class that is made from what is shown has the same id, the same
attributes in the same order and the same access control list, entry by entry; and each time
that lies in the years 0 to 9999 is the same, cut to whole milliseconds. -/
theorem shown_document_reads_back (className : String) (document : Json) :
    let r := ofDocument className document
    let s := ofDocument className r.document
    r.document = .object
        (r.metadata ++ r.attributes ++ optionalMember "ACL" (r.acl.map Acl.toJson)) ∧
      (∀ key ∈ ["objectId", "createdAt", "updatedAt", "ACL"], key ∉ r.attributes.keys) ∧
      s.className = r.className ∧ s.objectId = r.objectId ∧ s.attributes = r.attributes ∧
      s.acl = r.acl ∧
      ((∀ t ∈ r.createdAt, 0 ≤ t.year ∧ t.year ≤ 9999) →
        s.createdAt = r.createdAt.map Timestamp.cut) ∧
      ((∀ t ∈ r.updatedAt, 0 ≤ t.year ∧ t.year ≤ 9999) →
        s.updatedAt = r.updatedAt.map Timestamp.cut) := by
  intro r s
  have h : r.Received := received_ofDocument className document
  have hs : s = mergeMembers { className } r.shown := by
    simp only [s, ofDocument, h.document_eq, merge]
  have hnames : ∀ key ∈ ["objectId", "createdAt", "updatedAt", "ACL"],
      isAttributeName key = false := by decide
  obtain ⟨hid, hcreated, hupdated, hacl⟩ := h.get?_shown
  refine ⟨h.document_eq, fun key hkey => h.notMem_keys (hnames key hkey), ?_, ?_, ?_, ?_,
    fun hyear => ?_, fun hyear => ?_⟩
  · rw [hs, className_mergeMembers]
    exact (className_merge _ document).symm
  · rw [hs, objectId_mergeMembers, h.latest_shown _ hid, bind_string h.objectId]
  · rw [hs, attributes_mergeMembers, h.filter_shown]
    exact Members.ofList_of_nodup r.distinct
  · rw [hs, acl_mergeMembers, h.latest_shown _ hacl, bind_toJson h.acl]
  · rw [hs, createdAt_mergeMembers, h.latest_shown _ hcreated, bind_timeToJson h.createdAt hyear]
  · rw [hs, updatedAt_mergeMembers, h.latest_shown _ hupdated, bind_timeToJson h.updatedAt hyear]

/-- Here the record was created within a leap second, and a grant is left out and another one partial. -/
theorem shown_document_reads_back_leapSecond :
    let document := Json.object [("objectId", .string "s1"), ("score", .int 3),
      ("createdAt", .string "2016-12-31T23:59:60.123456Z"),
      ("ACL", .object [("*", .object [("read", .bool true)]), ("u1", .null)])]
    let r := ofDocument "Score" document
    let s := ofDocument "Score" r.document
    r.createdAt = some ⟨1483228799, 1123456000⟩ ∧ (∀ t ∈ r.createdAt, 0 ≤ t.year ∧ t.year ≤ 9999) ∧
      s.createdAt = some ⟨1483228799, 1123000000⟩ ∧ s.attributes = [("score", .int 3)] ∧
      s.acl = some ⟨[("*", { read := true })]⟩ := by
  intro document r s
  have hcreated : r.createdAt = some ⟨1483228799, 1123456000⟩ := by decide +kernel
  have hyear : ∀ t ∈ r.createdAt, 0 ≤ t.year ∧ t.year ≤ 9999 := by
    rw [hcreated]
    rintro t ⟨⟩
    decide +kernel
  obtain ⟨-, -, -, -, hattributes, hacl, htime, -⟩ := shown_document_reads_back "Score" document
  refine ⟨hcreated, hyear, (htime hyear).trans ?_, hattributes.trans rfl, hacl.trans ?_⟩
  · rw [hcreated]
    rfl
  · decide +kernel

end DocStore.Record
