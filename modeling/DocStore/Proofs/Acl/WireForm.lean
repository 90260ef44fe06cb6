import DocStore.Proofs.Acl.LastWrite

/-!
# What a wire form says

* `Acl.Reachable` : the lists that there are: the empty one, the public one, those that were read from
  a document, and what calls make of them;
* `Acl.Describes` : what a list has to say that was read from the members of a document: an entry for
  each member that is an object, in the same order, which allows what the object allows literally;
* `Acl.wire_form_faithful` : **lists that can be reached are read back from their wire forms as they
  were, and every object is read as a list that says what its members say.**

The first part needs that no subject has two entries (`Acl.Reachable.distinct`), and the second that no
member has two values, as in every document that was read.
-/

namespace DocStore.Acl

/-- The lists that can be reached. -/
inductive Reachable : Acl → Prop
  | empty : Reachable {}
  | publicReadOnly : Reachable publicReadOnly
  | read {value : Json} {a : Acl} (h : ofJson? value = some a) : Reachable a
  | performed {a : Acl} (h : Reachable a) (call : Call) : Reachable (a.perform call).2

theorem Reachable.distinct {a : Acl} (h : Reachable a) : a.Distinct := by
  induction h with
  | empty => exact distinct_empty
  | publicReadOnly => exact distinct_empty.set (.read everyone true)
  | read h => exact distinct_of_ofJson? h
  | performed _ call ih =>
    rw [perform_eq]
    cases call.setting? with
    | none => exact ih
    | some setting => exact ih.set setting

/-- Settings are calls that name the subject itself. -/
theorem Reachable.setAll {a : Acl} (h : Reachable a) (settings : List Setting) :
    Reachable (a.setAll settings) := by
  refine List.foldlRecOn settings set h fun b hb setting _ => ?_
  cases setting with
  | read subject allowed => exact hb.performed (.readable (.named subject) allowed)
  | write subject allowed => exact hb.performed (.writable (.named subject) allowed)

/-- A list says what the members of a document say. -/
structure Describes (entries : Members Json) (a : Acl) : Prop where
  /-- There is an entry for each member that is an object, in the same order. -/
  subjects : a.grants.keys = Members.keys (entries.filter fun entry => entry.2.members?.isSome)
  readable : ∀ (subject : String) (grant : Members Json), (subject, .object grant) ∈ entries →
    (a.isReadable subject = true ↔ grant.get? "read" = some (.bool true))
  writable : ∀ (subject : String) (grant : Members Json), (subject, .object grant) ∈ entries →
    (a.isWritable subject = true ↔ grant.get? "write" = some (.bool true))

/-- A flag is set by the value `true` itself only. -/
theorem flag_eq_true_iff {grant : Members Json} {name : String} :
    flag grant name = true ↔ grant.get? name = some (.bool true) := by
  unfold flag
  cases grant.get? name with
  | none => simp
  | some value => cases value <;> simp [Json.asBool?]

theorem keys_granted (entries : Members Json) :
    (granted entries).keys =
      Members.keys (entries.filter fun entry => entry.2.members?.isSome) := by
  induction entries with
  | nil => rfl
  | cons first entries ih =>
    obtain ⟨subject, value⟩ := first
    rw [granted, List.filterMap_cons, List.filter_cons]
    cases value with
    | object grant => exact congrArg (subject :: ·) ih
    | _ => exact ih

theorem nodup_keys_granted {entries : Members Json} (h : entries.keys.Nodup) :
    (granted entries).keys.Nodup := by
  rw [keys_granted]
  exact (List.filter_sublist.map Prod.fst).nodup h

/-- The grant of a member that is an object. -/
theorem grant_granted {entries : Members Json} (h : entries.keys.Nodup) {subject : String}
    {grant : Members Json} (hmem : (subject, .object grant) ∈ entries) :
    Acl.grant ⟨granted entries⟩ subject =
      { read := flag grant "read", write := flag grant "write" } := by
  have hgranted : (subject, { read := flag grant "read", write := flag grant "write" }) ∈
      granted entries := List.mem_filterMap.2 ⟨_, hmem, rfl⟩
  rw [Acl.grant, Members.get?_of_mem (nodup_keys_granted h) hgranted, Option.getD_some]

theorem describes_granted {entries : Members Json} (h : entries.keys.Nodup) :
    Describes entries ⟨granted entries⟩ := by
  refine ⟨keys_granted entries, fun subject grant hmem => ?_, fun subject grant hmem => ?_⟩
  · rw [isReadable, grant_granted h hmem, flag_eq_true_iff]
  · rw [isWritable, grant_granted h hmem, flag_eq_true_iff]

theorem ofJson?_eq_none_iff {value : Json} : ofJson? value = none ↔ value.members? = none := by
  cases value <;> simp [ofJson?, Json.members?]

/-- **The wire form is faithful.**  A list that can be reached is read back from its wire form as it
was, the order of its entries included.  All documents are read but those that are no objects; what an
object is read as has an entry for each member that is an object, in the same order, which lets its
subject read and write exactly if that is literally true of the object; and once read, a list does not
change any more by being written and read. -/
theorem wire_form_faithful :
    (∀ a : Acl, Reachable a → ofJson? a.toJson = some a) ∧
      (∀ value : Json, ofJson? value = none ↔ value.members? = none) ∧
      (∀ entries : Members Json, entries.keys.Nodup →
        ∃ a, ofJson? (.object entries) = some a ∧ Describes entries a) ∧
      ∀ (value : Json) (a : Acl), ofJson? value = some a → ofJson? a.toJson = some a := by
  refine ⟨fun a h => ofJson?_toJson h.distinct, fun value => ofJson?_eq_none_iff,
    fun entries h => ⟨⟨granted entries⟩, ?_, describes_granted h⟩,
    fun value a h => ofJson?_toJson (distinct_of_ofJson? h)⟩
  rw [ofJson?_object, Members.ofList_of_nodup (nodup_keys_granted h)]

/-- Here a document is read in which one subject has no object, one is allowed a number, and one may
write only; then two of them are allowed to read. -/
theorem wire_form_faithful_partial_grants :
    let entries : Members Json :=
      [("u2", .object [("read", .int 1)]), ("bogus", .int 3),
        ("*", .object [("write", .bool true), ("read", .null)])]
    let a : Acl := ⟨[("u2", {}), ("*", { write := true })]⟩
    let b : Acl := (a.perform (.readable .everyone true)).2
    let c : Acl := (b.perform (.readable (.named "bogus") true)).2
    entries.keys.Nodup ∧ ofJson? (.object entries) = some a ∧ Describes entries a ∧
      ofJson? a.toJson = some a ∧ c.grants.keys = ["u2", "*", "bogus"] ∧ Reachable c ∧
      ofJson? c.toJson = some c := by
  intro entries a b c
  have hnodup : entries.keys.Nodup := by decide
  have hread : ofJson? (.object entries) = some a := by decide
  obtain ⟨hfaithful, -, hdescribed, hstable⟩ := wire_form_faithful
  obtain ⟨a', ha', hdescribes⟩ := hdescribed entries hnodup
  cases hread.symm.trans ha'
  have hreachable : Reachable c := ((Reachable.read hread).performed _).performed _
  exact ⟨hnodup, hread, hdescribes, hstable _ a hread, by decide, hreachable,
    hfaithful c hreachable⟩

end DocStore.Acl
