import DocStore.Proofs.Record.Edit
import DocStore.Record.Document

/-!
# What a save sends of a record

The document of a save holds the attributes in their order, without the session token, and the
access control list: in place of an attribute of that name, and at the end if there is none
(`Record.SavedAs`).  It never holds a reserved name if no attribute has one
(`Record.WellNamed.savedAs`).
-/

namespace DocStore.Record

/-- The members of the document of a save. -/
def bodyMembers (r : Record) : Members Json :=
  r.withAcl (r.attributes.filter fun entry => entry.1 ≠ "sessionToken")

/-- Members are what a save sends of a record: no reserved name and no session token, all other
attributes in their order, and the access control list. -/
structure SavedAs (r : Record) (entries : Members Json) : Prop where
  reserved_notMem : ∀ key ∈ reserved, key ∉ entries.keys
  sessionToken_notMem : "sessionToken" ∉ entries.keys
  keys : entries.keys = r.attributes.keys.filter (· ≠ "sessionToken") ++
    if r.acl.isSome ∧ "ACL" ∉ r.attributes.keys then ["ACL"] else []
  get? : ∀ key, key ≠ "sessionToken" → entries.get? key =
    if key = "ACL" then (r.acl.map Acl.toJson).or (r.get? key) else r.get? key

theorem keys_bodyMembers (r : Record) :
    r.bodyMembers.keys = r.attributes.keys.filter (· ≠ "sessionToken") ++
      if r.acl.isSome ∧ "ACL" ∉ r.attributes.keys then ["ACL"] else [] := by
  have hfilter := Members.keys_filter (· ≠ "sessionToken") r.attributes
  have hacl : "ACL" ∈ r.attributes.keys.filter (· ≠ "sessionToken") ↔
      "ACL" ∈ r.attributes.keys := by
    simp [List.mem_filter]
  unfold bodyMembers withAcl
  cases r.acl with
  | none => simpa using hfilter
  | some acl =>
    simp only [Members.keys_insert, hfilter, hacl]
    by_cases hmem : "ACL" ∈ r.attributes.keys <;> simp [hmem]

theorem get?_bodyMembers (r : Record) {key : String} (hkey : key ≠ "sessionToken") :
    r.bodyMembers.get? key =
      if key = "ACL" then (r.acl.map Acl.toJson).or (r.get? key) else r.get? key := by
  have hfilter := Members.get?_filter (· ≠ "sessionToken") r.attributes key
  rw [if_pos (by simpa using hkey)] at hfilter
  rw [bodyMembers, get?_withAcl, hfilter]
  rfl

/-- **The document of a save** holds the attributes and the access control list, and nothing of what
only the server may set. -/
theorem WellNamed.savedAs {r : Record} (h : r.WellNamed) : r.SavedAs r.bodyMembers := by
  have hmem : ∀ key ∈ r.bodyMembers.keys,
      (key ∈ r.attributes.keys ∧ key ≠ "sessionToken") ∨ key = "ACL" := by
    intro key hkey
    rw [keys_bodyMembers, List.mem_append] at hkey
    rcases hkey with hkey | hkey
    · left
      simpa [List.mem_filter] using hkey
    · right
      split at hkey
      · exact List.mem_singleton.1 hkey
      · cases hkey
  refine ⟨?_, ?_, r.keys_bodyMembers, fun _ => r.get?_bodyMembers⟩
  · intro key hreserved hkey
    rcases hmem key hkey with ⟨hkey, -⟩ | rfl
    · exact h key hreserved hkey
    · exact absurd hreserved (by decide)
  · intro hkey
    rcases hmem _ hkey with ⟨-, hne⟩ | hacl
    · exact hne rfl
    · exact absurd hacl (by decide)

/-- The attributes of what is sent are those of the record, without the session token. -/
theorem WellNamed.filter_bodyMembers {r : Record} (h : r.WellNamed)
    (hacl : "ACL" ∉ r.attributes.keys) :
    r.bodyMembers.filter (fun entry => isAttributeName entry.1) =
      r.attributes.filter fun entry => entry.1 ≠ "sessionToken" := by
  have hattributes : ∀ entry ∈ r.attributes.filter fun entry => entry.1 ≠ "sessionToken",
      isAttributeName entry.1 = true := by
    intro entry hentry
    have hkey : entry.1 ∈ r.attributes.keys := List.mem_map_of_mem (List.mem_filter.1 hentry).1
    have hreserved : entry.1 ∉ reserved := fun hmem => h _ hmem hkey
    have hname : entry.1 ≠ "ACL" := fun heq => hacl (heq ▸ hkey)
    simp [isAttributeName, hreserved, hname]
  unfold bodyMembers withAcl
  cases r.acl with
  | none => exact List.filter_eq_self.2 hattributes
  | some acl =>
    have hnew : "ACL" ∉
        Members.keys (r.attributes.filter fun entry => entry.1 ≠ "sessionToken") := by
      rw [Members.keys_filter (· ≠ "sessionToken")]
      exact fun hmem => hacl (List.mem_filter.1 hmem).1
    have hname : isAttributeName "ACL" = false := by decide
    simp only [Members.insert_of_notMem hnew, List.filter_append,
      List.filter_eq_self.2 hattributes]
    simp [hname]

end DocStore.Record
