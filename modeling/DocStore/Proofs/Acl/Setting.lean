import DocStore.Acl
import DocStore.Proofs.Members.Overlay

/-!
# Settings of access control lists

An access control list is made by settings, each of which allows or forbids a subject to read or to
write (`Acl.Setting`); everyone, a role and a user are subjects like any other.  Settings never give
a subject a second entry (`Acl.distinct_setAll`), and neither does reading a wire form
(`Acl.distinct_of_ofJson?`).

For such lists **the wire form is faithful** (`Acl.ofJson?_toJson`): it reads back as the list it
was made of, entry by entry in the same order.
-/

namespace DocStore.Acl

/-- A call that allows or forbids a subject something. -/
inductive Setting where
  | read (subject : String) (allowed : Bool)
  | write (subject : String) (allowed : Bool)

/-- The list after a setting. -/
def set (a : Acl) : Setting → Acl
  | .read subject allowed => a.setReadable subject allowed
  | .write subject allowed => a.setWritable subject allowed

/-- The list after settings, one after the other. -/
def setAll (a : Acl) (settings : List Setting) : Acl := settings.foldl set a

/-- No subject has two entries. -/
def Distinct (a : Acl) : Prop := a.grants.keys.Nodup

theorem distinct_empty : Distinct {} := Members.nodup_keys_nil

theorem Distinct.set {a : Acl} (h : a.Distinct) (setting : Setting) : (a.set setting).Distinct := by
  cases setting with
  | read subject allowed => exact Members.nodup_keys_insert h subject _
  | write subject allowed => exact Members.nodup_keys_insert h subject _

/-- Settings never give a subject a second entry. -/
theorem Distinct.setAll {a : Acl} (h : a.Distinct) (settings : List Setting) :
    (a.setAll settings).Distinct := by
  induction settings generalizing a with
  | nil => exact h
  | cons setting settings ih => exact ih (h.set setting)

/-! ### The wire form -/

/-- Both settings of one subject replace its entry or append a new one. -/
theorem setWritable_setReadable (a : Acl) (subject : String) (read write : Bool) :
    (a.setReadable subject read).setWritable subject write =
      ⟨a.grants.insert subject { read, write }⟩ := by
  have hgrant : (a.setReadable subject read).grant subject =
      { a.grant subject with read } := by rw [grant_setReadable, if_pos rfl]
  rw [setWritable, hgrant, setReadable, Members.insert_insert]

/-- A member that is an object replaces the entry of its subject or appends a new one. -/
theorem addEntry_object (a : Acl) (subject : String) (grant : Members Json) :
    a.addEntry (subject, .object grant) =
      ⟨a.grants.insert subject { read := flag grant "read", write := flag grant "write" }⟩ :=
  setWritable_setReadable a subject (flag grant "read") (flag grant "write")

/-- The grant that a member describes, if it describes one. -/
def grantOf? (value : Json) : Option Grant :=
  value.members?.map fun grant => { read := flag grant "read", write := flag grant "write" }

/-- The entries that the members of a document describe. -/
def granted (entries : Members Json) : Members Grant :=
  entries.filterMap fun (subject, value) => (grantOf? value).map (subject, ·)

/-- Reading members lays the entries that they describe over a list. -/
theorem foldl_addEntry (a : Acl) (entries : Members Json) :
    entries.foldl addEntry a = ⟨a.grants.overlay (granted entries)⟩ := by
  induction entries generalizing a with
  | nil => rfl
  | cons first entries ih =>
    obtain ⟨subject, value⟩ := first
    rw [List.foldl_cons, ih]
    cases value with
    | object grant => rw [addEntry_object]; rfl
    | _ => rfl

theorem ofJson?_object (entries : Members Json) :
    ofJson? (.object entries) = some ⟨Members.ofList (granted entries)⟩ :=
  congrArg some (foldl_addEntry {} entries)

/-- A list that was read has no subject twice. -/
theorem distinct_of_ofJson? {value : Json} {a : Acl} (h : ofJson? value = some a) :
    a.Distinct := by
  cases value with
  | object entries =>
    rw [ofJson?_object] at h
    cases h
    exact Members.nodup_keys_ofList _
  | _ => cases h

/-- The members of a wire form describe the entries of which they were made. -/
theorem granted_toJson (grants : Members Grant) :
    granted (grants.map fun (subject, g) => (subject, grantToJson g)) = grants := by
  rw [granted, List.filterMap_map]
  exact List.filterMap_some

/-- **The wire form is faithful**, the order of the entries included. -/
theorem ofJson?_toJson {a : Acl} (h : a.Distinct) : ofJson? a.toJson = some a := by
  rw [toJson, ofJson?_object, granted_toJson, Members.ofList_of_nodup h]

end DocStore.Acl
