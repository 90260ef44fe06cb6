import DocStore.Json.Basic

/-!
# Access control lists

An `Acl` lists who may read and who may write, one entry for each subject in the order in which the
subjects were first named. A subject is the id of a user, `role:` with the name of a role, or `*` for
everyone. A subject without an entry may do neither.

`Acl.toJson` is the wire form, an object with one member per subject, and `Acl.ofJson?` reads it:
members that are no objects are passed over, and a flag is set only by the value `true` itself.
-/

namespace DocStore

/-- What a subject may do. -/
structure Grant where
  read : Bool := false
  write : Bool := false
deriving DecidableEq, Repr

/-- An access control list. -/
structure Acl where
  grants : Members Grant := []
deriving DecidableEq, Repr

namespace Acl

/-- The subject that stands for everyone. -/
def everyone : String := "*"

/-- The subject that stands for the members of a role. -/
def roleSubject (name : String) : String := "role:" ++ name

/-- What a subject may do. -/
def grant (a : Acl) (subject : String) : Grant := (a.grants.get? subject).getD {}

/-- Whether a subject may read. -/
def isReadable (a : Acl) (subject : String) : Bool := (a.grant subject).read

/-- Whether a subject may write. -/
def isWritable (a : Acl) (subject : String) : Bool := (a.grant subject).write

/-- Allow or forbid a subject to read. -/
def setReadable (a : Acl) (subject : String) (allowed : Bool) : Acl :=
  ⟨a.grants.insert subject { a.grant subject with read := allowed }⟩

/-- Allow or forbid a subject to write. -/
def setWritable (a : Acl) (subject : String) (allowed : Bool) : Acl :=
  ⟨a.grants.insert subject { a.grant subject with write := allowed }⟩

/-- Allow or forbid everyone to read. -/
def setPublicReadable (a : Acl) (allowed : Bool) : Acl := a.setReadable everyone allowed

/-- Allow or forbid everyone to write. -/
def setPublicWritable (a : Acl) (allowed : Bool) : Acl := a.setWritable everyone allowed

/-- Allow or forbid the members of a role to read. -/
def setRoleReadable (a : Acl) (name : String) (allowed : Bool) : Acl :=
  a.setReadable (roleSubject name) allowed

/-- Allow or forbid the members of a role to write. -/
def setRoleWritable (a : Acl) (name : String) (allowed : Bool) : Acl :=
  a.setWritable (roleSubject name) allowed

/-- The list that lets everyone read and nobody write. -/
def publicReadOnly : Acl := ({} : Acl).setReadable everyone true

/-- The wire form of a grant. -/
def grantToJson (g : Grant) : Json := .object [("read", .bool g.read), ("write", .bool g.write)]

/-- The wire form of a list. -/
def toJson (a : Acl) : Json := .object (a.grants.map fun (subject, g) => (subject, grantToJson g))

/-- Whether a member of a grant is literally true. -/
def flag (grant : Members Json) (name : String) : Bool :=
  ((grant.get? name).bind Json.asBool?).getD false

/-- Add the entry that one member of a wire form describes. -/
def addEntry (a : Acl) (entry : String × Json) : Acl :=
  match entry.2 with
  | .object grant =>
    (a.setReadable entry.1 (flag grant "read")).setWritable entry.1 (flag grant "write")
  | _ => a

/-- Read a wire form. -/
def ofJson? : Json → Option Acl
  | .object entries => some (entries.foldl addEntry {})
  | _ => none

/-- A change of one flag does not touch the other one, nor other subjects. -/
theorem grant_setReadable (a : Acl) (subject s : String) (allowed : Bool) :
    (a.setReadable subject allowed).grant s =
      if subject = s then { a.grant s with read := allowed } else a.grant s := by
  unfold setReadable grant
  rw [Members.get?_insert]
  split <;> simp_all

theorem grant_setWritable (a : Acl) (subject s : String) (allowed : Bool) :
    (a.setWritable subject allowed).grant s =
      if subject = s then { a.grant s with write := allowed } else a.grant s := by
  unfold setWritable grant
  rw [Members.get?_insert]
  split <;> simp_all

end Acl

end DocStore
