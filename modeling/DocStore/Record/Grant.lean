import DocStore.Error
import DocStore.Record.Basic

/-!
# Grants to users

A user is named in an access control list by the id of its record, so that only a user who has been
saved can be granted anything.
-/

namespace DocStore.Acl

/-- Allow or forbid a user to read. -/
def setUserReadable (a : Acl) (user : Record) (allowed : Bool) : Except Error Acl :=
  match user.objectId with
  | some id => .ok (a.setReadable id allowed)
  | none => .error .missingObjectId

/-- Allow or forbid a user to write. -/
def setUserWritable (a : Acl) (user : Record) (allowed : Bool) : Except Error Acl :=
  match user.objectId with
  | some id => .ok (a.setWritable id allowed)
  | none => .error .missingObjectId

end DocStore.Acl
