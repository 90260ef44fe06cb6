import DocStore.Error
import DocStore.Record.Basic
import DocStore.Text.Quoted

/-!
# Roles

A `Role` is a record of the class of roles: a named group that stands in access control lists as the
subject `Role.subject?`. A new role has a list of its own, and a name of letters, digits, `_`, `-` and
spaces.
-/

namespace DocStore

/-- A record that describes a role. -/
structure Role where
  record : Record
deriving Repr, BEq

namespace Role

/-- Whether a character may stand in a role's name. -/
def isNameChar (c : Char) : Bool := c.isAlphanum || c = '_' || c = '-' || c = ' '

/-- Check the name of a new role. -/
def checkName (name : String) : Outcome :=
  if name = "" then .error (.missingField "name")
  else if name.toList.all isNameChar then .ok ()
  else
    .error (.invalidField "name"
      (Text.quoted name ++ " may only hold letters, digits, '_', '-' and spaces"))

/-- A new role. -/
def create (name : String) (acl : Acl) : Except Error Role :=
  (checkName name).map fun _ =>
    ⟨({ className := Api.Path.roleClass, acl := some acl } : Record).setAttribute "name"
      (.string name)⟩

/-- The name of a role. -/
def name? (r : Role) : Option String := r.record.getString? "name"

/-- The subject that stands for the members of a role. -/
def subject? (r : Role) : Option String := r.name?.map ("role:" ++ ·)

end Role

end DocStore
