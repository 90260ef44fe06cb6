import DocStore.Error
import DocStore.Record.Merge

/-!
# Users

A `User` is a record of the class of users. Username, password and session token are attributes of
it; the password is there only until the next attempt to log in or sign up (`User.scrub`).
-/

namespace DocStore

/-- A record that describes a user. -/
structure User where
  record : Record := { className := Api.Path.userClass }
deriving Repr, BEq

namespace User

/-- The name by which the user logs in. -/
def username? (u : User) : Option String := u.record.getString? "username"

/-- The address of the user. -/
def email? (u : User) : Option String := u.record.getString? "email"

/-- The token of the user's session. -/
def sessionToken? (u : User) : Option String := u.record.getString? "sessionToken"

/-- Whether the user is saved and has a session. -/
def isAuthenticated (u : User) : Bool := u.sessionToken?.isSome && !u.record.isNew

/-- Set an attribute whose name is not reserved. -/
def setText (u : User) (key value : String) : User :=
  ⟨u.record.setAttribute key (.string value)⟩

/-- Set the name by which the user logs in. -/
def setUsername (u : User) (name : String) : User := u.setText "username" name

/-- Set the address of the user. -/
def setEmail (u : User) (email : String) : User := u.setText "email" email

/-- Set the password for the next attempt. -/
def setPassword (u : User) (password : String) : User := u.setText "password" password

/-- Remove the password. -/
def scrub (u : User) : User := ⟨u.record.remove "password"⟩

/-- Lay a server document over a user. -/
def merge (u : User) (document : Json) : User := ⟨u.record.merge document⟩

/-- The text of an attribute that an attempt needs. -/
def require (u : User) (key : String) : Except Error String :=
  match u.record.getString? key with
  | some value => if value = "" then .error (.missingField key) else .ok value
  | none => .error (.missingField key)

/-- A user who is about to log in. -/
def ofCredentials (username password : String) : User :=
  (({} : User).setUsername username).setPassword password

end User

end DocStore
