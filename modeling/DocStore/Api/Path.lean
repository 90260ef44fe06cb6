/-!
# Resource paths

Where resources lie below the root of the API. The objects of a class are at `classes/` and its name,
except that users and roles have paths of their own; one object is below its class.
-/

namespace DocStore.Api.Path

/-- The class of users. -/
def userClass : String := "_User"

/-- The class of roles. -/
def roleClass : String := "_Role"

/-- The path of all users. -/
def users : String := "users"

/-- The path of all roles. -/
def roles : String := "roles"

/-- The path of the user whose session asks. -/
def currentUser : String := "users/me"

/-- The path that exchanges credentials for a session. -/
def login : String := "login"

/-- The path that has a reset of a password mailed. -/
def passwordReset : String := "requestPasswordReset"

/-- The path of all objects of a class. -/
def ofClass (className : String) : String :=
  if className = userClass then users
  else if className = roleClass then roles
  else "classes/" ++ className

/-- The path of one object of a class. -/
def ofObject (className objectId : String) : String := ofClass className ++ "/" ++ objectId

end DocStore.Api.Path
