import DocStore.User

/-!
# Sessions

The session that clients share: the active token and the user who is logged in. They begin and end
together; only the token can be replaced on its own.
-/

namespace DocStore

/-- The active token and the current user. -/
structure Session where
  token : Option String := none
  user : Option User := none
deriving Repr, BEq

namespace Session

/-- The session of a user who has just logged in. -/
def started (token : String) (user : User) : Session := ⟨some token, some user⟩

/-- No session. -/
def empty : Session := {}

/-- Replace the token and leave the user. -/
def setToken (s : Session) (token : Option String) : Session := { s with token }

end Session

end DocStore
