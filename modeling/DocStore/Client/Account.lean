import DocStore.Client.Object

/-!
# Logging in and out

An attempt to log in or sign up sends the credentials of a user without any session. The password is
removed from the user however the attempt ends; if it succeeds, the reply is laid over the user, and a
reply that left the user with a session token starts the session.

A token can be exchanged for its user (`Client.validate`), who becomes current too.
-/

namespace DocStore.Client

/-- Start the session of a user who has a token. -/
def capture (u : User) : Call Unit :=
  match u.sessionToken? with
  | some token => Call.change (.start token u)
  | none => return ()

/-- Send an attempt's request, and make the user current if it succeeds. -/
def attempt (c : Config) (request : Api.Request) (u : User) : Call (Outcome × User) := do
  match ← execute c request with
  | .error e => return (.error e, u.scrub)
  | .ok reply =>
    let u := u.scrub.merge reply
    capture u
    return (.ok (), u.scrub)

/-- The texts without which an attempt is not made. -/
def credentials (u : User) : Except Error (String × String) := do
  let username ← u.require "username"
  let password ← u.require "password"
  return (username, password)

/-- The request to log in. -/
def loginRequest (c : Config) (username password : String) : Api.Request :=
  { method := .get
    path := Api.Path.login
    parameters := [("username", username), ("password", password)]
    revocable := c.revocableSessions
    anonymous := true }

/-- The request to sign up. -/
def signUpRequest (c : Config) (u : User) : Api.Request :=
  { method := .post
    path := Api.Path.users
    body := some u.record.body
    revocable := c.revocableSessions
    anonymous := true }

/-- Log in with the credentials that a user holds. -/
def logIn (c : Config) : Operation User := fun u =>
  match credentials u with
  | .error e => .done (.error e, u.scrub)
  | .ok (username, password) => attempt c (loginRequest c username password) u

/-- Create a user on the server and make it current. -/
def signUp (c : Config) : Operation User := fun u =>
  match credentials u with
  | .error e => .done (.error e, u.scrub)
  | .ok _ => attempt c (signUpRequest c u) u

/-- Log in with a name and a password. -/
def login (c : Config) (username password : String) : Call (Except Error User) := do
  let (outcome, u) ← logIn c (User.ofCredentials username password)
  return outcome.map fun _ => u

/-- The user that a reply describes, with a token if the reply has none. -/
def validatedUser (token : String) (reply : Json) : User :=
  let u := ({} : User).merge reply
  if u.sessionToken?.isSome then u else u.setText "sessionToken" token

/-- Exchange a session token for its user, who becomes current. -/
def validate (c : Config) (token : String) : Call (Except Error User) := do
  if token = "" then return .error (.missingField "sessionToken")
  match ← execute c { method := .get, path := Api.Path.currentUser, sessionToken := some token } with
  | .error e => return .error e
  | .ok reply =>
    let u := validatedUser token reply
    capture u
    return .ok u

/-- Have a link mailed by which the password can be reset. -/
def requestPasswordReset (c : Config) (email : String) : Call Outcome := do
  if email = "" then return .error (.missingField "email")
  let body := Json.object [("email", .string email)]
  return (← execute c { method := .post, path := Api.Path.passwordReset, body := some body }).map
    fun _ => ()

/-- Have a link mailed to the address that a user holds. -/
def resetPassword (c : Config) : Operation User := fun u => do
  return (← requestPasswordReset c (u.email?.getD ""), u)

/-- Forget the session. -/
def logout : Call Unit := Call.change .clear

end DocStore.Client
