import DocStore.Config.Basic

/-!
# Requests to the API

An `Api.Request` names a resource path and what to do with it. `Api.Request.resolve` binds it to a
server: the URL of the path, four standard headers, and up to two headers for the session.

A request carries at most one session token: its own if it has one, else the active one unless the
request is anonymous (`Api.Request.token?`).
-/

namespace DocStore.Api

/-- A request before it is bound to a server. -/
structure Request where
  method : Http.Method
  path : String
  parameters : List (String × String) := []
  body : Option Json := none
  /-- The token to send in place of the active one. -/
  sessionToken : Option String := none
  /-- Whether the session that the request starts should be revocable. -/
  revocable : Bool := false
  /-- Whether the active token must not be sent. -/
  anonymous : Bool := false
deriving Repr, BEq

/-- The header that carries a session token. -/
def sessionTokenHeader : String := "X-Parse-Session-Token"

/-- The header that asks for a revocable session. -/
def revocableSessionHeader : String := "X-Parse-Revocable-Session"

/-- The headers of every request. -/
def standardHeaders (c : Config) : List (String × String) :=
  [("X-Parse-Application-Id", c.applicationId), ("X-Parse-REST-API-Key", c.apiKey),
    ("Content-Type", "application/json"), ("User-Agent", "docsync-rust/0.1.0")]

namespace Request

/-- The session token that a request sends while a token is active. -/
def token? (r : Request) (active : Option String) : Option String :=
  r.sessionToken <|> if r.anonymous then none else active

/-- The headers that have to do with sessions. -/
def sessionHeaders (r : Request) (active : Option String) : List (String × String) :=
  (if r.revocable then [(revocableSessionHeader, "1")] else []) ++
    match r.token? active with
    | some token => [(sessionTokenHeader, token)]
    | none => []

/-- Bind a request to a server, while a session token may be active. -/
def resolve (r : Request) (c : Config) (active : Option String) : Except Error Http.Request :=
  (c.resourceUrl r.path).map fun url =>
    { method := r.method
      url
      query := r.parameters
      headers := standardHeaders c ++ r.sessionHeaders active
      body := r.body }

end Request

end DocStore.Api
