import DocStore.Json.Basic

/-!
# HTTP messages

A `Request` is fully resolved: method, absolute URL, query parameters, headers and an optional JSON
document as its body. Parameters and headers are lists, so that their order and repeated names
survive. A `Response` is a status and the text of the body.
-/

namespace DocStore.Http

/-- The methods that requests use. -/
inductive Method where
  | get
  | post
  | put
  | delete
deriving DecidableEq, Repr

/-- The name of a method. -/
def Method.name : Method → String
  | get => "GET"
  | post => "POST"
  | put => "PUT"
  | delete => "DELETE"

/-- All methods. -/
def Method.all : List Method := [.get, .post, .put, .delete]

/-- The method of a name. -/
def Method.ofName? (name : String) : Option Method := Method.all.find? (·.name = name)

theorem Method.ofName?_name (m : Method) : Method.ofName? m.name = some m := by
  cases m <;> rfl

/-- A request to a server. -/
structure Request where
  method : Method := .get
  /-- The absolute URL, without the query parameters. -/
  url : String := ""
  /-- Query parameters in order. -/
  query : List (String × String) := []
  /-- Headers in order. -/
  headers : List (String × String) := []
  body : Option Json := none
deriving Repr, BEq

/-- Whether two texts differ at most in the case of ASCII letters. -/
def sameIgnoringCase (a b : String) : Bool :=
  a.toList.map Char.toLower = b.toList.map Char.toLower

namespace Request

/-- The first header of a name, whose case does not matter. -/
def header? (r : Request) (name : String) : Option String :=
  (r.headers.find? fun h => sameIgnoringCase h.1 name).map Prod.snd

/-- The first query parameter of a name. -/
def parameter? (r : Request) (name : String) : Option String :=
  (r.query.find? fun p => p.1 = name).map Prod.snd

end Request

/-- The reply of a server. -/
structure Response where
  status : Nat
  body : String := ""
deriving DecidableEq, Repr

namespace Response

/-- Whether the request succeeded. -/
def isSuccess (r : Response) : Bool := 200 ≤ r.status && r.status < 300

/-- Whether the request was at fault. -/
def isClientError (r : Response) : Bool := 400 ≤ r.status && r.status < 500

/-- Whether the server was at fault. -/
def isServerError (r : Response) : Bool := 500 ≤ r.status && r.status < 600

end Response

end DocStore.Http
