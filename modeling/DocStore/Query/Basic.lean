import DocStore.Api.Request
import DocStore.Record.Merge

/-!
# Queries

A `Query` asks for the objects of one class that pass a filter, or only for their number, and holds
what the last run found. `Query.request` says what was asked: options that are unset (a limit or skip
of 0, an empty text) are left out. `Query.receive` takes in the reply, all of it or nothing.
-/

namespace DocStore

/-- A query over one class, and what it found. -/
structure Query where
  className : String
  filter : Option Json := none
  /-- The greatest number of results; 0 leaves it to the server. -/
  limit : Nat := 0
  /-- The number of results to pass over. -/
  skip : Nat := 0
  /-- The fields to return, separated by commas; without any, all of them. -/
  keys : Option String := none
  order : Option String := none
  /-- The references to expand, separated by commas. -/
  expand : Option String := none
  /-- Whether only the number of results is asked for. -/
  count : Bool := false
  results : List Record := []
  size : Nat := 0
deriving Repr, BEq

namespace Query

/-- The path that is asked. -/
def path (q : Query) : String := Api.Path.ofClass q.className

/-- A text that counts as unset when it is empty. -/
def textOption (text : String) : Option String := if text = "" then none else some text

/-- Choose the fields to return. -/
def setKeys (q : Query) (keys : String) : Query := { q with keys := textOption keys }

/-- Choose the order of the results. -/
def setOrder (q : Query) (order : String) : Query := { q with order := textOption order }

/-- Choose the references to expand. -/
def setExpand (q : Query) (names : String) : Query := { q with expand := textOption names }

/-- The results, and the query without them. -/
def takeResults (q : Query) : List Record × Query := (q.results, { q with results := [], size := 0 })

/-- A parameter whose value may be missing. -/
def parameter (name : String) (value : Option String) : List (String × String) :=
  match value with
  | some value => [(name, value)]
  | none => []

/-- A number that counts as unset when it is 0. -/
def numberOption (n : Nat) : Option String := if n = 0 then none else some (toString n)

/-- What is asked. -/
def parameters (q : Query) : List (String × String) :=
  parameter "where" (q.filter.map Json.compact) ++ parameter "limit" (numberOption q.limit) ++
    parameter "skip" (numberOption q.skip) ++ parameter "keys" q.keys ++
    parameter "order" q.order ++ parameter "include" q.expand ++
    parameter "count" (if q.count then some "1" else none)

/-- The request that runs the query. -/
def request (q : Query) : Api.Request := { method := .get, path := q.path, parameters := q.parameters }

/-- Take in a count. -/
def receiveCount (q : Query) (reply : Json) : Except Json.ConversionError Query := do
  let size ← ((reply.field? "count").getD .null).asCount
  return { q with results := [], size }

/-- Take in results. -/
def receiveResults (q : Query) (reply : Json) : Except Json.ConversionError Query := do
  let documents ← ((reply.field? "results").getD .null).asSequence
  return { q with results := documents.map (Record.ofDocument q.className), size := documents.length }

/-- Take in a reply. -/
def receive (q : Query) (reply : Json) : Except Error Query :=
  match if q.count then q.receiveCount reply else q.receiveResults reply with
  | .ok q => .ok q
  | .error e => .error (.invalidReply (.unexpected e))

end Query

end DocStore
