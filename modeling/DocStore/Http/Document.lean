import DocStore.Http.Message
import DocStore.Json.Typed
import DocStore.Power

/-!
# Messages as documents

The JSON form of requests and responses, for keeping them outside the program. A request leaves out
an empty query, an empty list of headers and a missing body, and what is left out reads back as
empty or missing. A body that is null is written, and reads back as missing.
-/

namespace DocStore.Http

/-- The document of a method. -/
def Method.toJson (m : Method) : Json := .string m.name

/-- The method that a document names: by a string, or by the only name of an object whose value is
null. -/
def Method.ofJson? : Json → Option Method
  | .string name => Method.ofName? name
  | .object [(name, .null)] => Method.ofName? name
  | _ => none

/-- A list of pairs as arrays of two strings. -/
def pairsToJson (pairs : List (String × String)) : Json :=
  .array (pairs.map fun p => .array [.string p.1, .string p.2])

/-- The document of a request. -/
def Request.toJson (r : Request) : Json :=
  .object <|
    [("method", r.method.toJson), ("url", .string r.url)] ++
      (if r.query.isEmpty then [] else [("query", pairsToJson r.query)]) ++
      (if r.headers.isEmpty then [] else [("headers", pairsToJson r.headers)]) ++
      (match r.body with
        | some body => [("body", body)]
        | none => [])

/-- The document of a response. -/
def Response.toJson (r : Response) : Json :=
  .object [("status", .int r.status), ("body_text", .string r.body)]

open Json (Reader)

/-- A method, by its name. -/
def Method.reader : Reader Method := Reader.named Method.ofName?

/-- A list of pairs of strings. -/
def pairsReader : Reader (List (String × String)) := Reader.list (.pair .string .string)

/-- A request; whatever is missing has its default. -/
def Request.reader : Reader Request :=
  Reader.record
    ⟨[Reader.field "method" Method.reader fun r method => { r with method },
      Reader.field "url" .string fun r url => { r with url },
      Reader.field "query" pairsReader fun r query => { r with query },
      Reader.field "headers" pairsReader fun r headers => { r with headers },
      Reader.field "body" (.optional .any) fun r body => { r with body }], true⟩
    {}

/-- The bound of a status. -/
def statusBound : Nat := twoTo 16

/-- A response; only the body may be missing. -/
def Response.reader : Reader Response :=
  Reader.record
    ⟨[Reader.requiredField "status" (.natBelow statusBound) fun r status => { r with status },
      Reader.field "body_text" .string fun r body => { r with body }], true⟩
    ⟨0, ""⟩

end DocStore.Http
