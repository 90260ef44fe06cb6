import DocStore.Http.Transport
import DocStore.Json.Printer

/-!
# Scripted servers

A `ScriptedServer` answers from a script: for each route a queue of responses, of which the last one
repeats. A route is a method and the path of the request's URL, or the whole URL where it cannot be
read. A request to no route gets the fallback response, or status 404 with an empty body. A script
may also make every request fail.

The server records every request that it is given, failing ones included.
-/

namespace DocStore.Http

/-- The response with a document as its body. -/
def Response.ofJson (status : Nat) (body : Json) : Response := ⟨status, body.compact⟩

/-- The response that reports an error by its code and message. -/
def Response.ofError (status : Nat) (code : Int) (message : String) : Response :=
  .ofJson status (.object [("code", .int code), ("error", .string message)])

/-- The responses that a script keeps for one method and path. -/
structure Route where
  method : Method
  path : String
  queue : List Response
deriving Repr

/-- A server that answers from a script. -/
structure ScriptedServer where
  routes : List Route := []
  fallback : Option Response := none
  /-- The error with which every request fails. -/
  failure : Option String := none
  /-- The requests so far, in order. -/
  recorded : List Request := []
deriving Repr

namespace Route

/-- Whether a route is that of a method and a path. -/
def matches? (route : Route) (method : Method) (path : String) : Bool :=
  route.method = method && route.path = path

/-- Add a response to the queue of a route, which is new if there is none. -/
def enqueue (method : Method) (path : String) (response : Response) : List Route → List Route
  | [] => [⟨method, path, [response]⟩]
  | route :: routes =>
    if route.matches? method path then { route with queue := route.queue ++ [response] } :: routes
    else route :: enqueue method path response routes

/-- The first response of a queue, and the queue after it; the last response stays. -/
def next? : List Response → Option (Response × List Response)
  | [] => none
  | [response] => some (response, [response])
  | response :: queue => some (response, queue)

/-- The next response of a route, and the routes after it. -/
def take? (method : Method) (path : String) : List Route → Option (Response × List Route)
  | [] => none
  | route :: routes =>
    if route.matches? method path then
      (next? route.queue).map fun (response, queue) => (response, { route with queue } :: routes)
    else (take? method path routes).map fun (response, routes) => (response, route :: routes)

end Route

namespace ScriptedServer

/-- The path by which a URL is routed. -/
def routePath (url : String) : String :=
  match Url.parse url with
  | .ok parsed => parsed.path.text
  | .error _ => url

/-- Script a response. -/
def respond (s : ScriptedServer) (method : Method) (path : String) (response : Response) :
    ScriptedServer :=
  { s with routes := Route.enqueue method path response s.routes }

/-- Forget the recorded requests. -/
def clearRecorded (s : ScriptedServer) : ScriptedServer := { s with recorded := [] }

/-- What a request brings, and the server after it. -/
def serve (request : Request) (s : ScriptedServer) :
    Except TransportError Response × ScriptedServer :=
  let s := { s with recorded := s.recorded ++ [request] }
  match s.failure with
  | some message => (.error (.other message), s)
  | none =>
    match Route.take? request.method (routePath request.url) s.routes with
    | some (response, routes) => (.ok response, { s with routes })
    | none => (.ok (s.fallback.getD ⟨404, ""⟩), s)

end ScriptedServer

end DocStore.Http
