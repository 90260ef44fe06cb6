import DocStore.Http.Transport
import DocStore.Json.Conversion
import DocStore.Json.Reader

/-!
# Errors of client operations

An `Error` is a cause. `Error.message` words it, and `Error.kind?` sorts the causes: a precondition
failed before anything was sent, the server was not reached or did not answer with a document, or the
server's answer itself is a refusal or unusable. A URL that cannot be built belongs to no kind.
-/

namespace DocStore

/-- Why a reply could not be used. -/
inductive InvalidReply where
  /-- The body is no JSON document. -/
  | unreadable (error : Json.ReadError)
  /-- The document lacks what was asked for. -/
  | unexpected (error : Json.ConversionError)
deriving Repr, BEq

/-- The wording of what is wrong with a reply. -/
def InvalidReply.message : InvalidReply → String
  | unreadable error => error.message
  | unexpected error => error.message

/-- Why an operation failed. -/
inductive Error where
  | missingObjectId
  | missingField (field : String)
  | invalidField (field reason : String)
  | transport (error : Http.TransportError)
  /-- A status that is no success, without an error document. -/
  | http (status : Nat) (body : String)
  | invalidReply (reply : InvalidReply)
  /-- An error document. -/
  | api (code : Int) (message : String)
  | config (message : String)
  | url (error : UrlError)
deriving Repr, BEq

/-- The kinds of errors. -/
inductive ErrorKind where
  | precondition
  | transport
  | protocol
deriving DecidableEq, Repr

namespace Error

/-- The wording of an error. -/
def message : Error → String
  | missingObjectId => "object has no id"
  | missingField field => "missing required field: " ++ field
  | invalidField field reason => "invalid value for " ++ field ++ ": " ++ reason
  | transport error => "transport error: " ++ error.message
  | http status body => "HTTP " ++ toString status ++ ": " ++ body
  | invalidReply reply => "invalid response: " ++ reply.message
  | api code message => message ++ " (code " ++ toString code ++ ")"
  | config message => "configuration error: " ++ message
  | url error => "invalid URL: " ++ error.message

/-- The kind of an error. -/
def kind? : Error → Option ErrorKind
  | missingObjectId | missingField _ | invalidField .. | config _ => some .precondition
  | transport _ | http .. => some .transport
  | invalidReply _ | api .. => some .protocol
  | url _ => none

/-- The code that the server reported. -/
def code? : Error → Option Int
  | api code _ => some code
  | _ => none

end Error

/-- How an operation ended. -/
abbrev Outcome := Except Error Unit

end DocStore
