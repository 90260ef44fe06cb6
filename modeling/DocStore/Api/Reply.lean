import DocStore.Error
import DocStore.Text.Blank

/-!
# Replies of the API

`Api.interpret` turns a response into a document or the error that it stands for. A document with a
member `error` reports an error whatever the status; otherwise a status that is no success is one by
itself. A blank body of a successful response is the empty document.
-/

namespace DocStore.Api

/-- The wording in an error document: a text as it is, any other value as it is written. -/
def errorText : Json → String
  | .string message => message
  | value => value.compact

/-- The error that a document with the value `error` reports. -/
def reportedError (status : Nat) (document error : Json) : Error :=
  .api (((document.field? "code").bind Json.asInt64?).getD status) (errorText error)

/-- The document or error that a response stands for. -/
def interpret (r : Http.Response) : Except Error Json :=
  if (Text.trim r.body.toList).isEmpty then
    if r.isSuccess then .ok (.object []) else .error (.http r.status "")
  else
    match Json.parse r.body with
    | .error e =>
      if r.isSuccess then .error (.invalidReply (.unreadable e)) else .error (.http r.status r.body)
    | .ok document =>
      match document.field? "error" with
      | some error => .error (reportedError r.status document error)
      | none => if r.isSuccess then .ok document else .error (.http r.status r.body)

end DocStore.Api
