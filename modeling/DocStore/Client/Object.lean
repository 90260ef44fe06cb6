import DocStore.Api.Reply
import DocStore.Api.Request
import DocStore.Client.Call
import DocStore.Query.Basic
import DocStore.Record.Document
import DocStore.Record.Reference
import DocStore.Role

/-!
# Operations on objects

Saving, loading, changing and deleting one object, and running a query. Each operation sends at most
one request and gives back its outcome and its target: merged with the reply if all went well, and as
it was otherwise (`Client.exchange`).

The targets are records and what is made of a record, `Stored`.
-/

namespace DocStore

/-- Types whose values are stored as a record. -/
class Stored (τ : Type) where
  record : τ → Record
  /-- The value with another record. -/
  withRecord : τ → Record → τ
  record_withRecord : ∀ target r, record (withRecord target r) = r

instance : Stored Record := ⟨id, fun _ r => r, fun _ _ => rfl⟩

instance : Stored User := ⟨User.record, fun _ r => ⟨r⟩, fun _ _ => rfl⟩

instance : Stored Role := ⟨Role.record, fun _ r => ⟨r⟩, fun _ _ => rfl⟩

/-- What a client does with a target, with its outcome and the target after it. -/
abbrev Operation (τ : Type) := τ → Call (Outcome × τ)

namespace Client

variable {τ : Type}

/-- Send a request and interpret the reply. -/
def execute (c : Config) (request : Api.Request) : Call (Except Error Json) := do
  let active ← Call.token
  match request.resolve c active with
  | .error e => return .error e
  | .ok request =>
    match ← Call.request request with
    | .error e => return .error (.transport e)
    | .ok response => return Api.interpret response

/-- Send a request and take in the reply; after an error the target is as it was. -/
def exchange (c : Config) (request : Api.Request) (target : τ) (receive : Json → Except Error τ) :
    Call (Outcome × τ) := do
  match (← execute c request).bind receive with
  | .error e => return (.error e, target)
  | .ok target => return (.ok (), target)

variable [Stored τ]

/-- Lay a reply over the record of a target. -/
def mergeReply (target : τ) (reply : Json) : Except Error τ :=
  .ok (Stored.withRecord target ((Stored.record target).merge reply))

/-- An operation on a target that has been saved, given the path of its object. -/
def onSaved (operation : String → Operation τ) : Operation τ := fun target =>
  match (Stored.record target).objectPath? with
  | some path => operation path target
  | none => .done (.error .missingObjectId, target)

/-- The request that creates a record or writes it back. -/
def saveRequest (r : Record) : Api.Request :=
  match r.objectPath? with
  | some path => { method := .put, path, body := some r.body }
  | none => { method := .post, path := r.classPath, body := some r.body }

/-- The names of the references to expand, as one parameter. -/
def expandParameter (r : Record) : List (String × String) :=
  let names := String.intercalate "," r.pointerKeys
  if names = "" then [] else [("include", names)]

/-- Create a record or write it back. -/
def save (c : Config) : Operation τ := fun target =>
  exchange c (saveRequest (Stored.record target)) target (mergeReply target)

/-- Load a record, and expand every attribute that holds a reference. -/
def fetch (c : Config) : Operation τ := onSaved fun path target =>
  exchange c { method := .get, path, parameters := expandParameter (Stored.record target) } target
    (mergeReply target)

/-- Load a record without expanding references. -/
def refresh (c : Config) : Operation τ := onSaved fun path target =>
  exchange c { method := .get, path } target (mergeReply target)

/-- Delete the stored object; the record stays as it is. -/
def delete (c : Config) : Operation τ := onSaved fun path target =>
  exchange c { method := .delete, path } target fun _ => .ok target

/-- Write some attributes only. -/
def update (c : Config) (changes : Json) : Operation τ := onSaved fun path target =>
  exchange c { method := .put, path, body := some changes } target (mergeReply target)

/-- Run a query. -/
def find (c : Config) : Operation Query := fun q => exchange c q.request q q.receive

end Client

end DocStore
