import DocStore.Record.Basic
import DocStore.Timestamp.Parser

/-!
# Merging server documents into records

`Record.merge` lays a document over a record, member by member in the document's order. Id, times and
access control list go to their own fields if they are well formed and leave them alone if not; the
class is fixed; every other member becomes the attribute of its name. Attributes that the document
does not name stay.
-/

namespace DocStore

/-- The timestamp in a document: a text, or the `iso` text of a document `__type: Date`. -/
def Json.asTimestamp? : Json → Option Timestamp
  | .string text => Timestamp.parse? text
  | .object entries =>
    if (Members.get? entries "__type").bind Json.asString? = some "Date" then
      ((Members.get? entries "iso").bind Json.asString?).bind Timestamp.parse?
    else none
  | _ => none

/-- The id in a document: a text that is not empty. -/
def Json.asObjectId? : Json → Option String
  | .string id => if id = "" then none else some id
  | _ => none

namespace Record

/-- Lay one member of a document over a record. -/
def mergeMember (r : Record) (key : String) (value : Json) : Record :=
  if key = "objectId" then { r with objectId := value.asObjectId? <|> r.objectId }
  else if key = "createdAt" then { r with createdAt := value.asTimestamp? <|> r.createdAt }
  else if key = "updatedAt" then { r with updatedAt := value.asTimestamp? <|> r.updatedAt }
  else if key = "className" then r
  else if key = "ACL" then { r with acl := Acl.ofJson? value <|> r.acl }
  else r.setAttribute key value

/-- Lay the members of a document over a record. -/
def mergeMembers (r : Record) (entries : List (String × Json)) : Record :=
  entries.foldl (fun r entry => r.mergeMember entry.1 entry.2) r

/-- Lay a document over a record; a document that is no object changes nothing. -/
def merge (r : Record) (document : Json) : Record :=
  match document with
  | .object entries => r.mergeMembers entries
  | _ => r

/-- The record of a class that a server document describes. -/
def ofDocument (className : String) (document : Json) : Record :=
  ({ className } : Record).merge document

theorem className_mergeMember (r : Record) (key : String) (value : Json) :
    (r.mergeMember key value).className = r.className := by
  unfold mergeMember
  repeat' split
  all_goals rfl

/-- A merge never changes the class. -/
theorem className_merge (r : Record) (document : Json) :
    (r.merge document).className = r.className := by
  cases document with
  | object entries =>
    simp only [merge, mergeMembers]
    induction entries generalizing r with
    | nil => rfl
    | cons entry entries ih => rw [List.foldl_cons, ih, className_mergeMember]
  | _ => rfl

end Record

end DocStore
