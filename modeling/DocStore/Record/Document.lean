import DocStore.Record.Basic

/-!
# Documents of records

Two documents are made of a record. `Record.body` is what a save sends: the attributes without the
session token, and the access control list. `Record.document` is what is shown: id and times first,
with three digits of the seconds' fraction, then all attributes and the access control list.
-/

namespace DocStore.Record

/-- A member whose value may be missing. -/
def optionalMember (key : String) (value : Option Json) : List (String × Json) :=
  match value with
  | some value => [(key, value)]
  | none => []

/-- The members of a document with the access control list put in. -/
def withAcl (r : Record) (entries : Members Json) : Members Json :=
  match r.acl with
  | some acl => entries.insert "ACL" acl.toJson
  | none => entries

theorem get?_withAcl (r : Record) (entries : Members Json) (key : String) :
    (r.withAcl entries).get? key =
      if key = "ACL" then (r.acl.map Acl.toJson).or (entries.get? key) else entries.get? key := by
  unfold withAcl
  cases r.acl with
  | none => simp
  | some acl =>
    rw [Members.get?_insert]
    by_cases hkey : key = "ACL"
    · simp [hkey]
    · rw [if_neg (Ne.symm hkey), if_neg hkey]

/-- What a save sends. -/
def body (r : Record) : Json :=
  .object (r.withAcl (r.attributes.filter fun entry => entry.1 ≠ "sessionToken"))

/-- How times are shown. -/
def timeToJson (t : Timestamp) : Json := .string (t.text 3)

/-- The members that show id and times. -/
def metadata (r : Record) : Members Json :=
  optionalMember "objectId" (r.objectId.map Json.string) ++
    optionalMember "createdAt" (r.createdAt.map timeToJson) ++
    optionalMember "updatedAt" (r.updatedAt.map timeToJson)

/-- The record as the server would show it. -/
def document (r : Record) : Json := .object (r.withAcl (r.metadata.overlay r.attributes))

end DocStore.Record
