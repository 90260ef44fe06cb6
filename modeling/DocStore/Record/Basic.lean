import DocStore.Acl
import DocStore.Api.Path
import DocStore.Timestamp.Basic

/-!
# Records

A `Record` is the local image of one document of a class: its id once it has been saved, the times
that the server reported, its attributes in the order in which they were first set, and an access
control list if one was given.

Identity and times are not set by callers, so `Record.set?` refuses their names and that of the class
(`Record.reserved`).
-/

namespace DocStore

/-- The local image of one document. -/
@[ext]
structure Record where
  className : String
  objectId : Option String := none
  createdAt : Option Timestamp := none
  updatedAt : Option Timestamp := none
  attributes : Members Json := []
  acl : Option Acl := none
  /-- No two attributes have the same name. -/
  distinct : attributes.keys.Nodup := by exact Members.nodup_keys_nil
deriving Repr

namespace Record

instance : BEq Record where
  beq r s :=
    r.className == s.className && r.objectId == s.objectId && r.createdAt == s.createdAt &&
      r.updatedAt == s.updatedAt && r.attributes == s.attributes && r.acl == s.acl

/-- The names that are never attributes. -/
def reserved : List String := ["objectId", "createdAt", "updatedAt", "className"]

/-- Whether a record has not been saved yet. -/
def isNew (r : Record) : Bool := r.objectId.isNone

/-- The path of all objects of the record's class. -/
def classPath (r : Record) : String := Api.Path.ofClass r.className

/-- The path of the record, once it has an id. -/
def objectPath? (r : Record) : Option String := r.objectId.map (Api.Path.ofObject r.className)

/-- The value of an attribute. -/
def get? (r : Record) (key : String) : Option Json := r.attributes.get? key

/-- The value of an attribute that is a string. -/
def getString? (r : Record) (key : String) : Option String := (r.get? key).bind Json.asString?

/-- Set an attribute, whatever its name. -/
def setAttribute (r : Record) (key : String) (value : Json) : Record :=
  { r with
    attributes := r.attributes.insert key value
    distinct := Members.nodup_keys_insert r.distinct key value }

/-- Set an attribute, unless its name is reserved. -/
def set? (r : Record) (key : String) (value : Json) : Option Record :=
  if key ∈ reserved then none else some (r.setAttribute key value)

/-- Remove an attribute. -/
def remove (r : Record) (key : String) : Record :=
  { r with
    attributes := r.attributes.erase key
    distinct := Members.nodup_keys_erase r.distinct key }

/-- Ask the server to add an amount to an attribute at the next save. -/
def increment? (r : Record) (key : String) (amount : Int) : Option Record :=
  r.set? key (.object [("__op", .string "Increment"), ("amount", .int amount)])

/-- Ask the server to remove an attribute at the next save. -/
def deleteField? (r : Record) (key : String) : Option Record :=
  r.set? key (.object [("__op", .string "Delete")])

/-- Change the access control list, which is empty if there is none. -/
def modifyAcl (r : Record) (change : Acl → Acl) : Record :=
  { r with acl := some (change (r.acl.getD {})) }

/-- Equality up to the order of members in attributes. -/
def same (r s : Record) : Bool :=
  r.className = s.className && r.objectId = s.objectId && r.createdAt = s.createdAt &&
    r.updatedAt = s.updatedAt && Json.same (.object r.attributes) (.object s.attributes) &&
    r.acl = s.acl

theorem get?_of_set? {r s : Record} {key : String} {value : Json}
    (h : r.set? key value = some s) (key' : String) :
    s.get? key' = if key = key' then some value else r.get? key' := by
  unfold set? at h
  split at h
  · simp at h
  · simp only [Option.some.injEq] at h
    rw [← h, get?, get?, setAttribute, Members.get?_insert]

end Record

end DocStore
