import DocStore.Record.Basic

/-!
# References between records

A reference is the document `__type: Pointer` with the class and the id of a record; the id is missing
while the record is new. `Json.isPointer` tells references from other values by their tag alone, and
`Record.pointerKeys` lists the attributes that hold one.
-/

namespace DocStore

/-- Whether a value is a reference to a record. -/
def Json.isPointer (value : Json) : Bool :=
  (value.field? "__type").bind Json.asString? = some "Pointer"

namespace Record

/-- The reference to a record. -/
def pointer (r : Record) : Json :=
  .object <|
    ("__type", .string "Pointer") ::
      (if r.className = "" then [] else [("className", .string r.className)]) ++
      (match r.objectId with
        | some id => [("objectId", .string id)]
        | none => [])

/-- Set an attribute to a reference. -/
def setReference? (r : Record) (key : String) (other : Record) : Option Record :=
  r.set? key other.pointer

/-- The attributes that hold a reference, in order. -/
def pointerKeys (r : Record) : List String :=
  (r.attributes.filter fun entry => entry.2.isPointer).map Prod.fst

theorem isPointer_pointer (r : Record) : r.pointer.isPointer = true := by
  simp [pointer, Json.isPointer, Json.field?, Json.members?, Members.get?, Json.asString?]

end Record

end DocStore
