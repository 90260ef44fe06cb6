import DocStore.Query.Basic
import DocStore.Record.Reference

/-!
# Filters

A `Filter` is a document of constraints, one for each field, in the order in which the fields were
first constrained. A new constraint on a field replaces the earlier one in place.

`Filter.require` writes an operator and its operand; equality is the bare value, and membership in a
relation of an object is a constraint on the whole query, under a name of its own.
-/

namespace DocStore

/-- Constraints by field. -/
structure Filter where
  constraints : Members Json := []
deriving Repr, BEq

namespace Filter

/-- The operators that constrain a field. -/
inductive Operator where
  | less
  | lessOrEqual
  | greater
  | greaterOrEqual
  | notEqual
  | oneOf
  | noneOf
  | allOf
  | present
  | selected
  | notSelected
deriving DecidableEq, Repr

/-- The name of an operator. -/
def Operator.name : Operator → String
  | less => "$lt"
  | lessOrEqual => "$lte"
  | greater => "$gt"
  | greaterOrEqual => "$gte"
  | notEqual => "$ne"
  | oneOf => "$in"
  | noneOf => "$nin"
  | allOf => "$all"
  | present => "$exists"
  | selected => "$select"
  | notSelected => "$dontSelect"

/-- The name under which membership in a relation is asked for. -/
def relationKey : String := "$relatedTo"

/-- Constrain a field by an operator. -/
def require (f : Filter) (key : String) (operator : Operator) (operand : Json) : Filter :=
  ⟨f.constraints.insert key (.object [(operator.name, operand)])⟩

/-- Require a field to equal a value. -/
def equal (f : Filter) (key : String) (value : Json) : Filter := ⟨f.constraints.insert key value⟩

/-- The operand that names a field of a query's results. -/
def subquery (q : Query) (key : String) : Json :=
  let filter :=
    match q.filter with
    | some filter => [("where", filter)]
    | none => []
  .object [("query", .object (("className", .string q.className) :: filter)), ("key", .string key)]

/-- Require a field to equal a field of some result of a query, or of none. -/
def select (f : Filter) (key : String) (q : Query) (queryKey : String) (negated : Bool) : Filter :=
  f.require key (if negated then .notSelected else .selected) (subquery q queryKey)

/-- Require the results to be members of an object's relation. -/
def relatedTo (f : Filter) (object : Record) (relation : String) : Filter :=
  ⟨f.constraints.insert relationKey
    (.object [("object", object.pointer), ("key", .string relation)])⟩

/-- Drop the constraint on a field. -/
def remove (f : Filter) (key : String) : Filter := ⟨f.constraints.erase key⟩

/-- Whether nothing is constrained. -/
def isEmpty (f : Filter) : Bool := f.constraints.isEmpty

/-- The document that a query sends. -/
def toJson (f : Filter) : Json := .object f.constraints

end Filter

/-- Filter a query. -/
def Query.setFilter (q : Query) (f : Filter) : Query := { q with filter := some f.toJson }

end DocStore
