import DocStore.Double.Basic
import DocStore.Members
import DocStore.Power

/-!
# JSON documents

`Json` is a JSON document. A number is an integer or a binary floating point number, and the two are
never equal; an object lists its members in the order in which they were written.

The accessors (`field?`, `asString?`, `asBool?`, `asInt64?`, `asDouble?`) say `none` for a document
of another kind and never convert between kinds, except that an integer has a floating point value.
`Json.same` is equality up to the order of object members.
-/

namespace DocStore

/-- A JSON number. -/
inductive Number where
  | int (n : Int)
  | double (x : Double)
deriving DecidableEq, Repr

/-- Equality of numbers; an integer is never a floating point number. -/
def Number.same : Number → Number → Bool
  | .int m, .int n => m == n
  | .double x, .double y => x.same y
  | _, _ => false

/-- A JSON document. -/
inductive Json where
  | null
  | bool (b : Bool)
  | number (n : Number)
  | string (s : String)
  | array (elements : List Json)
  | object (members : List (String × Json))
deriving Repr, BEq

namespace Json

/-- An integer. -/
def int (n : Int) : Json := .number (.int n)

/-- A floating point number, or null for one that is not finite. -/
def real : Option Double → Json
  | some x => .number (.double x)
  | none => .null

/-- The members of an object. -/
def members? : Json → Option (Members Json)
  | .object members => some members
  | _ => none

/-- The value of an object's member. -/
def field? (value : Json) (key : String) : Option Json :=
  value.members?.bind fun members => members.get? key

/-- The text of a string. -/
def asString? : Json → Option String
  | .string s => some s
  | _ => none

/-- The value of a boolean. -/
def asBool? : Json → Option Bool
  | .bool b => some b
  | _ => none

/-- The value of an integer of 64 bits with sign. -/
def asInt64? : Json → Option Int
  | .number (.int n) => if -(twoTo 63 : Int) ≤ n ∧ n < twoTo 63 then some n else none
  | _ => none

/-- The floating point number nearest to a number. -/
def asDouble? : Json → Option Double
  | .number (.int n) => Double.ofInt n
  | .number (.double x) => some x
  | _ => none

mutual

/-- Equality up to the order of object members. -/
def same : Json → Json → Bool
  | .null, .null => true
  | .bool a, .bool b => a == b
  | .number m, .number n => m.same n
  | .string s, .string t => s == t
  | .array xs, .array ys => sameElements xs ys
  | .object ms, .object ns => ms.length == ns.length && sameMembers ms ns
  | _, _ => false

/-- Element by element. -/
def sameElements : List Json → List Json → Bool
  | [], [] => true
  | x :: xs, y :: ys => same x y && sameElements xs ys
  | _, _ => false

/-- Every member on the left has a partner of its name on the right. -/
def sameMembers : List (String × Json) → Members Json → Bool
  | [], _ => true
  | (key, x) :: ms, ns =>
    (match ns.get? key with
      | some y => same x y
      | none => false) && sameMembers ms ns

end

mutual

/-- How deeply arrays and objects are nested: 0 for a scalar. -/
def depth : Json → Nat
  | .array xs => depthElements xs + 1
  | .object ms => depthMembers ms + 1
  | _ => 0

/-- The greatest depth of an element. -/
def depthElements : List Json → Nat
  | [] => 0
  | x :: xs => max (depth x) (depthElements xs)

/-- The greatest depth of a member's value. -/
def depthMembers : List (String × Json) → Nat
  | [] => 0
  | (_, x) :: ms => max (depth x) (depthMembers ms)

end

end Json

end DocStore
