import DocStore.Json.Printer
import DocStore.Text.Quoted

/-!
# Conversion of documents

Two conversions that a reply goes through: `Json.asCount` to a natural of 64 bits and
`Json.asSequence` to a list of documents. A document of another kind, or a negative count, is a
`ConversionError` that names what was found and what was expected.
-/

namespace DocStore.Json

/-- What a conversion expects. -/
inductive Expectation where
  | count
  | sequence
deriving DecidableEq, Repr

/-- The wording of an expectation. -/
def Expectation.message : Expectation → String
  | .count => "u64"
  | .sequence => "a sequence"

/-- Why a document could not be converted. -/
inductive ConversionError where
  /-- A document of another kind. -/
  | kind (found : Json) (expected : Expectation)
  /-- A document of the right kind that is out of range. -/
  | range (found : Json) (expected : Expectation)
deriving Repr, BEq

/-- How a document is named in an error: by its kind, a scalar with its value. -/
def description : Json → String
  | .null => "null"
  | .bool b => "boolean `" ++ (if b then "true" else "false") ++ "`"
  | .number (.int n) => "integer `" ++ String.ofList (intChars n) ++ "`"
  | .number (.double x) => "floating point `" ++ String.ofList (x.text doubleLayout) ++ "`"
  | .string s => "string " ++ Text.quoted s
  | .array _ => "sequence"
  | .object _ => "map"

/-- The wording of a conversion error. -/
def ConversionError.message : ConversionError → String
  | .kind found expected =>
    "invalid type: " ++ found.description ++ ", expected " ++ expected.message
  | .range found expected =>
    "invalid value: " ++ found.description ++ ", expected " ++ expected.message

/-- A natural number. -/
def asCount : Json → Except ConversionError Nat
  | .number (.int n) =>
    if 0 ≤ n then .ok n.toNat else .error (.range (.number (.int n)) .count)
  | value => .error (.kind value .count)

/-- The elements of an array. -/
def asSequence : Json → Except ConversionError (List Json)
  | .array elements => .ok elements
  | value => .error (.kind value .sequence)

end DocStore.Json
