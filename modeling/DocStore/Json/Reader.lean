import DocStore.Json.Scan

/-!
# Reading JSON documents

`Json.parse` reads a whole text as one document. Arrays and objects may be nested to
`Json.maxDepth` levels; a repeated name keeps its first place and its last value.

The reader descends with the levels that are left, so that it is recursive on that number; inside a
level, elements and members are read one after the other, and the text left bounds how many there
are.
-/

namespace DocStore.Json

/-- The elements after the first one, up to the closing bracket. -/
def moreElements {α : Type} (element : Scan α) : Nat → Scan (List α)
  | 0, s => .error (.here .endOfList s)
  | fuel + 1, s =>
    match skipSpace s with
    | [] => .error (.here .endOfList [])
    | ']' :: s => .ok ([], s)
    | ',' :: s =>
      match skipSpace s with
      | [] => .error (.here .endOfValue [])
      | ']' :: s => .error (.next .trailingComma (']' :: s))
      | s => do
        let (x, s) ← element s
        let (xs, s) ← moreElements element fuel s
        return (x :: xs, s)
    | s => .error (.next .listSeparatorExpected s)

/-- The elements of an array whose opening bracket has been read. -/
def elements {α : Type} (element : Scan α) : Scan (List α) := fun s =>
  match skipSpace s with
  | [] => .error (.here .endOfList [])
  | ']' :: s => .ok ([], s)
  | s => do
    let (x, s) ← element s
    let (xs, s) ← moreElements element (s.length + 1) s
    return (x :: xs, s)

/-- The text after the colon between a name and its value. -/
def colon (s : List Char) : Except Fault (List Char) :=
  match skipSpace s with
  | [] => .error (.here .endOfObject [])
  | c :: s => if c = ':' then .ok s else .error (.next .colonExpected (c :: s))

/-- A member whose name's opening quote has been read. -/
def member {α : Type} (rules : Rules) (value : Scan α) : Scan (String × α) := fun s => do
  let (key, s) ← stringRest rules s
  let s ← colon s
  let (x, s) ← value s
  return ((key, x), s)

/-- The members after the first one, up to the closing brace. -/
def moreMembers {α : Type} (rules : Rules) (value : Scan α) : Nat → Scan (List (String × α))
  | 0, s => .error (.here .endOfObject s)
  | fuel + 1, s =>
    match skipSpace s with
    | [] => .error (.here .endOfObject [])
    | '}' :: s => .ok ([], s)
    | ',' :: s =>
      match skipSpace s with
      | [] => .error (.here .endOfValue [])
      | '"' :: s => do
        let (m, s) ← member rules value s
        let (ms, s) ← moreMembers rules value fuel s
        return (m :: ms, s)
      | '}' :: s => .error (.next .trailingComma ('}' :: s))
      | s => .error (.next .keyExpected s)
    | s => .error (.next .objectSeparatorExpected s)

/-- The members of an object whose opening brace has been read. -/
def members {α : Type} (rules : Rules) (value : Scan α) : Scan (List (String × α)) := fun s =>
  match skipSpace s with
  | [] => .error (.here .endOfObject [])
  | '}' :: s => .ok ([], s)
  | '"' :: s => do
    let (m, s) ← member rules value s
    let (ms, s) ← moreMembers rules value (s.length + 1) s
    return (m :: ms, s)
  | s => .error (.next .keyExpected s)

/-- A document, given how the documents inside it are read; `none` refuses to go deeper. -/
def valueWith (rules : Rules) (inner : Option (Scan Json)) : Scan Json := fun s =>
  match skipSpace s with
  | [] => .error (.here .endOfValue [])
  | c :: s =>
    if c = 'n' then (word ['u', 'l', 'l'] s).map (.null, ·)
    else if c = 't' then (word ['r', 'u', 'e'] s).map (.bool true, ·)
    else if c = 'f' then (word ['a', 'l', 's', 'e'] s).map (.bool false, ·)
    else if c = '-' then (unsignedNumber rules true s).map fun (n, s) => (.number n, s)
    else if c.isDigit then (unsignedNumber rules false (c :: s)).map fun (n, s) => (.number n, s)
    else if c = '"' then (stringRest rules s).map fun (t, s) => (.string t, s)
    else if c = '[' then
      match inner with
      | some inner => (elements inner s).map fun (xs, s) => (.array xs, s)
      | none => .error (.next .tooDeep (c :: s))
    else if c = '{' then
      match inner with
      | some inner => (members rules inner s).map fun (ms, s) => (.object (Members.ofList ms), s)
      | none => .error (.next .tooDeep (c :: s))
    else .error (.next .valueExpected (c :: s))

/-- A document with at most a number of levels. -/
def value (rules : Rules) : Nat → Scan Json
  | 0 => valueWith rules none
  | levels + 1 => valueWith rules (some (value rules levels))

/-- How many levels a document may have. -/
def maxDepth : Nat := 127

/-- The end of the text after a document. -/
def finish {α : Type} (x : α) (rest : List Char) : Except Fault α :=
  match skipSpace rest with
  | [] => .ok x
  | s => .error (.next .trailingCharacters s)

/-- A problem and where in the text it shows. -/
structure ReadError where
  problem : Problem
  position : Position
deriving DecidableEq, Repr

/-- The wording of an error, with its place. -/
def ReadError.message (e : ReadError) : String :=
  e.problem.message ++ " at line " ++ toString e.position.line ++ " column " ++
    toString e.position.column

/-- Read a whole text. -/
def readAll {α : Type} (scan : Scan α) (text : String) : Except ReadError α :=
  let chars := text.toList
  match (scan chars).bind fun (x, rest) => finish x rest with
  | .ok x => .ok x
  | .error fault => .error ⟨fault.problem, Position.ofFault chars fault⟩

/-- Read a text as one document. -/
def parse (text : String) : Except ReadError Json := readAll (value .strict maxDepth) text

end DocStore.Json
