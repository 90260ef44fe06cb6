import DocStore.Json.Reader

/-!
# Reading values of known types

A `Reader` reads a value of a known type from JSON text, with a number of levels of nesting left. It
fails at the first place, in the order of the text, where the text is not JSON or not of the type:
`Problem.unsuitable` stands for the second, and a scalar of another type is still read to its end
before it is refused.

Records are read from objects, whose names are looked up in a list of fields, or from arrays that
hold the fields in order. A field may be absent unless it is required, and no name may come twice.
-/

namespace DocStore.Json

/-- A way to read a value, given the levels of nesting that are left. -/
abbrev Reader (α : Type) := Nat → Scan α

namespace Reader

/-- Refuse the value at the start of a text, which is of another type than the expected one. -/
def refuse {α : Type} : Scan α
  | [] => .error (.here .endOfValue [])
  | c :: s =>
    let unsuitable {β : Type} (read : Except Fault (β × List Char)) : Except Fault (α × List Char) :=
      read.bind fun (_, rest) => .error (.here .unsuitable rest)
    if c = 'n' then unsuitable ((word ['u', 'l', 'l'] s).map ((), ·))
    else if c = 't' then unsuitable ((word ['r', 'u', 'e'] s).map ((), ·))
    else if c = 'f' then unsuitable ((word ['a', 'l', 's', 'e'] s).map ((), ·))
    else if c = '-' then unsuitable (unsignedNumber .strict true s)
    else if c.isDigit then unsuitable (unsignedNumber .strict false (c :: s))
    else if c = '"' then unsuitable (stringRest .strict s)
    else if c = '[' ∨ c = '{' then .error (.here .unsuitable (c :: s))
    else .error (.next .valueExpected (c :: s))

/-- Any document. -/
def any : Reader Json := value .strict

/-- A string. -/
def string : Reader String := fun _ s =>
  match skipSpace s with
  | '"' :: s => stringRest .strict s
  | s => refuse s

/-- A boolean. -/
def bool : Reader Bool := fun _ s =>
  match skipSpace s with
  | 't' :: s => (word ['r', 'u', 'e'] s).map (true, ·)
  | 'f' :: s => (word ['a', 'l', 's', 'e'] s).map (false, ·)
  | s => refuse s

/-- A natural number below a bound. -/
def natBelow (bound : Nat) : Reader Nat := fun _ s =>
  let check (read : Except Fault (Number × List Char)) : Except Fault (Nat × List Char) :=
    read.bind fun (n, rest) =>
      match n with
      | .int n => if 0 ≤ n ∧ n < bound then .ok (n.toNat, rest) else .error (.here .unsuitable rest)
      | .double _ => .error (.here .unsuitable rest)
  match skipSpace s with
  | [] => refuse []
  | c :: s =>
    if c = '-' then check (unsignedNumber .strict true s)
    else if c.isDigit then check (unsignedNumber .strict false (c :: s))
    else refuse (c :: s)

/-- A value, or null for none. -/
def optional {α : Type} (reader : Reader α) : Reader (Option α) := fun levels s =>
  match skipSpace s with
  | 'n' :: s => (word ['u', 'l', 'l'] s).map (none, ·)
  | s => (reader levels s).map fun (x, s) => (some x, s)

/-- A value that has to pass a check. -/
def checked {α β : Type} (check : α → Option β) (reader : Reader α) : Reader β := fun levels s => do
  let (x, s) ← reader levels s
  match check x with
  | some y => return (y, s)
  | none => throw (.here .unsuitable s)

/-- One level down, unless no level is left. -/
def descend {α : Type} (reader : Reader α) : Reader α
  | 0, s => .error (.next .tooDeep s)
  | levels + 1, s => reader levels (s.drop 1)

/-- A list. -/
def list {α : Type} (reader : Reader α) : Reader (List α) := fun levels s =>
  match skipSpace s with
  | '[' :: s => descend (fun levels => elements (reader levels)) levels ('[' :: s)
  | s => refuse s

/-- The next element of an array, or `none` at its end; `first` tells whether none came before. -/
def nextElement {α : Type} (first : Bool) (scan : Scan α) : Scan (Option α) := fun s =>
  let some? (s : List Char) := (scan s).map fun (x, s) => (some x, s)
  match skipSpace s with
  | [] => .error (.here .endOfList [])
  | ']' :: s => .ok (none, ']' :: s)
  | ',' :: rest =>
    if first then some? (',' :: rest)
    else
      match skipSpace rest with
      | [] => .error (.here .endOfValue [])
      | ']' :: s => .error (.next .trailingComma (']' :: s))
      | s => some? s
  | s => if first then some? s else .error (.next .listSeparatorExpected s)

/-- The end of an array that may hold no further element. -/
def endElements {α : Type} (x : α) : Scan α := fun s =>
  match skipSpace s with
  | [] => .error (.here .endOfList [])
  | ']' :: s => .ok (x, s)
  | ',' :: s =>
    match skipSpace s with
    | ']' :: s => .error (.next .trailingComma (']' :: s))
    | s => .error (.next .trailingCharacters s)
  | s => .error (.next .trailingCharacters s)

/-- Two values in an array. -/
def pair {α β : Type} (left : Reader α) (right : Reader β) : Reader (α × β) := fun levels s =>
  match skipSpace s with
  | '[' :: s =>
    descend (fun levels s => do
      let (x?, s) ← nextElement true (left levels) s
      let some x := x? | throw (.here .unsuitable s)
      let (y?, s) ← nextElement false (right levels) s
      let some y := y? | throw (.here .unsuitable s)
      endElements (x, y) s) levels ('[' :: s)
  | s => refuse s

/-- A value named by a string, or by the only name of an object whose value is null. -/
def named {α : Type} (find : String → Option α) : Reader α := fun levels s =>
  let name : Scan α := fun s => do
    let (text, s) ← string levels s
    match find text with
    | some x => return (x, s)
    | none => throw (.here .unsuitable s)
  match skipSpace s with
  | [] => .error (.here .endOfValue [])
  | '"' :: s => name ('"' :: s)
  | '{' :: s =>
    descend (fun _ s => do
      let (x, s) ← name s
      let s ← colon s
      let s ←
        match skipSpace s with
        | 'n' :: s => word ['u', 'l', 'l'] s
        | s => (refuse s).map fun ((_ : Unit), s) => s
      match skipSpace s with
      | [] => throw (.here .endOfObject [])
      | '}' :: s => return (x, s)
      | s => throw (.here .valueExpected s)) levels ('{' :: s)
  | s => .error (.next .valueExpected s)

/-! ### Records -/

/-- A field of a record under construction. -/
structure Field (σ : Type) where
  name : String
  /-- Read the value and store it. -/
  store : σ → Reader σ
  /-- Whether the record cannot do without it. -/
  required : Bool := false

/-- A field whose value is read by a reader. -/
def field {σ α : Type} (name : String) (reader : Reader α) (put : σ → α → σ) : Field σ :=
  { name, store := fun x levels s => (reader levels s).map fun (v, s) => (put x v, s) }

/-- A field that the record cannot do without. -/
def requiredField {σ α : Type} (name : String) (reader : Reader α) (put : σ → α → σ) : Field σ :=
  { field name reader put with required := true }

/-- The fields of a record, and whether other names are passed over. -/
structure Fields (σ : Type) where
  fields : List (Field σ)
  others : Bool := true

/-- Pass over any value. -/
def passOver (s : List Char) : Except Fault (List Char) :=
  (value .lenient (s.length + 1) s).map Prod.snd

/-- The fields in order, up to the closing bracket. -/
def positional {σ : Type} (levels : Nat) : List (Field σ) → Bool → σ → Scan σ
  | [], _, x, s => endElements x s
  | f :: fs, first, x, s => do
    let (y?, rest) ← nextElement first (f.store x levels) s
    match y? with
    | some y => positional levels fs false y rest
    | none => if (f :: fs).any Field.required then throw (.here .unsuitable rest) else endElements x rest

/-- One member whose name's opening quote has been read; `seen` holds the names before it. -/
def keyedMember {σ : Type} (r : Fields σ) (levels : Nat) (seen : List String) (x : σ) :
    Scan (σ × List String) := fun s => do
  let (key, s) ← stringRest .strict s
  match r.fields.find? (fun f => f.name == key) with
  | none =>
    if r.others then
      let s ← colon s
      let s ← passOver s
      return ((x, seen), s)
    else throw (.here .unsuitable s)
  | some f =>
    if seen.contains key then throw (.here .unsuitable s)
    let s ← colon s
    let (x, s) ← f.store x levels s
    return ((x, key :: seen), s)

/-- The record, once all members have been read. -/
def complete {σ : Type} (r : Fields σ) (seen : List String) (x : σ) : Scan σ := fun s =>
  if r.fields.all (fun f => !f.required || seen.contains f.name) then .ok (x, s)
  else .error (.here .unsuitable s)

/-- The members after the first one, up to the closing brace. -/
def moreKeyed {σ : Type} (r : Fields σ) (levels : Nat) : Nat → List String → σ → Scan σ
  | 0, _, _, s => .error (.here .endOfObject s)
  | fuel + 1, seen, x, s =>
    match skipSpace s with
    | [] => .error (.here .endOfObject [])
    | '}' :: s => complete r seen x s
    | ',' :: s =>
      match skipSpace s with
      | [] => .error (.here .endOfValue [])
      | '"' :: s => do
        let ((x, seen), s) ← keyedMember r levels seen x s
        moreKeyed r levels fuel seen x s
      | '}' :: s => .error (.next .trailingComma ('}' :: s))
      | s => .error (.next .keyExpected s)
    | s => .error (.next .objectSeparatorExpected s)

/-- The members of an object whose opening brace has been read. -/
def keyed {σ : Type} (r : Fields σ) (levels : Nat) (x : σ) : Scan σ := fun s =>
  match skipSpace s with
  | [] => .error (.here .endOfObject [])
  | '}' :: s => complete r [] x s
  | '"' :: s => do
    let ((x, seen), s) ← keyedMember r levels [] x s
    moreKeyed r levels (s.length + 1) seen x s
  | s => .error (.next .keyExpected s)

/-- A record, starting from the values of its absent fields. -/
def record {σ : Type} (r : Fields σ) (initial : σ) : Reader σ := fun levels s =>
  match skipSpace s with
  | '[' :: s =>
    descend (fun levels => positional levels r.fields true initial) levels ('[' :: s)
  | '{' :: s => descend (fun levels => keyed r levels initial) levels ('{' :: s)
  | s => refuse s

/-- Read a whole text. -/
def read {α : Type} (reader : Reader α) (text : String) : Except ReadError α :=
  readAll (reader maxDepth) text

end Reader

end DocStore.Json
