import DocStore.Double.Basic
import DocStore.Json.Basic
import DocStore.Power

/-!
# Scanning JSON text

The lexical level of reading JSON: blanks, literal words, strings and numbers, each a function from
the text that is left to a value and the rest. A failure is a `Fault`: what is wrong and how far the
text had been read when it showed.

Columns count bytes, so a fault holds the text left and how many bytes of it had been looked at;
`Position.ofFault` turns this into a line and a column.

`Rules` tells the two ways of reading apart: `Rules.strict` for values that are kept and
`Rules.lenient` for values that are passed over, where neither the range of a number nor the pairing
of surrogates matters.
-/

namespace DocStore.Json

/-- What can be wrong with a JSON text. -/
inductive Problem where
  | endOfValue
  | endOfList
  | endOfObject
  | endOfString
  | valueExpected
  | wordExpected
  | colonExpected
  | listSeparatorExpected
  | objectSeparatorExpected
  | keyExpected
  | trailingComma
  | trailingCharacters
  | invalidNumber
  | numberOutOfRange
  | invalidEscape
  | unfinishedSurrogate
  | loneSurrogate
  | controlCharacter
  | tooDeep
  /-- The text is JSON so far, but not of the kind that is read. -/
  | unsuitable
deriving DecidableEq, Repr

/-- The three classes of problems. -/
inductive Category where
  | syntactic
  | data
  | endOfText
deriving DecidableEq, Repr

namespace Problem

/-- The class of a problem. -/
def category : Problem → Category
  | endOfValue | endOfList | endOfObject | endOfString => .endOfText
  | unsuitable => .data
  | _ => .syntactic

/-- The wording of a problem. -/
def message : Problem → String
  | endOfValue => "EOF while parsing a value"
  | endOfList => "EOF while parsing a list"
  | endOfObject => "EOF while parsing an object"
  | endOfString => "EOF while parsing a string"
  | valueExpected => "expected value"
  | wordExpected => "expected ident"
  | colonExpected => "expected `:`"
  | listSeparatorExpected => "expected `,` or `]`"
  | objectSeparatorExpected => "expected `,` or `\x7d`"
  | keyExpected => "key must be a string"
  | trailingComma => "trailing comma"
  | trailingCharacters => "trailing characters"
  | invalidNumber => "invalid number"
  | numberOutOfRange => "number out of range"
  | invalidEscape => "invalid escape"
  | unfinishedSurrogate => "unexpected end of hex escape"
  | loneSurrogate => "lone leading surrogate in hex escape"
  | controlCharacter => "control character (\\u0000-\\u001F) found while parsing a string"
  | tooDeep => "recursion limit exceeded"
  | unsuitable => "value of another kind expected"

end Problem

/-- A problem, the text that was left, and how many bytes of it had been looked at. -/
structure Fault where
  problem : Problem
  rest : List Char
  ahead : Nat
deriving DecidableEq, Repr

/-- A step of reading: from the text that is left to a value and the rest. -/
abbrev Scan (α : Type) := List Char → Except Fault (α × List Char)

/-- A fault at the next character. -/
def Fault.next (problem : Problem) (rest : List Char) : Fault := ⟨problem, rest, 1⟩

/-- A fault before the next character. -/
def Fault.here (problem : Problem) (rest : List Char) : Fault := ⟨problem, rest, 0⟩

/-- The number of bytes of a text. -/
def byteCount : List Char → Nat
  | [] => 0
  | c :: s => c.utf8Size + byteCount s

/-- A place in a text; columns count bytes. -/
structure Position where
  line : Nat
  column : Nat
deriving DecidableEq, Repr

/-- The place a number of bytes further on. -/
def Position.advance (p : Position) : Nat → List Char → Position
  | _, [] => p
  | n, c :: s =>
    if n < c.utf8Size then { p with column := p.column + n }
    else if c = '\n' then Position.advance ⟨p.line + 1, 0⟩ (n - 1) s
    else Position.advance { p with column := p.column + c.utf8Size } (n - c.utf8Size) s

/-- Where in a text a fault shows. -/
def Position.ofFault (text : List Char) (fault : Fault) : Position :=
  let left := byteCount fault.rest
  Position.advance ⟨1, 0⟩ (byteCount text - left + min fault.ahead left) text

/-- How exactly values are checked while they are read. -/
structure Rules where
  /-- Whether numbers have to be finite. -/
  finite : Bool
  /-- Whether surrogates have to come in pairs. -/
  paired : Bool
  /-- What is said of a number that the end of the text cuts off. -/
  cutNumber : Problem

/-- The rules for values that are kept. -/
def Rules.strict : Rules := ⟨true, true, .endOfValue⟩

/-- The rules for values that are passed over. -/
def Rules.lenient : Rules := ⟨false, false, .invalidNumber⟩

/-! ### Blanks and words -/

/-- The blanks between the parts of a document. -/
def isSpace (c : Char) : Bool := c = ' ' || c = '\n' || c = '\t' || c = '\r'

/-- The text after the blanks at its start. -/
def skipSpace (s : List Char) : List Char := s.dropWhile isSpace

/-- The text after a word. -/
def word : List Char → List Char → Except Fault (List Char)
  | [], s => .ok s
  | _ :: _, [] => .error (.here .endOfValue [])
  | w :: ws, c :: s => if c = w then word ws s else .error (.next .wordExpected (c :: s))

/-! ### Strings -/

/-- The value of a hexadecimal digit. -/
def hexValue? (c : Char) : Option Nat :=
  if '0' ≤ c ∧ c ≤ '9' then some (c.toNat - '0'.toNat)
  else if 'a' ≤ c ∧ c ≤ 'f' then some (c.toNat - 'a'.toNat + 10)
  else if 'A' ≤ c ∧ c ≤ 'F' then some (c.toNat - 'A'.toNat + 10)
  else none

/-- The value of four hexadecimal digits. -/
def hexUnit? (a b c d : Char) : Option Nat := do
  let a ← hexValue? a
  let b ← hexValue? b
  let c ← hexValue? c
  let d ← hexValue? d
  return ((a * 16 + b) * 16 + c) * 16 + d

/-- A text that has to start with four hexadecimal digits does not. -/
def badHexUnit (s : List Char) : Fault :=
  if byteCount s < 4 then .here .endOfString [] else ⟨.invalidEscape, s, 4⟩

/-- The unit written by four hexadecimal digits. -/
def hexUnit : Scan Nat
  | a :: b :: c :: d :: s =>
    match hexUnit? a b c d with
    | some n => .ok (n, s)
    | none => .error (badHexUnit (a :: b :: c :: d :: s))
  | s => .error (badHexUnit s)

/-- Whether a unit is the first of a surrogate pair. -/
def isLeading (n : Nat) : Bool := 0xD800 ≤ n && n ≤ 0xDBFF

/-- Whether a unit is the second of a surrogate pair. -/
def isTrailing (n : Nat) : Bool := 0xDC00 ≤ n && n ≤ 0xDFFF

/-- The text after a character that has to follow a leading surrogate. -/
def expectInPair (expected : Char) : List Char → Except Fault (List Char)
  | [] => .error (.here .endOfString [])
  | c :: s => if c = expected then .ok s else .error (.next .unfinishedSurrogate (c :: s))

/-- The character of a surrogate pair. -/
def pairChar (leading trailing : Nat) : Char :=
  Char.ofNat (0x10000 + (leading - 0xD800) * 0x400 + (trailing - 0xDC00))

/-- The character written by the text after `\u`. -/
def unicodeEscape (rules : Rules) : Scan Char := fun s => do
  let (n, s) ← hexUnit s
  if !rules.paired then return (Char.ofNat n, s)
  if isTrailing n then throw (.here .loneSurrogate s)
  if !isLeading n then return (Char.ofNat n, s)
  let s ← expectInPair '\\' s
  let s ← expectInPair 'u' s
  let (m, s) ← hexUnit s
  if isTrailing m then return (pairChar n m, s)
  throw (.here .loneSurrogate s)

/-- The character that a short escape stands for. -/
def shortEscape? (c : Char) : Option Char :=
  if c = '"' ∨ c = '\\' ∨ c = '/' then some c
  else if c = 'b' then some '\x08'
  else if c = 'f' then some '\x0C'
  else if c = 'n' then some '\n'
  else if c = 'r' then some '\r'
  else if c = 't' then some '\t'
  else none

/-- The character written by the text after a backslash. -/
def escape (rules : Rules) : Scan Char
  | [] => .error (.here .endOfString [])
  | c :: s =>
    match shortEscape? c with
    | some d => .ok (d, s)
    | none => if c = 'u' then unicodeEscape rules s else .error (.next .invalidEscape (c :: s))

/-- The characters of a string up to its closing quote; `fuel` bounds the text. -/
def stringBody (rules : Rules) : Nat → Scan (List Char)
  | 0, s => .error (.here .endOfString s)
  | _ + 1, [] => .error (.here .endOfString [])
  | fuel + 1, c :: s =>
    if c = '"' then .ok ([], s)
    else if c = '\\' then do
      let (d, s) ← escape rules s
      let (ds, s) ← stringBody rules fuel s
      return (d :: ds, s)
    else if c.toNat < 0x20 then .error (.next .controlCharacter (c :: s))
    else do
      let (ds, s) ← stringBody rules fuel s
      return (c :: ds, s)

/-- The string whose opening quote has been read. -/
def stringRest (rules : Rules) : Scan String := fun s => do
  let (cs, s) ← stringBody rules (s.length + 1) s
  return (String.ofList cs, s)

/-! ### Numbers -/

/-- The value of a decimal digit. -/
def digitValue (c : Char) : Nat := c.toNat - '0'.toNat

/-- The leading digits that fit in 64 bits, and how many digits follow them. -/
def leadingDigits (digits : List Char) : Nat × Nat :=
  digits.foldl
    (fun (value, dropped) c =>
      if dropped = 0 ∧ value * 10 + digitValue c < twoTo 64 then (value * 10 + digitValue c, dropped)
      else (value, dropped + 1))
    (0, 0)

/-- The digits after the point taken up while the value fits in 64 bits, and how many they are. -/
def takeFraction (value : Nat) (places : Nat) : List Char → Nat × Nat
  | [] => (value, places)
  | c :: digits =>
    if value * 10 + digitValue c < twoTo 64 then
      takeFraction (value * 10 + digitValue c) (places + 1) digits
    else (value, places)

/-- The power of ten as a floating point number; exact up to `10 ^ 22`. -/
def powerOfTen (k : Nat) : Double := (Double.ofNat (tenTo k)).getD (.zero false)

/-- A number times a power of ten: one rounding for each 308 places, the greatest power that there
is. The fuel bounds the number of divisions, after two of which nothing is left. -/
def scaled (x : Double) (exponent : Int) : Nat → Option Double
  | 0 => some (.zero x.negative)
  | fuel + 1 =>
    if exponent.natAbs ≤ 308 then
      if 0 ≤ exponent then x.mul (powerOfTen exponent.natAbs)
      else x.div (powerOfTen exponent.natAbs)
    else if x.isZero then some x
    else if 0 ≤ exponent then none
    else (x.div (powerOfTen 308)).bind fun y => scaled y (exponent + 308) fuel

/-- The floating point number `value · 10 ^ exponent`. -/
def double? (value : Nat) (exponent : Int) : Option Double :=
  (Double.ofNat value).bind fun x => scaled x exponent 4

/-- The number with a sign, or a fault if it is beyond the greatest one. -/
def signedDouble (rules : Rules) (negative : Bool) (value : Nat) (exponent : Int) : Scan Number :=
  fun s =>
    match double? value exponent with
    | some x => .ok (.double (x.withSign negative), s)
    | none =>
      if rules.finite then .error (.here .numberOutOfRange s)
      else .ok (.double (.zero negative), s)

/-- The digits at the start of a text, and the rest. -/
def spanDigits (s : List Char) : List Char × List Char :=
  (s.takeWhile Char.isDigit, s.dropWhile Char.isDigit)

/-- The exponents that are taken up digit by digit are below this bound. -/
def exponentBound : Nat := twoTo 31

/-- The value of an exponent's digits, or the text left after the digit that made it too great. -/
def exponentDigits (value : Nat) : List Char → Except (List Char) (Nat × List Char)
  | [] => .ok (value, [])
  | c :: s =>
    if c.isDigit then
      let value := value * 10 + digitValue c
      if exponentBound ≤ value then .error s else exponentDigits value s
    else .ok (value, c :: s)

/-- The number whose digits have been read up to its exponent. -/
def exponentPart (rules : Rules) (negative : Bool) (value : Nat) (start : Int) : Scan Number :=
  fun s =>
    let (down, s) :=
      match s with
      | '+' :: s => (false, s)
      | '-' :: s => (true, s)
      | s => (false, s)
    match s with
    | [] => .error (.here rules.cutNumber [])
    | c :: _ =>
      if !c.isDigit then .error (.next .invalidNumber s)
      else
        match exponentDigits 0 s with
        | .ok (e, s) => signedDouble rules negative value (if down then start - e else start + e) s
        | .error s =>
          if rules.finite && value != 0 && !down then .error (.here .numberOutOfRange s)
          else .ok (.double (.zero negative), s.dropWhile Char.isDigit)

/-- The number whose digits have been read up to its point. -/
def fractionPart (rules : Rules) (negative : Bool) (value : Nat) (start : Int) : Scan Number :=
  fun s =>
    let (digits, s) := spanDigits s
    match digits, s with
    | [], [] => .error (.here rules.cutNumber [])
    | [], s => .error (.next .invalidNumber s)
    | digits, s =>
      let (value, places) := takeFraction value 0 digits
      match s with
      | 'e' :: s | 'E' :: s => exponentPart rules negative value (start - places) s
      | s => signedDouble rules negative value (start - places) s

/-- The number without point and exponent: an integer if one of 64 bits has that value. -/
def wholeNumber (rules : Rules) (negative : Bool) (value dropped : Nat) : Scan Number := fun s =>
  if dropped ≠ 0 then signedDouble rules negative value dropped s
  else if !negative then .ok (.int value, s)
  else if value = 0 ∨ twoTo 63 < value then signedDouble rules true value 0 s
  else .ok (.int (-(value : Int)), s)

/-- The number whose sign has been read. -/
def unsignedNumber (rules : Rules) (negative : Bool) : Scan Number := fun s =>
  let (digits, rest) := spanDigits s
  match digits with
  | [] => .error (if s.isEmpty then .here rules.cutNumber [] else .next .invalidNumber s)
  | '0' :: more@(_ :: _) => .error (.next .invalidNumber (more ++ rest))
  | digits =>
    let (value, dropped) := leadingDigits digits
    match rest with
    | '.' :: rest => fractionPart rules negative value dropped rest
    | 'e' :: rest | 'E' :: rest => exponentPart rules negative value dropped rest
    | rest => wholeNumber rules negative value dropped rest

end DocStore.Json
