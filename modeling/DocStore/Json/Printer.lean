import DocStore.Json.Basic
import DocStore.Double.Shortest

/-!
# Written form of JSON documents

`Json.compact` writes a document without blanks and `Json.pretty` over several lines, indented by two
spaces. Both keep the order of members, write integers exactly and floating point numbers by their
shortest decimal, and escape in strings only the quote, the backslash and the controls.
-/

namespace DocStore.Json

/-- Decimal exponents from -5 to 15 are written positionally. -/
def doubleLayout : Double.Layout := ⟨fun exponent => decide (-5 ≤ exponent ∧ exponent ≤ 15)⟩

/-- The decimal digits of an integer. -/
def intChars (n : Int) : List Char :=
  if n < 0 then '-' :: Nat.toDigits 10 n.natAbs else Nat.toDigits 10 n.natAbs

/-- The text of a number. -/
def numberChars : Number → List Char
  | .int n => intChars n
  | .double x => x.text doubleLayout

/-- One hexadecimal digit. -/
def hexDigit (n : Nat) : Char := Nat.digitChar n

/-- One character as it stands in a string. -/
def escapedChar (c : Char) : List Char :=
  if c = '"' then ['\\', '"']
  else if c = '\\' then ['\\', '\\']
  else if c = '\x08' then ['\\', 'b']
  else if c = '\x0C' then ['\\', 'f']
  else if c = '\n' then ['\\', 'n']
  else if c = '\r' then ['\\', 'r']
  else if c = '\t' then ['\\', 't']
  else if c.toNat < 0x20 then
    ['\\', 'u', '0', '0', hexDigit (c.toNat / 16), hexDigit (c.toNat % 16)]
  else [c]

/-- A string between quotes. -/
def stringChars (s : String) : List Char := '"' :: s.toList.flatMap escapedChar ++ ['"']

mutual

/-- The characters of a document without blanks. -/
def compactChars : Json → List Char
  | .null => ['n', 'u', 'l', 'l']
  | .bool true => ['t', 'r', 'u', 'e']
  | .bool false => ['f', 'a', 'l', 's', 'e']
  | .number n => numberChars n
  | .string s => stringChars s
  | .array [] => ['[', ']']
  | .array (x :: xs) => '[' :: compactChars x ++ compactElements xs
  | .object [] => ['{', '}']
  | .object ((key, x) :: ms) => '{' :: stringChars key ++ ':' :: compactChars x ++ compactMembers ms

/-- The elements after the first one, and the bracket. -/
def compactElements : List Json → List Char
  | [] => [']']
  | x :: xs => ',' :: compactChars x ++ compactElements xs

/-- The members after the first one, and the brace. -/
def compactMembers : List (String × Json) → List Char
  | [] => ['}']
  | (key, x) :: ms => ',' :: stringChars key ++ ':' :: compactChars x ++ compactMembers ms

end

/-- A document without blanks. -/
def compact (value : Json) : String := String.ofList value.compactChars

/-- A new line at a level of nesting. -/
def newLine (level : Nat) : List Char := '\n' :: List.replicate (2 * level) ' '

mutual

/-- The characters of a document that starts at a level of nesting. -/
def prettyChars (level : Nat) : Json → List Char
  | .array (x :: xs) =>
    '[' :: newLine (level + 1) ++ prettyChars (level + 1) x ++ prettyElements level xs
  | .object ((key, x) :: ms) =>
    '{' :: newLine (level + 1) ++ stringChars key ++ ':' :: ' ' :: prettyChars (level + 1) x ++
      prettyMembers level ms
  | .array [] => ['[', ']']
  | .object [] => ['{', '}']
  | .null => compactChars .null
  | .bool b => compactChars (.bool b)
  | .number n => numberChars n
  | .string s => stringChars s

/-- The elements after the first one, and the bracket on its own line. -/
def prettyElements (level : Nat) : List Json → List Char
  | [] => newLine level ++ [']']
  | x :: xs => ',' :: newLine (level + 1) ++ prettyChars (level + 1) x ++ prettyElements level xs

/-- The members after the first one, and the brace on its own line. -/
def prettyMembers (level : Nat) : List (String × Json) → List Char
  | [] => newLine level ++ ['}']
  | (key, x) :: ms =>
    ',' :: newLine (level + 1) ++ stringChars key ++ ':' :: ' ' :: prettyChars (level + 1) x ++
      prettyMembers level ms

end

/-- A document over several lines, indented by two spaces. -/
def pretty (value : Json) : String := String.ofList (value.prettyChars 0)

end DocStore.Json
