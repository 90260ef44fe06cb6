import DocStore.Url.Form
import DocStore.Url.Parser

/-!
# The text of a URL

`Url.text` writes a URL. Addresses of hosts have one form each: four decimal bytes, or pieces in
hexadecimal of which the longest run of zeros is left out.
-/

namespace DocStore.Url

/-! ### Hosts -/

/-- An address of 32 bits as four bytes. -/
def ipv4Text (address : Nat) : String :=
  ".".intercalate
    ([address / 0x1000000, address / 0x10000 % 256, address / 256 % 256, address % 256].map
      toString)

/-- Pieces in hexadecimal. -/
def piecesText (pieces : List Nat) : String :=
  ":".intercalate (pieces.map fun piece => String.ofList (Nat.toDigits 16 piece))

/-- The number of zeros at the start. -/
def leadingZeros (pieces : List Nat) : Nat := (pieces.takeWhile (· = 0)).length

/-- Where the longest run of zeros starts, and how long it is; the first of several. -/
def longestZeros : List Nat → Nat × Nat
  | [] => (0, 0)
  | piece :: pieces =>
    let here := leadingZeros (piece :: pieces)
    let (start, count) := longestZeros pieces
    if count ≤ here then (0, here) else (start + 1, count)

/-- An address of eight pieces; a run of at least two zeros is written `::`. -/
def ipv6Text (pieces : List Nat) : String :=
  let (start, count) := longestZeros pieces
  if count < 2 then piecesText pieces
  else piecesText (pieces.take start) ++ "::" ++ piecesText (pieces.drop (start + count))

/-- The text of a host. -/
def Host.text : Host → String
  | .domain name => name
  | .ipv4 address => ipv4Text address
  | .ipv6 pieces => "[" ++ ipv6Text pieces ++ "]"

/-! ### URLs -/

/-- The text of a user, with the sign that separates it from a host. -/
def User.text (user : User) : String :=
  user.name ++ (if user.password.isEmpty then "" else ":" ++ user.password) ++ "@"

/-- What stands between the scheme and the path. Without an authority, a path with an empty first
segment is kept from looking like one. -/
def frontText (u : Url) : String :=
  match u.host with
  | some host =>
    "//" ++ (u.user.map User.text).getD "" ++ host.text ++
      (u.port.map fun port => ":" ++ toString port).getD ""
  | none => if u.path.text.startsWith "//" then "/." else ""

/-- The text of a URL. -/
def text (u : Url) : String :=
  u.scheme ++ ":" ++ frontText u ++ u.path.text ++ (u.query.map ("?" ++ ·)).getD "" ++
    (u.fragment.map ("#" ++ ·)).getD ""

/-- The URL with parameters added to its query. -/
def addParameters (u : Url) : List (String × String) → Url
  | [] => u
  | ps =>
    let before := match u.query with
      | none | some "" => ""
      | some query => query ++ "&"
    { u with query := some (before ++ Form.parameters ps) }

/-- Whether a user's name, or for a nameless one the password, is the encoding of a text. -/
def User.isReadable (user : User) : Bool :=
  (decode? (if user.name.isEmpty then user.password else user.name).toList).isSome

/-- The URL without its user. One whose name or password is not the encoding of a text stays. -/
def withoutUser (u : Url) : Url := { u with user := u.user.filter (!·.isReadable) }

end DocStore.Url
