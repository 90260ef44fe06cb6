import DocStore.Url.Host

/-!
# Reading URLs

`Url.parse` reads an absolute URL: a scheme and a colon, for most schemes an authority after two
slashes (user information, host and port), a path, a query after `?` and a fragment after `#`.

Blanks and controls around the text and line breaks inside it are passed over. In a special scheme a
backslash counts as a slash, any number of slashes may stand before the authority, and the path is
never empty. Segments `.` and `..` are resolved, also where their points are percent-encoded.
-/

namespace DocStore.Url

/-- The text without blanks and controls around it and without tabs and line breaks. -/
def strip (s : List Char) : List Char :=
  let outer (c : Char) : Bool := c.toNat ≤ 0x20
  let inner (c : Char) : Bool := c = '\t' || c = '\n' || c = '\r'
  (((s.dropWhile outer).reverse.dropWhile outer).reverse).filter (!inner ·)

/-- Whether a character may stand in a scheme. -/
def isSchemeChar (c : Char) : Bool := c.isAlphanum || c = '+' || c = '-' || c = '.'

/-- The scheme in lower case, and the text after its colon. -/
def splitScheme? (s : List Char) : Option (String × List Char) :=
  match s.takeWhile isSchemeChar, s.dropWhile isSchemeChar with
  | c :: cs, ':' :: rest =>
    if c.isAlpha then some (String.ofList ((c :: cs).map Char.toLower), rest) else none
  | _, _ => none

/-- Whether a character separates segments. -/
def isSlash (kind : SchemeKind) (c : Char) : Bool := c = '/' || (c = '\\' && kind.backslash)

/-- Whether a character ends an authority. -/
def endsAuthority (kind : SchemeKind) (c : Char) : Bool := isSlash kind c || c = '?' || c = '#'

/-! ### Path, query and fragment -/

/-- Whether a character ends a path. -/
def endsPath (c : Char) : Bool := c = '?' || c = '#'

/-- Whether a segment names the directory itself. -/
def isSingleDot (segment : List Char) : Bool :=
  [['.'], ['%', '2', 'e']].contains (segment.map Char.toLower)

/-- Whether a segment names the directory above. -/
def isDoubleDot (segment : List Char) : Bool :=
  [['.', '.'], ['.', '%', '2', 'e'], ['%', '2', 'e', '.'], ['%', '2', 'e', '%', '2', 'e']].contains
    (segment.map Char.toLower)

/-- Whether a segment is a letter and a colon or a bar. -/
def isDriveLetter : List Char → Bool
  | [c, d] => c.isAlpha && (d = ':' || d = '|')
  | _ => false

/-- The segments without the last one, unless that is a drive letter. -/
def parent (path : List (List Char)) : List (List Char) :=
  if path.getLast?.any isDriveLetter then path else path.dropLast

/-- Follow further segments from a path. In the path of a file, a drive letter at the root gets a
colon. -/
def resolve (kind : SchemeKind) : List (List Char) → List (List Char) → List (List Char)
  | path, [] => path
  | path, segment :: rest =>
    let last := rest.isEmpty
    if isDoubleDot segment then resolve kind (parent path ++ if last then [[]] else []) rest
    else if isSingleDot segment then resolve kind (path ++ if last then [[]] else []) rest
    else
      let segment :=
        if kind = .file ∧ path = [] ∧ isDriveLetter segment then segment.take 1 ++ [':'] else segment
      resolve kind (path ++ [segment]) rest

/-- The segments of the path at the start of a text, as written; its first slash may be missing. -/
def writtenSegments (kind : SchemeKind) (s : List Char) : List (List Char) :=
  let path :=
    match s.takeWhile (!endsPath ·) with
    | [] => []
    | c :: s => if isSlash kind c then s else c :: s
  (path.splitOnP (isSlash kind)).map (encode pathSet)

/-- Resolved segments in a path; that of a file loses empty ones at its start. -/
def rooted (kind : SchemeKind) (resolved : List (List Char)) : Path :=
  let segments :=
    if kind = .file then
      match resolved.dropWhile List.isEmpty with
      | [] => [[]]
      | path => path
    else resolved
  .rooted (segments.map String.ofList)

/-- The fragment of the text after the query. -/
def fragmentOf : List Char → Option String
  | '#' :: s => some (String.ofList (encode fragmentSet s))
  | _ => none

/-- The query and the fragment of the text after the path. -/
def queryAndFragment (kind : SchemeKind) : List Char → Option String × Option String
  | '?' :: s =>
    let query := s.takeWhile (· ≠ '#')
    (some (String.ofList (encode (querySet kind.backslash) query)),
      fragmentOf (s.dropWhile (· ≠ '#')))
  | s => (none, fragmentOf s)

/-- What stands before a path. -/
structure Front where
  scheme : String
  user : Option User := none
  host : Option Host := none
  port : Option Nat := none

/-- The URL of what stands before its path, the path and the text after it. -/
def Front.build (front : Front) (path : Path) (rest : List Char) : Url :=
  let (query, fragment) := queryAndFragment (.ofScheme front.scheme) rest
  { scheme := front.scheme, user := front.user, host := front.host, port := front.port
    path, query, fragment }

/-- The URL whose path has segments, followed from `path`, and starts with the text. -/
def Front.withSegments (front : Front) (path : List (List Char)) (s : List Char) : Url :=
  let kind := SchemeKind.ofScheme front.scheme
  let path :=
    if kind = .other ∧ s.head?.all endsPath then .rooted []
    else rooted kind (resolve kind path (writtenSegments kind s))
  front.build path (s.dropWhile (!endsPath ·))

/-! ### Authority -/

/-- The user information before the last `@` of an authority, and the text after it. -/
def splitUser (kind : SchemeKind) (s : List Char) : Option (List Char) × List Char :=
  let authority := s.takeWhile (!endsAuthority kind ·)
  let afterAt := authority.reverse.takeWhile (· ≠ '@')
  if afterAt.length = authority.length then (none, s)
  else
    let before := authority.length - afterAt.length - 1
    (some (authority.take before), s.drop (before + 1))

/-- The user whom a text before `@` names: a name, and after a colon a password. -/
def userOf (s : List Char) : Option User :=
  let name := s.takeWhile (· ≠ ':')
  let password := s.drop (name.length + 1)
  if name.isEmpty && password.isEmpty then none
  else some ⟨String.ofList (encode userSet name), String.ofList (encode userSet password)⟩

/-- The text of the host, and the rest from its end on; a colon between brackets belongs to it. -/
def splitHost (kind : SchemeKind) (bracketed : Bool) : List Char → List Char × List Char
  | [] => ([], [])
  | c :: s =>
    if (c = ':' && !bracketed) || endsAuthority kind c then ([], c :: s)
    else
      let (host, rest) :=
        splitHost kind (if c = '[' then true else if c = ']' then false else bracketed) s
      (c :: host, rest)

/-- The port after a host, unless it is the usual one, and the text after it. -/
def splitPort (kind : SchemeKind) : List Char → Except UrlError (Option Nat × List Char)
  | ':' :: s =>
    let digits := s.takeWhile Char.isDigit
    let rest := s.dropWhile Char.isDigit
    let value := digits.foldl (fun n c => n * 10 + (c.toNat - '0'.toNat)) 0
    if 65535 < value then .error .invalidPort
    else if rest.head?.any (fun c => !(c = '/' || c = '\\' || c = '?' || c = '#')) then
      .error .invalidPort
    else if digits.isEmpty ∨ kind = .special value then .ok (none, rest)
    else .ok (some value, rest)
  | s => .ok (none, s)

/-- The host of a text; it may be empty where the scheme allows it and no port follows. -/
def hostOf (kind : SchemeKind) (text rest : List Char) : Except UrlError Host :=
  match kind with
  | .other =>
    if text.isEmpty ∧ rest.head? = some ':' then .error .emptyHost else Host.verbatim text
  | _ => if text.isEmpty then .error .emptyHost else Host.ofText text

/-- The URL of a scheme and the text after the slashes before its authority. -/
def withAuthority (scheme : String) (s : List Char) : Except UrlError Url := do
  let kind := SchemeKind.ofScheme scheme
  let (before, s) := splitUser kind s
  if before = some [] ∧ s.head?.any (endsAuthority kind) then throw .emptyHost
  let user := before.bind userOf
  let (text, s) := splitHost kind false s
  let host ← hostOf kind text s
  let (port, s) ← splitPort kind s
  if host = .empty ∧ user.isSome then throw .emptyHost
  return Front.withSegments { scheme, user, host, port } [] s

/-! ### Files -/

/-- The URL of a file on this host. After an authority, the path has an empty segment at the root, so
that a drive letter keeps its bar. -/
def localFile (authority : Bool) (s : List Char) : Url :=
  Front.withSegments { scheme := "file", host := some .empty } (if authority then [[]] else []) s

/-- The URL of a file on a host, which is this one if a drive letter is at the root of the path. -/
def remoteFile (host : Host) (s : List Char) : Url :=
  let drive := (resolve .file [] (writtenSegments .file s)).head?.any isDriveLetter
  Front.withSegments { scheme := "file", host := some (if drive then .empty else host) } [] s

/-- The URL of a file, after `file:` and two slashes. -/
def fileWithHost (s : List Char) : Except UrlError Url :=
  let text := s.takeWhile (!endsAuthority .file ·)
  let rest := s.dropWhile (!endsAuthority .file ·)
  if isDriveLetter text then .ok (localFile false s)
  else if text.isEmpty then .ok (localFile true rest)
  else
    (Host.ofText text).map fun host =>
      if host = .domain "localhost" then localFile true rest else remoteFile host rest

/-- The URL of a file. -/
def file (s : List Char) : Except UrlError Url :=
  match s with
  | a :: b :: rest =>
    if isSlash .file a && isSlash .file b then fileWithHost rest else .ok (localFile false s)
  | s => .ok (localFile false s)

/-! ### Other schemes -/

/-- The URL of a scheme that is not special. -/
def other (scheme : String) (s : List Char) : Except UrlError Url :=
  match s with
  | '/' :: '/' :: rest => withAuthority scheme rest
  | '/' :: _ => .ok (Front.withSegments { scheme } [] s)
  | s =>
    let path := encode controlSet (s.takeWhile (!endsPath ·))
    .ok (Front.build { scheme } (.rootless (String.ofList path)) (s.dropWhile (!endsPath ·)))

/-- Read a text as an absolute URL. -/
def parse (text : String) : Except UrlError Url :=
  match splitScheme? (strip text.toList) with
  | none => .error .noScheme
  | some (scheme, s) =>
    match SchemeKind.ofScheme scheme with
    | .special _ => withAuthority scheme (s.dropWhile (isSlash (.ofScheme scheme)))
    | .file => file s
    | .other => other scheme s

end DocStore.Url
