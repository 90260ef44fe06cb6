/-!
# Absolute URLs

A `Url` is an absolute URL taken apart: scheme, user, host, port, path, query and fragment, each in
its written form, with characters that may not stand in it percent-encoded.

A path is a list of segments, or free text for schemes such as `mailto`; `Path.text` is its written
form, in which every segment follows a slash.
-/

namespace DocStore

/-- Why a text is no absolute URL. -/
inductive UrlError where
  | noScheme
  | emptyHost
  | invalidPort
  | invalidIpv4
  | invalidIpv6
  | invalidDomain
  | invalidHostCharacter
deriving DecidableEq, Repr

/-- The wording of an error. -/
def UrlError.message : UrlError → String
  | noScheme => "relative URL without a base"
  | emptyHost => "empty host"
  | invalidPort => "invalid port number"
  | invalidIpv4 => "invalid IPv4 address"
  | invalidIpv6 => "invalid IPv6 address"
  | invalidDomain => "invalid international domain name"
  | invalidHostCharacter => "invalid domain character"

namespace Url

/-- The host of a URL. -/
inductive Host where
  /-- A name, in the form in which it is looked up where the scheme is a special one; it is empty if
  an authority names no host. -/
  | domain (name : String)
  /-- An address of 32 bits. -/
  | ipv4 (address : Nat)
  /-- An address of eight pieces of 16 bits. -/
  | ipv6 (pieces : List Nat)
deriving DecidableEq, Repr

/-- The host of an authority that names none. -/
def Host.empty : Host := .domain ""

/-- Who asks, as written before a host. -/
structure User where
  name : String
  /-- Empty if there is none. -/
  password : String
deriving DecidableEq, Repr

/-- The path of a URL. -/
inductive Path where
  /-- Segments, each after a slash. -/
  | rooted (segments : List String)
  /-- Text that does not start with a slash. -/
  | rootless (text : String)
deriving DecidableEq, Repr

/-- The written form of a path. -/
def Path.text : Path → String
  | .rooted segments => String.join (segments.map ("/" ++ ·))
  | .rootless text => text

end Url

/-- An absolute URL. -/
structure Url where
  /-- The scheme in lower case, without its colon. -/
  scheme : String
  user : Option Url.User
  /-- The host, unless there is no authority. -/
  host : Option Url.Host
  /-- The port, unless it is the scheme's own. -/
  port : Option Nat
  path : Url.Path
  query : Option String
  fragment : Option String
deriving DecidableEq, Repr

namespace Url

/-- How a scheme's URLs are read. -/
inductive SchemeKind where
  /-- A scheme whose URLs have a host, with its usual port. -/
  | special (defaultPort : Nat)
  | file
  | other
deriving DecidableEq, Repr

/-- The kind of a scheme. -/
def SchemeKind.ofScheme (scheme : String) : SchemeKind :=
  if scheme = "http" ∨ scheme = "ws" then .special 80
  else if scheme = "https" ∨ scheme = "wss" then .special 443
  else if scheme = "ftp" then .special 21
  else if scheme = "file" then .file
  else .other

/-- Whether a backslash counts as a slash. -/
def SchemeKind.backslash : SchemeKind → Bool
  | .other => false
  | _ => true

end Url

end DocStore
