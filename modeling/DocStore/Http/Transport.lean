import DocStore.Http.Message
import DocStore.Url.Text

/-!
# What a transport accepts

A transport hands requests to a server and fails only if it cannot: `TransportError`. Before it opens
a connection it checks the request, `Request.refusal?`: the headers in order, each name before its
value, and then the URL.
-/

namespace DocStore.Http

/-- Why a request brought no response. -/
inductive TransportError where
  | invalidHeaderName
  | invalidHeaderValue
  | invalidUrl (error : UrlError)
  /-- A URL to which no request can be sent. -/
  | unsendable (url : String)
  | other (message : String)
deriving DecidableEq, Repr

/-- The wording of an error. -/
def TransportError.message : TransportError → String
  | invalidHeaderName => "Invalid header name: invalid HTTP header name"
  | invalidHeaderValue => "Invalid header value: failed to parse header value"
  | invalidUrl error => "URL parse error: " ++ error.message
  | unsendable url => "HTTP error: builder error for url (" ++ url ++ ")"
  | other message => message

/-- Whether a character may stand in a header's name. -/
def isTokenChar (c : Char) : Bool :=
  c.isAlphanum ||
    ['!', '#', '$', '%', '&', '\'', '*', '+', '-', '.', '^', '_', '\x60', '|', '~'].contains c

/-- Whether a character may stand in a header's value. -/
def isValueChar (c : Char) : Bool := c = '\t' || (0x20 ≤ c.toNat && c.toNat ≠ 0x7F)

/-- The greatest length of a header's name. -/
def maxNameLength : Nat := 65535

/-- Whether a text is a header's name. -/
def isHeaderName (name : String) : Bool :=
  let chars := name.toList
  !chars.isEmpty && chars.length ≤ maxNameLength && chars.all isTokenChar

/-- Whether a text is a header's value. -/
def isHeaderValue (value : String) : Bool := value.toList.all isValueChar

/-- What is wrong with the first header that cannot be sent. -/
def headerRefusal? : List (String × String) → Option TransportError
  | [] => none
  | (name, value) :: headers =>
    if !isHeaderName name then some .invalidHeaderName
    else if !isHeaderValue value then some .invalidHeaderValue
    else headerRefusal? headers

/-- The URL to which a request goes: without the user, who is named in a header, and with the
parameters in its query. -/
def Request.target (r : Request) : Except UrlError Url :=
  (Url.parse r.url).map fun url => url.withoutUser.addParameters r.query

/-- The greatest length of a URL. -/
def maxUrlLength : Nat := 65534

/-- Whether a host can be named in a request. -/
def isHostName : Url.Host → Bool
  | .domain name => !name.toList.any ['"', '\x60', '\x7b', '\x7d'].contains
  | _ => true

/-- Whether a request can be sent to a URL: a scheme spoken here, a host that can be named, and a
text that is not too long. -/
def isSendable (url : Url) : Bool :=
  (url.scheme = "http" || url.scheme = "https") && url.host.all isHostName &&
    url.text.length ≤ maxUrlLength

/-- Why a request cannot be sent to its URL. -/
def Request.urlRefusal? (r : Request) : Option TransportError :=
  match r.target with
  | .error e => some (.invalidUrl e)
  | .ok url => if isSendable url then none else some (.unsendable url.text)

/-- Why a request cannot be sent. -/
def Request.refusal? (r : Request) : Option TransportError :=
  headerRefusal? r.headers <|> r.urlRefusal?

end DocStore.Http
