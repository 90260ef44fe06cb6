import DocStore.Url.Address
import DocStore.Url.Domain.Basic
import DocStore.Url.Percent

/-!
# Hosts of URLs

`Host.ofText` reads the host of a special scheme: an IPv6 address between brackets, an IPv4 address
or a domain name. `Host.verbatim` reads that of any other scheme, whose name is not interpreted.

A domain name is percent-decoded and then brought to the form in which it is looked up. If the last
label of that form is a number, the host is an address.
-/

namespace DocStore.Url.Host

/-- The characters that may not stand in a host that is not interpreted. -/
def deniedVerbatim (c : Char) : Bool :=
  ['\x00', '\t', '\n', '\r', ' ', '#', '/', ':', '<', '>', '?', '@', '[', '\\', ']', '^', '|'].contains c

/-- An IPv6 address between brackets. -/
def bracketed (s : List Char) : Except UrlError Host :=
  match s.getLast? with
  | some ']' =>
    match ipv6? (s.drop 1).dropLast with
    | some pieces => .ok (.ipv6 pieces)
    | none => .error .invalidIpv6
  | _ => .error .invalidIpv6

/-- The host of a special scheme. -/
def ofText (s : List Char) : Except UrlError Host :=
  if s.head? = some '[' then bracketed s
  else
    match (decode? s).bind Domain.ofText? with
    | none => .error .invalidDomain
    | some [] => .error .emptyHost
    | some name =>
      if endsInNumber name then
        match ipv4? name with
        | some address => .ok (.ipv4 address)
        | none => .error .invalidIpv4
      else .ok (.domain (String.ofList name))

/-- The host of a scheme that is not special. -/
def verbatim (s : List Char) : Except UrlError Host :=
  if s.head? = some '[' then bracketed s
  else if s.any deniedVerbatim then .error .invalidHostCharacter
  else .ok (.domain (String.ofList (encode controlSet s)))

end DocStore.Url.Host
