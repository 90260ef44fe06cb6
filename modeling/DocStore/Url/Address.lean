import DocStore.Power
import DocStore.Url.Basic

/-!
# Network addresses in URLs

An IPv4 address has one to four parts between points, each decimal, octal (after `0`) or hexadecimal
(after `0x`); the last part fills the bytes that the others leave. An IPv6 address has eight pieces
of up to four hexadecimal digits, of which `::` may stand for a run of zeros and the last two may be
written as an IPv4 address in plain decimal.
-/

namespace DocStore.Url

/-- The value of a digit in a base up to sixteen. -/
def digitIn? (base : Nat) (c : Char) : Option Nat :=
  let value? :=
    if '0' ≤ c ∧ c ≤ '9' then some (c.toNat - '0'.toNat)
    else if 'a' ≤ c ∧ c ≤ 'f' then some (c.toNat - 'a'.toNat + 10)
    else if 'A' ≤ c ∧ c ≤ 'F' then some (c.toNat - 'A'.toNat + 10)
    else none
  value?.filter (· < base)

/-- The number written by digits of a base; no digits stand for zero. -/
def numberIn? (base : Nat) (s : List Char) : Option Nat :=
  s.foldl (fun n? c => do return (← n?) * base + (← digitIn? base c)) (some 0)

/-! ### Addresses of 32 bits -/

/-- One part of an IPv4 address, whatever its size. -/
def ipv4Part? : List Char → Option Nat
  | [] => none
  | ['0'] => some 0
  | '0' :: c :: s => if c = 'x' ∨ c = 'X' then numberIn? 16 s else numberIn? 8 (c :: s)
  | s => numberIn? 10 s

/-- The parts of a text between points. -/
def dottedParts (s : List Char) : List (List Char) := s.splitOn '.'

/-- The parts, without the empty one after a final point. -/
def ipv4Parts (s : List Char) : List (List Char) :=
  let parts := dottedParts s
  match parts.getLast? with
  | some [] => if parts.length = 1 then parts else parts.dropLast
  | _ => parts

/-- Whether a name has to be an IPv4 address: its last part is a number. -/
def endsInNumber (s : List Char) : Bool :=
  match (ipv4Parts s).getLast? with
  | some part => !part.isEmpty && (part.all Char.isDigit || (ipv4Part? part).isSome)
  | none => false

/-- The address of parts: all but the last are bytes, and the last fills the rest. -/
def ipv4OfParts? (parts : List Nat) : Option Nat :=
  match parts.reverse with
  | [] => none
  | last :: bytes =>
    let unit := twoTo (8 * (4 - bytes.length))
    if 3 < bytes.length ∨ bytes.any (255 < ·) ∨ unit ≤ last then none
    else some ((bytes.reverse.foldl (fun n b => n * 256 + b) 0) * unit + last)

/-- An IPv4 address. -/
def ipv4? (s : List Char) : Option Nat := ((ipv4Parts s).mapM ipv4Part?).bind ipv4OfParts?

/-! ### Addresses of eight pieces -/

/-- A decimal byte without zeros in front. -/
def plainByte? (s : List Char) : Option Nat :=
  match s with
  | [] => none
  | '0' :: _ :: _ => none
  | s => (numberIn? 10 s).filter (· ≤ 255)

/-- The two pieces of an IPv4 address in plain decimal. -/
def ipv4Pieces? (s : List Char) : Option (List Nat) :=
  match (dottedParts s).mapM plainByte? with
  | some [a, b, c, d] => some [a * 256 + b, c * 256 + d]
  | _ => none

/-- The pieces of an address read so far; `gap` is their number before the run of zeros. -/
structure Pieces where
  pieces : List Nat
  gap : Option Nat

/-- The places taken, of which a run of zeros takes one. -/
def Pieces.size (p : Pieces) : Nat := p.pieces.length + if p.gap.isSome then 1 else 0

/-- The pieces after some that have been read; the fuel bounds the text. -/
def morePieces? : Nat → Pieces → List Char → Option Pieces
  | 0, _, _ => none
  | _ + 1, p, [] => some p
  | fuel + 1, p, s =>
    if p.size = 8 then none
    else
      match s with
      | ':' :: s => if p.gap.isSome then none else morePieces? fuel { p with gap := some p.pieces.length } s
      | s =>
        let digits := (s.take 4).takeWhile fun c => (digitIn? 16 c).isSome
        let p' := { p with pieces := p.pieces ++ [(numberIn? 16 digits).getD 0] }
        match s.drop digits.length with
        | [] => some p'
        | ':' :: rest => if rest.isEmpty then none else morePieces? fuel p' rest
        | '.' :: _ =>
          if digits.isEmpty ∨ 6 < p.size then none
          else (ipv4Pieces? s).map fun last => { p with pieces := p.pieces ++ last }
        | _ => none

/-- All eight pieces, with the run of zeros written out. -/
def Pieces.full? (p : Pieces) : Option (List Nat) :=
  match p.gap with
  | none => if p.pieces.length = 8 then some p.pieces else none
  | some n => some (p.pieces.take n ++ List.replicate (8 - p.pieces.length) 0 ++ p.pieces.drop n)

/-- An IPv6 address, without its brackets. -/
def ipv6? (s : List Char) : Option (List Nat) :=
  let read :=
    match s with
    | ':' :: ':' :: rest => morePieces? (s.length + 1) ⟨[], some 0⟩ rest
    | ':' :: _ | [] | [_] => none
    | s => morePieces? (s.length + 1) ⟨[], none⟩ s
  read.bind Pieces.full?

end DocStore.Url
