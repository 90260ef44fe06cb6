import DocStore.Power

/-!
# Punycode

The form in which a label of a domain name with characters beyond ASCII is spelled in ASCII: the
ASCII characters, a hyphen, and then for each other character a generalised variable-length integer
that tells how far to move on, counting code points and places together. `Punycode.decode?` reads
this form and `Punycode.encode` writes it.
-/

namespace DocStore.Url.Punycode

/-- A digit in base 36, letters first. -/
def digitChar (d : Nat) : Char :=
  if d < 26 then Char.ofNat ('a'.toNat + d) else Char.ofNat ('0'.toNat + (d - 26))

/-- The value of a digit in base 36. -/
def digit? (c : Char) : Option Nat :=
  if 'a' ≤ c ∧ c ≤ 'z' then some (c.toNat - 'a'.toNat)
  else if '0' ≤ c ∧ c ≤ '9' then some (c.toNat - '0'.toNat + 26)
  else none

/-- The digit values below this threshold end an integer; `k` counts places in steps of 36. -/
def threshold (bias k : Nat) : Nat := if k ≤ bias then 1 else if bias + 26 ≤ k then 26 else k - bias

theorem threshold_pos (bias k : Nat) : 0 < threshold bias k := by
  unfold threshold
  split
  · exact Nat.one_pos
  · split <;> omega

/-- An integer with the place value `weight` for its next digit, and the rest of the text. Place
values have at most 32 bits. -/
def integer (bias sum weight k : Nat) : List Char → Option (Nat × List Char)
  | [] => none
  | c :: s => do
    let d ← digit? c
    let sum := sum + d * weight
    if d < threshold bias k then some (sum, s)
    else
      let weight := weight * (36 - threshold bias k)
      if twoTo 32 ≤ weight then none
      integer bias sum weight (k + 36) s

/-- The digits of an integer, the lowest first. -/
def digits (bias k n : Nat) : List Char :=
  let t := threshold bias k
  if n < t then [digitChar n]
  else digitChar (t + (n - t) % (36 - t)) :: digits bias (k + 36) ((n - t) / (36 - t))
termination_by n
decreasing_by
  have := threshold_pos bias k
  have := Nat.div_le_self (n - threshold bias k) (36 - threshold bias k)
  omega

/-- The number of times that a step divides by 35 until it is small, and what is left of it. -/
def settle (delta k : Nat) : Nat → Nat × Nat
  | 0 => (delta, k)
  | fuel + 1 => if 455 < delta then settle (delta / 35) (k + 36) fuel else (delta, k)

/-- The bias after a step of size `delta` that made the text `count` characters long. -/
def adapt (delta count : Nat) (first : Bool) : Nat :=
  let delta := if first then delta / 700 else delta / 2
  let (delta, k) := settle (delta + delta / count) 0 delta
  k + 36 * delta / (delta + 38)

/-! ### Writing -/

/-- What has been written of the characters beyond ASCII. -/
structure Written where
  /-- The distance covered since the last integer. -/
  delta : Nat
  bias : Nat
  /-- The number of characters written, those of ASCII included. -/
  count : Nat
  /-- Whether no integer has been written. -/
  first : Bool
  text : List Char

/-- Pass a character while the characters with a code point are written: a smaller one is a place to
move over, and one with that code point is written. -/
def Written.pass (code : Nat) (w : Written) (c : Char) : Written :=
  if c.toNat < code then { w with delta := w.delta + 1 }
  else if c.toNat = code then
    { delta := 0
      bias := adapt w.delta (w.count + 1) w.first
      count := w.count + 1
      first := false
      text := w.text ++ digits w.bias 36 w.delta }
  else w

/-- Write all characters beyond ASCII of a label, given their code points in ascending order; `code`
is the one from which to move on. -/
def Written.all (label : List Char) (code : Nat) (w : Written) : List Nat → Written
  | [] => w
  | next :: codes =>
    let w := label.foldl (Written.pass next)
      { w with delta := w.delta + (next - code) * (w.count + 1) }
    Written.all label (next + 1) { w with delta := w.delta + 1 } codes

/-- Put a number into an ascending list, unless it is there. -/
def insertCode (n : Nat) : List Nat → List Nat
  | [] => [n]
  | m :: codes => if n < m then n :: m :: codes else if n = m then m :: codes else m :: insertCode n codes

/-- The text that spells a label. -/
def encode (label : List Char) : List Char :=
  let plain := label.filter (·.toNat < 128)
  let codes := ((label.map Char.toNat).filter (128 ≤ ·)).foldr insertCode []
  let w := Written.all label 128 ⟨0, 72, plain.length, true, []⟩ codes
  plain ++ (if plain.isEmpty then [] else ['-']) ++ w.text

/-! ### Reading -/

/-- Insert the characters that the integers name, the next one not before `code` and `place`; the
fuel bounds their number. -/
def insertAll : Nat → Nat → Nat → Nat → List Char → List Char → Option (List Char)
  | 0, _, _, _, _, _ => none
  | _ + 1, _, _, _, done, [] => some done
  | fuel + 1, code, place, bias, done, s => do
    let (sum, s) ← integer bias place 1 36 s
    let count := done.length + 1
    let code := code + sum / count
    if ¬ code.isValidChar then none
    insertAll fuel code (sum % count + 1) (adapt (sum - place) count (place = 0))
      (done.take (sum % count) ++ Char.ofNat code :: done.drop (sum % count)) s

/-- The text before the last hyphen and the text after it, if a hyphen stands after the start. -/
def split (s : List Char) : List Char × List Char :=
  let integers := (s.reverse.takeWhile (· ≠ '-')).reverse
  let plain := s.take (s.length - integers.length - 1)
  if plain.isEmpty then ([], s) else (plain, integers)

/-- The label that a text in lower case spells. -/
def decode? (s : List Char) : Option (List Char) :=
  let (plain, integers) := split s
  insertAll (integers.length + 1) 128 0 72 plain integers

end DocStore.Url.Punycode
