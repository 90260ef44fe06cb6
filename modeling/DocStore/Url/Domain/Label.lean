import DocStore.Text.Direction
import DocStore.Text.Joining
import DocStore.Text.NormalForm
import DocStore.Url.Domain.Character
import DocStore.Url.Punycode

/-!
# Labels of domain names

A domain name consists of labels between points. A label with characters beyond ASCII is brought to
its plain form and then spelled in ASCII, after `xn--`; a label that is spelled so already has to
stand for one that is in its plain form.

A label beyond ASCII does not start with a mark, and invisible joiners stand in it only where they
change how it looks (`joinersFit`).
-/

namespace DocStore.Url.Domain

/-- A label of a domain name. -/
structure Label where
  /-- How it is spelled in ASCII. -/
  spelling : List Char
  /-- What it stands for. -/
  shown : List Char
deriving DecidableEq, Repr

/-- Whether a character belongs to ASCII. -/
def isAscii (c : Char) : Bool := c.toNat < 128

/-- The characters that may not stand in a domain name. -/
def isDenied (c : Char) : Bool :=
  c.toNat ≤ 0x20 || c = '\x7F' ||
    ['%', '#', '/', ':', '<', '>', '?', '@', '[', '\\', ']', '^', '|'].contains c

/-- The plain form of a text, unless it has a character that may not stand in a name. -/
def plainText? (s : List Char) : Option (List Char) :=
  (s.mapM plainForm?).map fun forms => Text.normalForm forms.flatten

/-! ### Joiners -/

/-- The character that keeps two letters apart. -/
def nonJoiner : Char := '\u200C'

/-- The character that has two letters written together. -/
def joiner : Char := '\u200D'

/-- Whether letters on both sides join across the place between them; `before` is reversed. -/
def joinsAcross (before after : List Char) : Bool :=
  (before.dropWhile Text.isTransparent).head?.any Text.joinsNext &&
    (after.dropWhile Text.isTransparent).head?.any Text.joinsPrevious

/-- Whether joiners stand only where they show: both after a mark that takes away a vowel, and the
one that keeps letters apart also between letters that would join. `before` is reversed. -/
def joinersFit (before : List Char) : List Char → Bool
  | [] => true
  | c :: after =>
    let afterVirama := before.head?.any fun d => Text.combiningClass d = Text.viramaClass
    let fits :=
      if c = nonJoiner then afterVirama || joinsAcross before after
      else if c = joiner then afterVirama
      else true
    fits && joinersFit (c :: before) after

/-- Whether a label beyond ASCII is well formed. -/
def isWellFormed (s : List Char) : Bool := !s.head?.any Text.isMark && joinersFit [] s

/-! ### Labels -/

/-- The greatest length of a label beyond ASCII. -/
def maxLength : Nat := 1000

/-- The greatest length of the spelling of a label, without `xn--`. -/
def maxSpelling : Nat := 2000

namespace Label

/-- The label that is spelled by a text after `xn--`. -/
def ofSpelling? (s : List Char) : Option Label := do
  if s.isEmpty ∨ maxSpelling < s.length ∨ s.getLast? = some '-' ∨ !s.all isAscii then none
  let shown ← Punycode.decode? s
  if plainText? shown = some shown ∧ !shown.any (fun c => isDenied c || c = '.') ∧
      isWellFormed shown then
    some ⟨['x', 'n', '-', '-'] ++ s, shown⟩
  else none

/-- The label of a text in its plain form. -/
def ofPlain? : List Char → Option Label
  | 'x' :: 'n' :: '-' :: '-' :: s => ofSpelling? s
  | s =>
    if s.any isDenied then none
    else if s.all isAscii then some ⟨s, s⟩
    else if maxLength < s.length ∨ !isWellFormed s then none
    else some ⟨['x', 'n', '-', '-'] ++ Punycode.encode s, s⟩

/-- The labels of a text between points; the plain form may have points of its own. -/
def ofText? (s : List Char) : Option (List Label) :=
  if s.all isAscii then (ofPlain? (s.map Char.toLower)).map ([·])
  else (plainText? s).bind fun plain => (plain.splitOn '.').mapM ofPlain?

end Label

end DocStore.Url.Domain
