import DocStore.Text.CodePoint
import DocStore.Text.Decomposition.Table

/-!
# Canonical decompositions

A character may be another spelling of one or more others, its canonical decomposition: a letter
with its accents, a syllable of Hangul with its two or three letters, or a character with two code
points. `decomposed` takes a character apart as far as possible, and `composed?` finds the character
that stands for one and a further one after it.
-/

namespace DocStore.Text

/-! ### Hangul -/

/-- The first syllable. -/
def hangulFirst : Nat := 0xAC00

/-- The number of syllables. -/
def hangulCount : Nat := 11172

/-- The letters of a syllable: a leading consonant, a vowel and, unless its number is zero, a
trailing consonant. -/
def hangulLetters (n : Nat) : List Nat :=
  let place := n - hangulFirst
  [0x1100 + place / 588, 0x1161 + place % 588 / 28] ++
    if place % 28 = 0 then [] else [0x11A7 + place % 28]

/-- Whether a code point is a syllable. -/
def isHangulSyllable (n : Nat) : Bool := hangulFirst ≤ n && n < hangulFirst + hangulCount

/-- The syllable of a leading consonant and a vowel, or of such a syllable and a trailing
consonant. -/
def hangulComposed? (a b : Nat) : Option Nat :=
  if 0x1100 ≤ a ∧ a < 0x1113 ∧ 0x1161 ≤ b ∧ b < 0x1176 then
    some (hangulFirst + ((a - 0x1100) * 21 + (b - 0x1161)) * 28)
  else if isHangulSyllable a ∧ (a - hangulFirst) % 28 = 0 ∧ 0x11A7 < b ∧ b < 0x11C3 then
    some (a + (b - 0x11A7))
  else none

/-! ### All characters -/

/-- A code point taken apart. -/
def decomposedCode (n : Nat) : List Nat :=
  if isHangulSyllable n then hangulLetters n else (lookup? decompositions n).getD [n]

/-- The code point in the table whose decomposition is the given one. -/
def codeOfParts? (parts : List Nat) : Option Nat :=
  decompositions.findSome? fun block => (block.2.idxOf? parts).map (block.1 + ·)

/-- A character taken apart. -/
def decomposed (c : Char) : List Char := (decomposedCode c.toNat).map Char.ofNat

/-- The character that stands for two: its decomposition is that of the first one, followed by the
second. -/
def composed? (a b : Char) : Option Char :=
  let parts := decomposedCode a.toNat ++ [b.toNat]
  let inTable? := (codeOfParts? parts).filter (!inRanges uncomposedRanges ·)
  (hangulComposed? a.toNat b.toNat <|> inTable?).map Char.ofNat

end DocStore.Text
