import DocStore.Url.Domain.PlainForm

/-!
# Characters of domain names

Before a domain name is compared or looked up, each of its characters takes its plain form, and those
that leave no trace disappear. Some characters may not stand in a name at all.
-/

namespace DocStore.Url.Domain

/-- The characters that leave no trace. -/
def tracelessRanges : List (Nat × Nat) :=
  [(0xAD, 0xAD), (0x34F, 0x34F), (0x115F, 0x1160), (0x17B4, 0x17B5), (0x180B, 0x180F),
   (0x200B, 0x200B), (0x2060, 0x2064), (0x206A, 0x206F), (0x3164, 0x3164), (0xFE00, 0xFE0F),
   (0xFEFF, 0xFEFF), (0xFFA0, 0xFFA0), (0x1BCA0, 0x1BCA3), (0x1D173, 0x1D17A), (0xE0100, 0xE01EF)]

/-- The characters that may not stand in a name, those for private use and the last two of each
plane excepted. -/
def refusedRanges : List (Nat × Nat) :=
  [(0x80, 0x9F), (0x600, 0x605), (0x61C, 0x61C), (0x6DD, 0x6DD), (0x70F, 0x70F), (0x890, 0x891),
   (0x8E2, 0x8E2), (0x1680, 0x1680), (0x200E, 0x200F), (0x2024, 0x2026), (0x2028, 0x202E),
   (0x2066, 0x2069), (0x2488, 0x249B), (0x2FF0, 0x2FFF), (0x31EF, 0x31EF), (0x33C2, 0x33C2),
   (0x33C7, 0x33C7), (0x33D8, 0x33D8), (0xFDD0, 0xFDEF), (0xFE12, 0xFE12), (0xFE19, 0xFE19),
   (0xFE30, 0xFE30), (0xFE52, 0xFE52), (0xFFF9, 0xFFFD), (0x110BD, 0x110BD), (0x110CD, 0x110CD),
   (0x13430, 0x1343F), (0x1F100, 0x1F100), (0xE0001, 0xE0001), (0xE0020, 0xE007F)]

/-- Whether a character may not stand in a name. -/
def isRefused (n : Nat) : Bool :=
  Text.inRanges refusedRanges n || 0xFFFE ≤ n % 0x10000 || (0xE000 ≤ n && n ≤ 0xF8FF) ||
    0xF0000 ≤ n

/-- The plain form of a character, unless it may not stand in a name. -/
def plainForm? (c : Char) : Option (List Char) :=
  let n := c.toNat
  if isRefused n then none
  else if Text.inRanges tracelessRanges n then some []
  else
    match plainRuns.findSome? (·.move? n) with
    | some image => some [Char.ofNat image]
    | none => some (((Text.lookup? plainTexts n).map (·.map Char.ofNat)).getD [c])

end DocStore.Url.Domain
