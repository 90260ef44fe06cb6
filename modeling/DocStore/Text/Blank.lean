/-!
# Blank text

The Unicode `White_Space` property and trimming by it. `trim` takes blanks from both ends and
nothing else, so a text is blank exactly if trimming leaves nothing.
-/

namespace DocStore.Text

/-- The characters with the Unicode property `White_Space`. -/
def isBlank (c : Char) : Bool :=
  let n := c.toNat
  (9 ≤ n && n ≤ 13) || n == 0x20 || n == 0x85 || n == 0xA0 || n == 0x1680 ||
    (0x2000 ≤ n && n ≤ 0x200A) || n == 0x2028 || n == 0x2029 || n == 0x202F || n == 0x205F ||
    n == 0x3000

/-- Drop the blanks at the start. -/
def trimStart (s : List Char) : List Char := s.dropWhile isBlank

/-- Drop the characters of a class at the end. -/
def dropEndWhile (p : Char → Bool) (s : List Char) : List Char := (s.reverse.dropWhile p).reverse

/-- Drop the blanks at both ends. -/
def trim (s : List Char) : List Char := dropEndWhile isBlank (trimStart s)

/-- Trimming leaves nothing of a text of blanks. -/
theorem trim_eq_nil_of_blank {s : List Char} (h : ∀ c ∈ s, isBlank c = true) : trim s = [] := by
  have hs : trimStart s = [] := by
    induction s with
    | nil => rfl
    | cons c s ih =>
      have hc := h c List.mem_cons_self
      simpa [trimStart, List.dropWhile_cons, hc] using
        ih fun d hd => h d (List.mem_cons_of_mem c hd)
  simp [trim, dropEndWhile, hs]

end DocStore.Text
