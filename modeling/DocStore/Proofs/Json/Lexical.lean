import DocStore.Json.Printer
import DocStore.Json.Scan
import DocStore.Proofs.Success
import DocStore.Proofs.Text.Digits

/-!
# Reading what was written of strings and numbers

* `Json.escapedChar_cases` : a character stands in a string as itself or as an escape, and it is the one
  that the escape is read as;
* `Json.stringRest_stringChars` : a string that is written between quotes is read back, whatever
  follows;
* `Json.leadingDigits_toDigits` : the digits of a number of 64 bits are taken up in full;
* `Json.unsignedNumber_natAbs` : so an integer of 64 bits is read back, with or without a sign, if what
  follows does not go on with it (`Json.continuesNumber`).
-/

namespace DocStore.Json

variable {rules : Rules}

/-! ### Strings -/

/-- The escape of a control is read as this control. -/
theorem unicodeEscape_control {c : Char} (h : c.toNat < 0x20) (s : List Char) :
    unicodeEscape rules
        ('0' :: '0' :: hexDigit (c.toNat / 16) :: hexDigit (c.toNat % 16) :: s) = .ok (c, s) := by
  have hdigits : ∀ n < 0x20, hexUnit? '0' '0' (hexDigit (n / 16)) (hexDigit (n % 16)) = some n := by
    decide
  have hunit : hexUnit ('0' :: '0' :: hexDigit (c.toNat / 16) :: hexDigit (c.toNat % 16) :: s) =
      .ok (c.toNat, s) := by
    rw [hexUnit, hdigits c.toNat h]
  have hsingle : ∀ n < 0x20, isTrailing n = false ∧ isLeading n = false := by decide
  obtain ⟨htrailing, hleading⟩ := hsingle c.toNat h
  rw [unicodeEscape, hunit]
  simp only [bind, Except.bind, htrailing, hleading, Char.ofNat_toNat]
  cases rules.paired <;> rfl

/-- A character stands for itself, or for what its escape is read as. -/
theorem escapedChar_cases (c : Char) :
    (escapedChar c = [c] ∧ c ≠ '"' ∧ c ≠ '\\' ∧ 0x20 ≤ c.toNat) ∨
      ∃ code, escapedChar c = '\\' :: code ∧
        ∀ (rules : Rules) (s : List Char), escape rules (code ++ s) = .ok (c, s) := by
  by_cases hshort : c ∈ ['"', '\\', '\x08', '\x0C', '\n', '\r', '\t']
  · refine .inr ?_
    simp only [List.mem_cons, List.not_mem_nil, or_false] at hshort
    rcases hshort with rfl | rfl | rfl | rfl | rfl | rfl | rfl <;>
      exact ⟨_, rfl, fun _ _ => rfl⟩
  · simp only [List.mem_cons, List.not_mem_nil, or_false, not_or] at hshort
    obtain ⟨hquote, hslash, hothers⟩ := hshort
    by_cases hcontrol : c.toNat < 0x20
    · have hcode : escapedChar c =
          ['\\', 'u', '0', '0', hexDigit (c.toNat / 16), hexDigit (c.toNat % 16)] := by
        simp [escapedChar, hquote, hslash, hothers, hcontrol]
      exact .inr ⟨_, hcode, fun _ s => unicodeEscape_control hcontrol s⟩
    · have hself : escapedChar c = [c] := by
        simp [escapedChar, hquote, hslash, hothers, hcontrol]
      exact .inl ⟨hself, hquote, hslash, Nat.not_lt.1 hcontrol⟩

/-- The characters of a string are read back up to its closing quote. -/
theorem stringBody_flatMap_escapedChar {cs : List Char} {fuel : Nat} (h : cs.length < fuel)
    (rest : List Char) :
    stringBody rules fuel (cs.flatMap escapedChar ++ '"' :: rest) = .ok (cs, rest) := by
  induction cs generalizing fuel with
  | nil =>
    obtain ⟨fuel, rfl⟩ := Nat.exists_eq_add_one.2 h
    rfl
  | cons c cs ih =>
    obtain ⟨fuel, rfl⟩ := Nat.exists_eq_add_one_of_ne_zero (Nat.ne_of_gt (Nat.zero_lt_of_lt h))
    have hrest := ih (Nat.lt_of_succ_lt_succ h)
    rw [List.flatMap_cons, List.append_assoc]
    rcases escapedChar_cases c with ⟨hself, hquote, hslash, hcontrol⟩ | ⟨code, hcode, hread⟩
    · rw [hself, List.singleton_append, stringBody, if_neg hquote, if_neg hslash,
        if_neg (Nat.not_lt.2 hcontrol), hrest]
      rfl
    · rw [hcode, List.cons_append, stringBody, if_neg (by decide), if_pos rfl, hread]
      simp only [bind, Except.bind, hrest]
      rfl

theorem length_le_flatMap_escapedChar (cs : List Char) :
    cs.length ≤ (cs.flatMap escapedChar).length := by
  induction cs with
  | nil => exact Nat.le_refl 0
  | cons c cs ih =>
    have hpos : 0 < (escapedChar c).length := by
      rcases escapedChar_cases c with ⟨hself, -⟩ | ⟨code, hcode, -⟩
      · rw [hself]
        exact Nat.one_pos
      · rw [hcode]
        exact Nat.succ_pos _
    rw [List.flatMap_cons, List.length_append, List.length_cons]
    omega

theorem stringChars_append (text : String) (rest : List Char) :
    stringChars text ++ rest = '"' :: (text.toList.flatMap escapedChar ++ '"' :: rest) := by
  simp [stringChars]

/-- **A string is read back**, whatever follows. -/
theorem stringRest_stringChars (text : String) (rest : List Char) :
    stringRest rules (text.toList.flatMap escapedChar ++ '"' :: rest) = .ok (text, rest) := by
  have hlength := length_le_flatMap_escapedChar text.toList
  rw [stringRest, stringBody_flatMap_escapedChar (by rw [List.length_append]; omega)]
  simp only [bind, Except.bind, pure, Except.pure, String.ofList_toList]

/-! ### Numbers -/

/-- Whether a character goes on with a number whose first digits have been read. -/
def continuesNumber (c : Char) : Bool := c.isDigit || c = '.' || c = 'e' || c = 'E'

theorem digitValue_digitChar {n : Nat} (h : n < 10) : digitValue (Nat.digitChar n) = n := by
  have hdigits : ∀ n < 10, digitValue (Nat.digitChar n) = n := by decide
  exact hdigits n h

/-- The digits of a number of 64 bits are taken up in full. -/
theorem leadingDigits_toDigits {n : Nat} (h : n < twoTo 64) :
    leadingDigits (Nat.toDigits 10 n) = (n, 0) := by
  induction n using Nat.strongRecOn with
  | _ n ih =>
    by_cases hn : n < 10
    · rw [Nat.toDigits_of_lt_base hn]
      simp [leadingDigits, digitValue_digitChar hn, h]
    · have hle : 10 ≤ n := Nat.le_of_not_lt hn
      have hfront := ih (n / 10) (Nat.div_lt_self (by omega) (by decide))
        (Nat.lt_of_le_of_lt (Nat.div_le_self n 10) h)
      have hsplit : n / 10 * 10 + n % 10 = n := by omega
      rw [leadingDigits] at hfront
      rw [Nat.toDigits_of_base_le (by decide) hle, leadingDigits, List.foldl_append, hfront]
      simp [digitValue_digitChar (Nat.mod_lt n (by decide : 0 < 10)), hsplit, h]

/-- The digits of a number, and what follows them, if it does not go on with the number. -/
theorem spanDigits_toDigits {n : Nat} {rest : List Char} (hrest : Text.Stops continuesNumber rest) :
    spanDigits (Nat.toDigits 10 n ++ rest) = (Nat.toDigits 10 n, rest) := by
  have hdigits : Text.Stops Char.isDigit rest := fun c hc => by
    have h := hrest c hc
    simp only [continuesNumber, Bool.or_eq_false_iff] at h
    exact h.1.1.1
  have hrun : ∀ c ∈ Nat.toDigits 10 n, c.isDigit = true := fun c => Text.isDigit_of_mem_toDigits
  rw [spanDigits, Text.takeWhile_run hrun hdigits, Text.dropWhile_run hrun hdigits]

/-- The digits of a number of 64 bits are those of a whole number. -/
theorem unsignedNumber_toDigits {n : Nat} {rest : List Char} (negative : Bool) (h : n < twoTo 64)
    (hrest : Text.Stops continuesNumber rest) :
    unsignedNumber rules negative (Nat.toDigits 10 n ++ rest) = wholeNumber rules negative n 0 rest := by
  have hvalue := leadingDigits_toDigits h
  -- No further digit follows a zero at the start.
  have hzero : ∀ more, Nat.toDigits 10 n = '0' :: more → more = [] := fun more heq => by
    have hn : n = 0 := Text.head?_toDigits (by rw [heq]; rfl)
    rw [hn] at heq
    exact (List.cons.inj heq).2.symm
  rw [unsignedNumber, spanDigits_toDigits hrest]
  dsimp only
  split
  · rename_i hnil
    exact absurd hnil Nat.toDigits_ne_nil
  · rename_i hmore
    exact nomatch hzero _ hmore
  · rw [hvalue]
    dsimp only
    split
    · exact absurd (hrest _ rfl) (by decide)
    · exact absurd (hrest _ rfl) (by decide)
    · exact absurd (hrest _ rfl) (by decide)
    · rfl

/-- **An integer of 64 bits is read back** from its sign and its digits. -/
theorem unsignedNumber_natAbs {n : Int} (hleast : -(twoTo 63 : Int) ≤ n) (hmost : n < twoTo 64)
    {rest : List Char} (hrest : Text.Stops continuesNumber rest) :
    unsignedNumber rules (decide (n < 0)) (Nat.toDigits 10 n.natAbs ++ rest) = .ok (.int n, rest) := by
  have htwo : twoTo 63 < twoTo 64 := by decide
  rw [unsignedNumber_toDigits _ (by omega) hrest, wholeNumber, if_neg (by decide)]
  by_cases hneg : n < 0
  · have hsigned : -(n.natAbs : Int) = n := by omega
    have hinteger : ¬(n.natAbs = 0 ∨ twoTo 63 < n.natAbs) := by omega
    rw [decide_eq_true hneg, if_neg (by decide), if_neg hinteger, hsigned]
  · have hsigned : (n.natAbs : Int) = n := by omega
    rw [decide_eq_false hneg, if_pos (by decide), hsigned]

end DocStore.Json
