import DocStore.Proofs.Url.Segments

/-!
# Percent encoding and the bytes of a text

Decoding reads bytes (`Url.utf8`), and takes a percent sign with two hexadecimal digits for one byte.

* `Url.decodeBytes_encode` : encoding the characters that may not stand in a path does not change the
  bytes that are read;
* `Url.decodeBytes_cases` : but **the percent signs of the text itself are taken for encoded bytes**: the
  bytes that are read are those of the text exactly if no percent sign stands before two digits
  (`Url.IsUnescaped`), and fewer otherwise;
* `Url.decode?_eq_some_iff` : a text decodes to the one whose bytes are read.
-/

namespace DocStore.Url

/-- The bytes of a text. -/
def utf8 (s : List Char) : List UInt8 := s.flatMap String.utf8EncodeChar

@[simp] theorem utf8_cons (c : Char) (s : List Char) :
    utf8 (c :: s) = String.utf8EncodeChar c ++ utf8 s := rfl

theorem length_utf8EncodeChar_pos (c : Char) : 0 < (String.utf8EncodeChar c).length :=
  List.length_pos_iff.2 String.utf8EncodeChar_ne_nil

/-- A part of a text has fewer bytes. -/
theorem length_utf8_le {s t : List Char} (h : s.Sublist t) : (utf8 s).length ≤ (utf8 t).length := by
  induction h with
  | slnil => rfl
  | cons c _ ih =>
    rw [utf8_cons, List.length_append]
    omega
  | cons_cons c _ ih =>
    rw [utf8_cons, utf8_cons, List.length_append, List.length_append]
    omega

/-- A part of a text with as many bytes is the whole text. -/
theorem eq_of_sublist_of_length_utf8 {s t : List Char} (h : s.Sublist t)
    (hlength : (utf8 t).length ≤ (utf8 s).length) : s = t := by
  induction h with
  | slnil => rfl
  | cons c h _ =>
    have hle := length_utf8_le h
    have hpos := length_utf8EncodeChar_pos c
    rw [utf8_cons, List.length_append] at hlength
    omega
  | cons_cons c _ ih =>
    rw [utf8_cons, utf8_cons, List.length_append, List.length_append] at hlength
    rw [ih (by omega)]

/-- A text is known from its bytes. -/
theorem utf8_injective : Function.Injective utf8 := by
  intro s t h
  have hbytes : (String.ofList s).toByteArray = (String.ofList t).toByteArray := by
    rw [String.toByteArray_ofList, String.toByteArray_ofList]
    exact congrArg List.toByteArray h
  exact String.ofList_injective (String.toByteArray_inj.1 hbytes)

/-! ### Texts that are decoded -/

theorem decode?_eq_some_iff {s t : List Char} : decode? s = some t ↔ decodeBytes s = utf8 t := by
  have htext : ∀ text : String, text.toByteArray = (decodeBytes s).toByteArray →
      (text.toList = t ↔ decodeBytes s = utf8 t) := by
    intro text htext
    rw [← List.toByteArray_inj, ← htext, show (utf8 t).toByteArray = t.utf8Encode from rfl,
      ← String.toByteArray_ofList, String.toByteArray_inj]
    exact ⟨fun h => by rw [← h, String.ofList_toList], fun h => by rw [h, String.toList_ofList]⟩
  unfold decode? String.fromUTF8?
  split
  · rename_i hvalid
    rw [Option.map_some, Option.some_inj]
    exact htext (String.fromUTF8 _ hvalid) rfl
  · rename_i hvalid
    refine ⟨nofun, fun h => absurd ?_ hvalid⟩
    exact .intro t (congrArg List.toByteArray h)

/-! ### Encoded bytes -/

/-- Two characters make a byte after a percent sign. -/
def IsHexPair (a b : Char) : Prop := (hexDigitValue? a).isSome ∧ (hexDigitValue? b).isSome

/-- No percent sign of a text begins an encoded byte. -/
def IsUnescaped (s : List Char) : Prop := ∀ a b, IsHexPair a b → ¬['%', a, b] <:+: s

theorem decodeBytes_percent {a b : Char} {high low : Nat} (ha : hexDigitValue? a = some high)
    (hb : hexDigitValue? b = some low) (s : List Char) :
    decodeBytes ('%' :: a :: b :: s) = UInt8.ofNat (high * 16 + low) :: decodeBytes s := by
  rw [decodeBytes, ha, hb]

/-- A character that begins no encoded byte stands for its own bytes. -/
theorem decodeBytes_cons {c : Char} {s : List Char}
    (h : ∀ a b, IsHexPair a b → ¬['%', a, b] <+: c :: s) :
    decodeBytes (c :: s) = String.utf8EncodeChar c ++ decodeBytes s := by
  rw [decodeBytes.eq_def]
  split
  · rename_i a b t heq
    cases heq
    split
    · rename_i high low ha hb
      exact absurd (List.prefix_append ['%', a, b] t) (h a b ⟨by rw [ha]; rfl, by rw [hb]; rfl⟩)
    · rfl
  · rename_i heq
    cases heq
    rfl
  · rename_i heq
    cases heq

/-- A text is empty, or begins with an encoded byte or with a character that stands for its own bytes. -/
@[elab_as_elim]
theorem percent_induction {motive : List Char → Prop} (nil : motive [])
    (pair : ∀ a b s, IsHexPair a b → motive s → motive ('%' :: a :: b :: s))
    (char : ∀ c s, (∀ a b, IsHexPair a b → ¬['%', a, b] <+: c :: s) → motive s → motive (c :: s))
    (s : List Char) : motive s := by
  induction s using decodeBytes.induct with
  | case1 a b s high low hb ha ih => exact pair a b s ⟨by rw [ha]; rfl, by rw [hb]; rfl⟩ ih
  | case2 a b s hnot ih =>
    refine char '%' (a :: b :: s) (fun a' b' hpair hprefix => ?_) ih
    obtain ⟨t, heq⟩ := hprefix
    cases heq
    obtain ⟨high, ha⟩ := Option.isSome_iff_exists.1 hpair.1
    obtain ⟨low, hb⟩ := Option.isSome_iff_exists.1 hpair.2
    exact hnot high low ha hb
  | case3 c s hnot ih =>
    refine char c s (fun a b _ hprefix => ?_) ih
    obtain ⟨t, heq⟩ := hprefix
    obtain ⟨hc, hs⟩ := List.cons.inj heq
    exact hnot a b t hc.symm hs.symm
  | case4 => exact nil

theorem isUnescaped_nil : IsUnescaped [] := fun _ _ _ h => List.cons_ne_nil _ _ (List.infix_nil.1 h)

theorem isUnescaped_cons {c : Char} {s : List Char}
    (h : ∀ a b, IsHexPair a b → ¬['%', a, b] <+: c :: s) : IsUnescaped (c :: s) ↔ IsUnescaped s := by
  refine forall₃_congr fun a b hpair => not_congr ?_
  rw [List.infix_cons_iff, or_iff_right (h a b hpair)]

/-- **The bytes that are read** are those of the text, or fewer. -/
theorem decodeBytes_cases (s : List Char) :
    (IsUnescaped s ∧ decodeBytes s = utf8 s) ∨
      ¬IsUnescaped s ∧ (decodeBytes s).length < (utf8 s).length := by
  induction s using percent_induction with
  | nil => exact .inl ⟨isUnescaped_nil, rfl⟩
  | pair a b s hpair ih =>
    refine .inr ⟨fun h => h a b hpair (List.prefix_append ['%', a, b] s).isInfix, ?_⟩
    have hle : (decodeBytes s).length ≤ (utf8 s).length := by
      obtain ⟨-, heq⟩ | ⟨-, hlt⟩ := ih
      · rw [heq]
      · exact hlt.le
    obtain ⟨high, ha⟩ := Option.isSome_iff_exists.1 hpair.1
    obtain ⟨low, hb⟩ := Option.isSome_iff_exists.1 hpair.2
    have hpercent := length_utf8EncodeChar_pos '%'
    have hdigit := length_utf8EncodeChar_pos a
    rw [decodeBytes_percent ha hb]
    simp only [utf8_cons, List.length_cons, List.length_append]
    omega
  | char c s hhead ih =>
    rw [isUnescaped_cons hhead, decodeBytes_cons hhead, utf8_cons]
    obtain ⟨hunescaped, heq⟩ | ⟨hescaped, hlt⟩ := ih
    · exact .inl ⟨hunescaped, by rw [heq]⟩
    · refine .inr ⟨hescaped, ?_⟩
      rw [List.length_append, List.length_append]
      omega

theorem isUnescaped_iff {s : List Char} : IsUnescaped s ↔ decodeBytes s = utf8 s := by
  obtain ⟨hunescaped, heq⟩ | ⟨hescaped, hlt⟩ := decodeBytes_cases s
  · exact iff_of_true hunescaped heq
  · refine iff_of_false hescaped fun heq => ?_
    rw [heq] at hlt
    exact hlt.false

instance (s : List Char) : Decidable (IsUnescaped s) := decidable_of_iff _ isUnescaped_iff.symm

/-! ### Encoding for a path -/

theorem hexDigitValue?_upperHexDigit {n : Nat} (h : n < 16) :
    hexDigitValue? (upperHexDigit n) = some n := by
  decide +revert

/-- An encoded byte is read as that byte. -/
theorem decodeBytes_encodeByte (b : UInt8) (s : List Char) :
    decodeBytes (encodeByte b ++ s) = b :: decodeBytes s := by
  have hb : b.toNat < 256 := b.toNat_lt
  have hdigits : b.toNat / 16 * 16 + b.toNat % 16 = b.toNat := by omega
  have hread := decodeBytes_percent (hexDigitValue?_upperHexDigit (n := b.toNat / 16) (by omega))
    (hexDigitValue?_upperHexDigit (n := b.toNat % 16) (by omega)) s
  rw [hdigits, UInt8.ofNat_toNat] at hread
  exact hread

theorem decodeBytes_flatMap_encodeByte (bytes : List UInt8) (s : List Char) :
    decodeBytes (bytes.flatMap encodeByte ++ s) = bytes ++ decodeBytes s := by
  induction bytes with
  | nil => rfl
  | cons b bytes ih =>
    rw [List.flatMap_cons, List.append_assoc, decodeBytes_encodeByte, ih, List.cons_append]

theorem toNat_lt_of_hexDigit {c : Char} (h : (hexDigitValue? c).isSome) : c.toNat < 128 := by
  have hlt (d : Char) (hd : d.toNat < 128) (hc : c ≤ d) : c.toNat < 128 :=
    Nat.lt_of_le_of_lt (UInt32.le_iff_toNat_le.1 hc) hd
  unfold hexDigitValue? at h
  split at h
  · exact hlt '9' (by decide) (And.right ‹_›)
  · split at h
    · exact hlt 'f' (by decide) (And.right ‹_›)
    · split at h
      · exact hlt 'F' (by decide) (And.right ‹_›)
      · cases h

/-- Neither percent signs nor hexadecimal digits are encoded in a path. -/
theorem pathSet_of_hexDigit {c : Char} (h : (hexDigitValue? c).isSome) :
    pathSet c = false ∧ c ≠ '%' :=
  of_ascii (P := fun c => (hexDigitValue? c).isSome → pathSet c = false ∧ c ≠ '%')
    (by decide +kernel) (toNat_lt_of_hexDigit h) h

theorem encode_cons (set : Char → Bool) (c : Char) (s : List Char) :
    encode set (c :: s) = encodeChar set c ++ encode set s := rfl

/-- An encoded character begins with a percent sign. -/
theorem exists_encodeChar {set : Char → Bool} {c : Char} (h : set c = true) :
    ∃ t, encodeChar set c = '%' :: t := by
  obtain ⟨b, bytes, hbytes⟩ := List.exists_cons_of_ne_nil (String.utf8EncodeChar_ne_nil (c := c))
  rw [encodeChar, if_pos h, hbytes]
  exact ⟨_, rfl⟩

/-- A digit at the beginning of an encoded text is one of the text itself. -/
theorem exists_of_prefix_encode {a : Char} (ha : (hexDigitValue? a).isSome) {r s : List Char}
    (h : a :: r <+: encode pathSet s) : ∃ t, s = a :: t ∧ r <+: encode pathSet t := by
  cases s with
  | nil => exact absurd (List.prefix_nil.1 h) (List.cons_ne_nil _ _)
  | cons c s =>
    rw [encode_cons] at h
    by_cases hset : pathSet c = true
    · obtain ⟨t, ht⟩ := exists_encodeChar hset
      rw [ht, List.cons_append, List.cons_prefix_cons] at h
      exact absurd h.1 (pathSet_of_hexDigit ha).2
    · rw [encodeChar, if_neg hset, List.singleton_append, List.cons_prefix_cons] at h
      exact ⟨s, by rw [h.1], h.2⟩

/-- **Encoding for a path does not change what is read.** -/
theorem decodeBytes_encode (s : List Char) : decodeBytes (encode pathSet s) = decodeBytes s := by
  induction s using percent_induction with
  | nil => rfl
  | pair a b s hpair ih =>
    obtain ⟨high, ha⟩ := Option.isSome_iff_exists.1 hpair.1
    obtain ⟨low, hb⟩ := Option.isSome_iff_exists.1 hpair.2
    have hkept : encode pathSet ('%' :: a :: b :: s) = '%' :: a :: b :: encode pathSet s := by
      have hpercent : pathSet '%' = false := by decide
      simp [encode_cons, encodeChar, hpercent, (pathSet_of_hexDigit hpair.1).1,
        (pathSet_of_hexDigit hpair.2).1]
    rw [hkept, decodeBytes_percent ha hb, decodeBytes_percent ha hb, ih]
  | char c s hhead ih =>
    rw [decodeBytes_cons hhead, ← ih, encode_cons]
    by_cases hset : pathSet c = true
    · rw [encodeChar, if_pos hset, decodeBytes_flatMap_encodeByte]
    · rw [encodeChar, if_neg hset, List.singleton_append]
      refine decodeBytes_cons fun a b hpair hprefix => ?_
      -- The two digits would stand in the text itself, after its percent sign.
      obtain ⟨rfl, hdigits⟩ := List.cons_prefix_cons.1 hprefix
      obtain ⟨t, rfl, hdigit⟩ := exists_of_prefix_encode hpair.1 hdigits
      obtain ⟨t, rfl, -⟩ := exists_of_prefix_encode hpair.2 hdigit
      exact hhead a b hpair (List.prefix_append ['%', a, b] t)

end DocStore.Url
