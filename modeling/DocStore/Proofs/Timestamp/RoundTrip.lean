import DocStore.Proofs.Text.Digits
import DocStore.Proofs.Timestamp.Calendar
import DocStore.Timestamp.Parser

/-!
# Reading what was written of a timestamp

* `Timestamp.number_padded` : a number that is written with a width is read back;
* `Timestamp.IsInstant` : what is true of every timestamp that was read
  (`Timestamp.isInstant_of_parse?`): only the last second of a minute can be a leap second;
* `Timestamp.cut` : a timestamp without what three digits of the seconds' fraction do not show;
* `Timestamp.parse?_text` : an instant of the years 0 to 9999 that is written with three digits after
  the point **is read back, cut to whole milliseconds**, also one within a leap second.

Years outside this range are written with a sign, which no text with an offset can have.
-/

namespace DocStore.Timestamp

/-! ### Digits -/

theorem ofDigits_eq (digits : List Char) : ofDigits digits = Nat.ofDigitChars 10 digits 0 := by
  rw [Nat.ofDigitChars_eq_foldl, ofDigits]
  simp only [Nat.mul_comm]

theorem ofDigits_append (front back : List Char) :
    ofDigits (front ++ back) = tenTo back.length * ofDigits front + ofDigits back := by
  simp only [ofDigits_eq]
  rw [Nat.ofDigitChars_append, Nat.ofDigitChars_eq_ofDigitChars_zero]
  rfl

theorem toNat_le_of_isDigit {c : Char} (h : c.isDigit = true) : c.toNat - '0'.toNat ≤ 9 := by
  simp only [Char.isDigit, Bool.and_eq_true, decide_eq_true_eq, UInt32.le_iff_toNat_le] at h
  have hle : c.toNat ≤ '9'.toNat := h.2
  have hnine : '9'.toNat - '0'.toNat = 9 := rfl
  omega

theorem ofDigits_lt {digits : List Char} (h : ∀ c ∈ digits, c.isDigit = true) :
    ofDigits digits < tenTo digits.length := by
  induction digits with
  | nil => decide
  | cons c digits ih =>
    have hrest := ih fun c' hc' => h c' (List.mem_cons_of_mem c hc')
    have hfirst : ofDigits [c] ≤ 9 := by
      simpa [ofDigits] using toNat_le_of_isDigit (h c List.mem_cons_self)
    calc ofDigits (c :: digits)
        = tenTo digits.length * ofDigits [c] + ofDigits digits := ofDigits_append [c] digits
      _ < tenTo digits.length * 9 + tenTo digits.length :=
        Nat.add_lt_add_of_le_of_lt (Nat.mul_le_mul_left _ hfirst) hrest
      _ = tenTo (c :: digits).length := by
        rw [List.length_cons, tenTo_add]
        exact (Nat.mul_succ (tenTo digits.length) 9).symm

theorem ofDigits_padded (width n : Nat) : ofDigits (padded width n) = n := by
  rw [ofDigits_eq, padded, Nat.ofDigitChars_append, Nat.ofDigitChars_replicate_zero, Nat.mul_zero,
    Nat.ofDigitChars_ten_toDigits]

theorem isDigit_of_mem_padded {width n : Nat} {c : Char} (h : c ∈ padded width n) :
    c.isDigit = true := by
  obtain hzero | hdigit := List.mem_append.1 h
  · rw [List.eq_of_mem_replicate hzero]
    rfl
  · exact Text.isDigit_of_mem_toDigits hdigit

theorem length_padded {width n : Nat} (hwidth : 0 < width) (h : n < tenTo width) :
    (padded width n).length = width := by
  have hle := (Nat.length_toDigits_le_iff (b := 10) (by decide) hwidth).2 h
  rw [padded, List.length_append, List.length_replicate]
  omega

/-- The first digits of a number that is written with a width are those of its quotient. -/
theorem ofDigits_take_padded {width n : Nat} (hwidth : 0 < width) (h : n < tenTo width) (k : Nat) :
    ofDigits ((padded width n).take k) = n / tenTo (width - k) := by
  have hlength : ((padded width n).drop k).length = width - k := by
    rw [List.length_drop, length_padded hwidth h]
  have hsplit := ofDigits_append ((padded width n).take k) ((padded width n).drop k)
  rw [List.take_append_drop, ofDigits_padded, hlength] at hsplit
  have hrest : ofDigits ((padded width n).drop k) < tenTo (width - k) := by
    rw [← hlength]
    exact ofDigits_lt fun c hc => isDigit_of_mem_padded (List.mem_of_mem_drop hc)
  generalize ofDigits ((padded width n).take k) = front at *
  rw [hsplit, Nat.mul_add_div (tenTo_pos _), Nat.div_eq_of_lt hrest, Nat.add_zero]

/-! ### Fields -/

/-- As many digits as a number may have are read, whatever follows. -/
theorem number_digits {digits : List Char} (hdigits : ∀ c ∈ digits, c.isDigit = true)
    {least most : Nat} (hlength : digits.length = most) (hleast : least ≤ most) (s : List Char) :
    number least most (digits ++ s) = some (ofDigits digits, s) := by
  have htaken : ((digits ++ s).take most).takeWhile Char.isDigit = digits := by
    rw [List.take_append_of_le_length (Nat.le_of_eq hlength.symm),
      List.take_of_length_le (Nat.le_of_eq hlength)]
    exact List.takeWhile_eq_self_iff.2 hdigits
  have hlong : ¬digits.length < least := Nat.not_lt.2 (hlength ▸ hleast)
  simp only [number, htaken, if_neg hlong]
  rw [List.drop_left' rfl]

/-- **A number that is written with a width is read back.** -/
theorem number_padded {width n : Nat} (hwidth : 0 < width) (h : n < tenTo width) (s : List Char) :
    number width width (padded width n ++ s) = some (n, s) := by
  rw [number_digits (fun c hc => isDigit_of_mem_padded hc) (length_padded hwidth h)
    (Nat.le_refl width), ofDigits_padded]

/-- The digits of a fraction are read as far as they go, and those after the ninth are dropped. -/
theorem fraction_digits {digits s : List Char} (hdigits : ∀ c ∈ digits, c.isDigit = true)
    (hsome : digits ≠ []) (hs : Text.Stops Char.isDigit s) :
    fraction ('.' :: (digits ++ s)) =
      some (ofDigits (digits.take 9) * tenTo (9 - (digits.take 9).length), s) := by
  have hnonempty : digits.isEmpty = false := List.isEmpty_eq_false_iff.2 hsome
  simp only [fraction, Text.takeWhile_run hdigits hs, Text.dropWhile_run hdigits hs, hnonempty]
  rfl

/-- The fraction of a second with three digits is the fraction without what they do not show. -/
theorem fraction_padded {n : Nat} (h : n < tenTo 9) (s : List Char) :
    fraction ('.' :: ((padded 9 n).take 3 ++ 'Z' :: s)) = some (n / 1000000 * 1000000, 'Z' :: s) := by
  have hdigits : ∀ c ∈ (padded 9 n).take 3, c.isDigit = true := fun c hc =>
    isDigit_of_mem_padded (List.mem_of_mem_take hc)
  have hlength : ((padded 9 n).take 3).length = 3 := by
    rw [List.length_take, length_padded (by decide) h]
    rfl
  have hsome : (padded 9 n).take 3 ≠ [] := by
    rw [← List.length_pos_iff, hlength]
    decide
  have hkept : ((padded 9 n).take 3).take 9 = (padded 9 n).take 3 := by
    rw [List.take_take]
    rfl
  rw [fraction_digits hdigits hsome (Text.stops_cons (by decide)), hkept, hlength,
    ofDigits_take_padded (by decide) h]
  rfl

/-- A reader goes on with what its first part has read. -/
theorem bind_eq_of_eq_some {α β : Type} {o : Option α} {a : α} {f : α → Option β} {x : Option β}
    (h : o = some a) (hrest : f a = x) : o >>= f = x := by
  rw [h]
  exact hrest

/-- **A date and a time of day that are written are read back**, the nanoseconds without what three
digits do not show. -/
theorem withOffset?_padded {year month day hour minute second nanos : Nat} (hyear : year < tenTo 4)
    (hmonth : month < tenTo 2) (hday : day < tenTo 2) (hhour : hour < tenTo 2) (hminute : minute < tenTo 2)
    (hsecond : second < tenTo 2) (hnanos : nanos < tenTo 9) :
    withOffset? (padded 4 year ++ '-' :: (padded 2 month ++ '-' :: (padded 2 day ++ 'T' ::
        (padded 2 hour ++ ':' :: (padded 2 minute ++ ':' :: (padded 2 second ++ '.' ::
          ((padded 9 nanos).take 3 ++ ['Z']))))))) =
      ofFields? ⟨year, month, day⟩ hour minute second (nanos / 1000000 * 1000000) := by
  have two : 0 < 2 := by decide
  refine bind_eq_of_eq_some (number_padded (by decide) hyear _) (bind_eq_of_eq_some rfl ?_)
  refine bind_eq_of_eq_some (number_padded two hmonth _) (bind_eq_of_eq_some rfl ?_)
  refine bind_eq_of_eq_some (number_padded two hday _) (bind_eq_of_eq_some rfl ?_)
  refine bind_eq_of_eq_some (number_padded two hhour _) (bind_eq_of_eq_some rfl ?_)
  refine bind_eq_of_eq_some (number_padded two hminute _) (bind_eq_of_eq_some rfl ?_)
  refine bind_eq_of_eq_some (number_padded two hsecond _) ?_
  refine bind_eq_of_eq_some (fraction_padded hnanos []) (bind_eq_of_eq_some rfl ?_)
  have hzero : ∀ t : Timestamp, t.addSeconds (-(0 * 60)) = t := fun t =>
    congrArg (fun seconds => { t with seconds }) (Int.add_zero t.seconds)
  cases hfields : ofFields? ⟨year, month, day⟩ hour minute second (nanos / 1000000 * 1000000) with
  | none => rfl
  | some t => exact congrArg some (hzero t)

/-! ### Instants -/

/-- Only the last second of a minute can be a leap second, and that lasts at most twice as long. -/
def IsInstant (t : Timestamp) : Prop :=
  t.nanos < 1000000000 ∨ t.nanos < 2000000000 ∧ t.seconds % 60 = 59

/-- A timestamp without what three digits of the fraction do not show. -/
def cut (t : Timestamp) : Timestamp := { t with nanos := t.nanos / 1000000 * 1000000 }

/-- The year in which a timestamp lies. -/
def year (t : Timestamp) : Int := (Date.ofDayNumber (t.seconds / daySeconds)).year

theorem isInstant_of_ofFields? {date : Date} {hour minute second nanos : Nat} {t : Timestamp}
    (hnanos : nanos < 1000000000) (h : ofFields? date hour minute second nanos = some t) :
    t.IsInstant := by
  simp only [ofFields?] at h
  split at h
  · cases h
    simp only [IsInstant, daySeconds]
    split <;> omega
  · cases h

theorem IsInstant.addMinutes {t : Timestamp} (h : t.IsInstant) (minutes : Int) :
    (t.addSeconds (-(minutes * 60))).IsInstant := by
  simp only [IsInstant, addSeconds] at h ⊢
  omega

theorem fraction_lt {s rest : List Char} {nanos : Nat} (h : fraction s = some (nanos, rest)) :
    nanos < 1000000000 := by
  unfold fraction at h
  split at h
  · rename_i s
    dsimp only at h
    split at h
    · cases h
    · cases h
      have hlt : ofDigits ((s.takeWhile Char.isDigit).take 9) <
          tenTo ((s.takeWhile Char.isDigit).take 9).length :=
        ofDigits_lt fun c hc => List.all_eq_true.1 List.all_takeWhile c (List.mem_of_mem_take hc)
      have hle : ((s.takeWhile Char.isDigit).take 9).length ≤ 9 := List.length_take_le ..
      generalize ((s.takeWhile Char.isDigit).take 9).length = k at hlt hle ⊢
      calc _ < tenTo k * tenTo (9 - k) := Nat.mul_lt_mul_of_pos_right hlt (tenTo_pos _)
        _ = 1000000000 := by
          rw [← tenTo_add, Nat.add_sub_of_le hle]
          rfl
  · cases h
    decide

/-- Whatever a reader yields is an instant. -/
def YieldsInstants (o : Option Timestamp) : Prop := ∀ t ∈ o, t.IsInstant

theorem YieldsInstants.bind {α : Type} {o : Option α} {f : α → Option Timestamp}
    (h : ∀ a ∈ o, YieldsInstants (f a)) : YieldsInstants (o >>= f) := by
  intro t ht
  obtain ⟨a, ha, hfa⟩ := Option.bind_eq_some_iff.1 ht
  exact h a ha t hfa

theorem yieldsInstants_withOffset? (s : List Char) : YieldsInstants (withOffset? s) := by
  refine .bind fun ⟨year, s⟩ _ => .bind fun s _ => .bind fun ⟨month, s⟩ _ => .bind fun s _ =>
    .bind fun ⟨day, s⟩ _ => .bind fun s _ => .bind fun ⟨hour, s⟩ _ => .bind fun s _ =>
    .bind fun ⟨minute, s⟩ _ => .bind fun s _ => .bind fun ⟨second, s⟩ _ =>
    .bind fun ⟨nanos, s⟩ hnanos => .bind fun ⟨minutesEast, s⟩ _ => ?_
  dsimp only
  split
  · exact .bind nofun
  · refine .bind fun localTime hlocal t ht => ?_
    cases ht
    exact (isInstant_of_ofFields? (fraction_lt hnanos) hlocal).addMinutes minutesEast

theorem yieldsInstants_withoutOffset? (s : List Char) : YieldsInstants (withoutOffset? s) := by
  refine .bind fun ⟨year, s⟩ _ => .bind fun s _ => .bind fun ⟨month, s⟩ _ => .bind fun s _ =>
    .bind fun ⟨day, s⟩ _ => .bind fun s _ => .bind fun ⟨hour, s⟩ _ => .bind fun s _ =>
    .bind fun ⟨minute, s⟩ _ => .bind fun s _ => .bind fun ⟨second, s⟩ _ =>
    .bind fun ⟨nanos, s⟩ hnanos => ?_
  dsimp only
  split
  · exact .bind nofun
  · exact fun t ht => isInstant_of_ofFields? (fraction_lt hnanos) ht

/-- Whatever is read is an instant. -/
theorem isInstant_of_parse? {text : String} {t : Timestamp} (h : parse? text = some t) :
    t.IsInstant := by
  cases hread : withOffset? text.toList with
  | none =>
    rw [parse?, hread] at h
    exact yieldsInstants_withoutOffset? _ t h
  | some t' =>
    rw [parse?, hread] at h
    cases h
    exact yieldsInstants_withOffset? _ t hread

/-- The date and the time of day of an instant are those of that instant. -/
theorem IsInstant.ofFields?_eq {t : Timestamp} (h : t.IsInstant) :
    let time := (t.seconds % daySeconds).toNat
    let leap := 1000000000 ≤ t.nanos
    ofFields? (.ofDayNumber (t.seconds / daySeconds)) (time / 3600) (time / 60 % 60)
        (time % 60 + if leap then 1 else 0)
        ((if leap then t.nanos - 1000000000 else t.nanos) / 1000000 * 1000000) = some t.cut := by
  intro time leap
  obtain ⟨hexists, hnumber⟩ := Date.ofDayNumber_spec (t.seconds / daySeconds)
  have htime : (time : Int) = t.seconds - t.seconds / daySeconds * daySeconds ∧ time < 86400 := by
    simp only [time, daySeconds]
    omega
  have hleap : leap → time % 60 = 59 := by
    simp only [IsInstant, leap, time, daySeconds] at h ⊢
    omega
  have hfields : ((Date.ofDayNumber (t.seconds / daySeconds)).exists? && time / 3600 < 24 &&
      time / 60 % 60 < 60 && time % 60 + (if leap then 1 else 0) ≤ 60) = true := by
    simp only [hexists, Bool.true_and, Bool.and_eq_true, decide_eq_true_eq]
    split <;> omega
  simp only [ofFields?]
  rw [if_pos hfields, hnumber, cut, Option.some.injEq, Timestamp.mk.injEq]
  generalize t.seconds / daySeconds * daySeconds = midnight at htime ⊢
  by_cases hleap' : leap
  · simp only [if_pos hleap', hleap hleap', if_true]
    have hlast := hleap hleap'
    have hnanos : 1000000000 ≤ t.nanos := hleap'
    omega
  · have hsecond : time % 60 ≠ 60 := by omega
    simp only [if_neg hleap', Nat.add_zero, if_neg hsecond, and_true]
    omega

/-- **An instant of the years 0 to 9999 that is written with three digits after the point is read
back**, cut to whole milliseconds. -/
theorem parse?_text {t : Timestamp} (h : t.IsInstant) (hleast : 0 ≤ t.year) (hmost : t.year ≤ 9999) :
    parse? (t.text 3) = some t.cut := by
  have hfields := h.ofFields?_eq
  obtain ⟨hmonth, hday⟩ := Date.ofDayNumber_lt (t.seconds / daySeconds)
  have htime : (t.seconds % daySeconds).toNat < 86400 := by
    simp only [daySeconds]
    omega
  have hnanos : (if 1000000000 ≤ t.nanos then t.nanos - 1000000000 else t.nanos) < tenTo 9 := by
    simp only [IsInstant] at h
    have hnine : tenTo 9 = 1000000000 := rfl
    split <;> omega
  simp only [year] at hleast hmost
  simp only [text]
  generalize Date.ofDayNumber (t.seconds / daySeconds) = date at *
  generalize (t.seconds % daySeconds).toNat = time at *
  have hyear : (date.year.natAbs : Int) = date.year := Int.natAbs_of_nonneg hleast
  have htwo : tenTo 2 = 100 := rfl
  have hfour : tenTo 4 = 10000 := rfl
  have hdigits : date.year.natAbs < tenTo 4 := by omega
  have hhour : time / 3600 < tenTo 2 := by omega
  have hminute : time / 60 % 60 < tenTo 2 := by omega
  have hsecond : time % 60 + (if 1000000000 ≤ t.nanos then 1 else 0) < tenTo 2 := by
    split <;> omega
  have hread := withOffset?_padded hdigits hmonth hday hhour hminute hsecond hnanos
  rw [hyear, hfields] at hread
  simp only [parse?, String.toList_ofList, yearChars, if_pos (And.intro hleast hmost),
    List.append_assoc, List.cons_append, hread]
  rfl

end DocStore.Timestamp
