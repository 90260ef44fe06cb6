import DocStore.Proofs.Api.Reply
import DocStore.Proofs.Timestamp.RoundTrip

/-!
# Timestamps with and without an offset

Two readers stand behind `Timestamp.parse?`: one for texts with an offset from universal time, whose
fields all have their full width, and one for texts without an offset, which is laxer.  A text of the
full form `YYYY-MM-DDThh:mm:ss` with any fraction (`Timestamp.Writing`) means the same to both.

* `Timestamp.Writing.withOffset?_append`, `Timestamp.Writing.withoutOffset?_append` : what each reader
  makes of such a text with something behind it;
* `Timestamp.Minute.instant?_earlier`, `Timestamp.Minute.instant?_later` : an instant is moved by minutes
  as its date and time of day are moved over the calendar;
* `Timestamp.offset_moves_instant` : **a missing offset is universal time, and an offset moves the
  instant**, back if it is east and forward if it is west.

The second 60 is allowed in every minute and moves with the others, since offsets are whole minutes.
-/

namespace DocStore.Timestamp

/-! ### Texts of the full form -/

/-- As many decimal digits as a field is wide. -/
structure Digits (width : Nat) where
  chars : List Char
  length_eq : chars.length = width
  isDigit : ∀ c ∈ chars, c.isDigit = true

/-- The number that digits write. -/
def Digits.value {width : Nat} (d : Digits width) : Nat := Nat.ofDigitChars 10 d.chars 0

/-- What is written of a date and a time of day. -/
structure Writing where
  year : Digits 4
  month : Digits 2
  day : Digits 2
  hour : Digits 2
  minute : Digits 2
  second : Digits 2
  /-- The digits after the point; without any there is no point. -/
  fraction : List Char := []
  isDigit_fraction : ∀ c ∈ fraction, c.isDigit = true

/-- A minute of a day. -/
structure Minute where
  date : Date
  hour : Nat
  minute : Nat
deriving DecidableEq

namespace Writing

variable (w : Writing)

/-- The characters of the fraction, with its point. -/
def fractionChars : List Char := if w.fraction.isEmpty then [] else '.' :: w.fraction

/-- The characters of a date and a time of day. -/
def chars : List Char :=
  w.year.chars ++ '-' :: (w.month.chars ++ '-' :: (w.day.chars ++ 'T' :: (w.hour.chars ++ ':' ::
    (w.minute.chars ++ ':' :: (w.second.chars ++ w.fractionChars)))))

/-- The text of a date and a time of day. -/
def text : String := String.ofList w.chars

/-- The minute that is written. -/
def clock : Minute := ⟨⟨w.year.value, w.month.value, w.day.value⟩, w.hour.value, w.minute.value⟩

/-- The nanoseconds that are written: the first nine digits of the fraction, zeros where it is
shorter. -/
def nanos : Nat := Nat.ofDigitChars 10 ((w.fraction ++ List.replicate 9 '0').take 9) 0

end Writing

namespace Minute

/-- The date is one of the calendar and the time of day one of a clock. -/
def Exists (m : Minute) : Prop := m.date.exists? = true ∧ m.hour < 24 ∧ m.minute < 60

/-- The instant of a second of a minute, if there are such. -/
def instant? (m : Minute) (second nanos : Nat) : Option Timestamp :=
  ofFields? m.date m.hour m.minute second nanos

/-- The minutes of a day before a minute. -/
def place (m : Minute) : Nat := m.hour * 60 + m.minute

/-- The minute of a date with so many minutes of the day before it. -/
def ofPlace (date : Date) (place : Nat) : Minute := ⟨date, place / 60, place % 60⟩

/-- The minute a number of minutes before, fewer than a day has. -/
def earlier (m : Minute) (minutes : Nat) : Minute :=
  if minutes ≤ m.place then ofPlace m.date (m.place - minutes)
  else ofPlace m.date.previous (m.place + 1440 - minutes)

/-- The minute a number of minutes after, fewer than a day has. -/
def later (m : Minute) (minutes : Nat) : Minute :=
  if m.place + minutes < 1440 then ofPlace m.date (m.place + minutes)
  else ofPlace m.date.next (m.place + minutes - 1440)

end Minute

/-- The text of an offset: a sign, hours and minutes. -/
def offsetText (sign : Char) (hours minutes : Digits 2) : String :=
  String.ofList (sign :: (hours.chars ++ ':' :: minutes.chars))

/-! ### Fields -/

namespace Digits

variable {width : Nat} (d : Digits width)

theorem value_lt : d.value < tenTo width := by
  have hlt := ofDigits_lt d.isDigit
  rwa [d.length_eq, ofDigits_eq] at hlt

theorem number_append {least : Nat} (h : least ≤ width) (s : List Char) :
    number least width (d.chars ++ s) = some (d.value, s) := by
  rw [number_digits d.isDigit d.length_eq h, ofDigits_eq]
  rfl

theorem exists_cons (h : 0 < width) : ∃ c cs, d.chars = c :: cs ∧ c.isDigit = true := by
  cases hchars : d.chars with
  | nil =>
    have hlength := d.length_eq
    rw [hchars] at hlength
    simp at hlength
    omega
  | cons c cs => exact ⟨c, cs, rfl, d.isDigit c (hchars ▸ List.mem_cons_self)⟩

/-- No blanks stand before digits. -/
theorem trimStart_append (h : 0 < width) (s : List Char) :
    Text.trimStart (d.chars ++ s) = d.chars ++ s := by
  obtain ⟨c, cs, hchars, hdigit⟩ := d.exists_cons h
  have hblank : Text.isBlank c = false := by
    refine Bool.eq_false_iff.2 fun hblank => ?_
    rw [Text.isDigit_eq_false_of_isBlank hblank] at hdigit
    cases hdigit
  rw [hchars, List.cons_append, Text.trimStart, List.dropWhile_cons_of_neg (by simp [hblank])]

end Digits

theorem looseField_append (d : Digits 2) (s : List Char) :
    looseField (d.chars ++ s) = some (d.value, s) := by
  rw [looseField, d.trimStart_append (by decide), d.number_append (by decide)]

theorem looseYear_append (d : Digits 4) (s : List Char) :
    looseYear (d.chars ++ s) = some ((d.value : Int), s) := by
  have hnumber : number 1 4 (d.chars ++ s) = some (d.value, s) := d.number_append (by decide) s
  obtain ⟨c, cs, hchars, hdigit⟩ := d.exists_cons (by decide)
  have hsign : c ≠ '-' ∧ c ≠ '+' := by
    constructor <;> rintro rfl <;> cases hdigit
  unfold looseYear
  rw [d.trimStart_append (by decide)]
  rw [hchars, List.cons_append] at hnumber ⊢
  split
  · rename_i heq
    exact absurd (List.cons.inj heq).1 hsign.1
  · rename_i heq
    exact absurd (List.cons.inj heq).1 hsign.2
  · rw [hnumber]
    rfl

namespace Writing

variable (w : Writing) {rest : List Char}

/-- What may stand behind a fraction: no digit, which would go on with it, and no point. -/
def Follows (rest : List Char) : Prop := Text.Stops (fun c => c.isDigit || c = '.') rest

theorem nanos_eq : w.nanos =
    ofDigits (w.fraction.take 9) * tenTo (9 - (w.fraction.take 9).length) := by
  have hplaces : 9 - (w.fraction.take 9).length = 9 - w.fraction.length := by
    rw [List.length_take]
    omega
  rw [nanos, ← ofDigits_eq, List.take_append, List.take_replicate, ofDigits_append,
    ofDigits_eq (List.replicate _ _), Nat.ofDigitChars_replicate_zero, List.length_replicate, hplaces,
    Nat.min_eq_left (Nat.sub_le _ _), Nat.mul_zero, Nat.add_zero, Nat.mul_comm]

theorem fraction_append (h : Follows rest) :
    Timestamp.fraction (w.fractionChars ++ rest) = some (w.nanos, rest) := by
  by_cases hempty : w.fraction.isEmpty
  · have hnil := List.isEmpty_iff.1 hempty
    have hzero : w.nanos = 0 := by
      rw [nanos_eq, hnil]
      rfl
    rw [fractionChars, if_pos hempty, hzero]
    cases rest with
    | nil => rfl
    | cons c s =>
      have hpoint : c ≠ '.' := by
        rintro rfl
        cases h '.' rfl
      unfold Timestamp.fraction
      split
      · rename_i heq
        exact absurd (List.cons.inj heq).1 hpoint
      · rfl
  · have hstops : Text.Stops Char.isDigit rest := fun c hc => (Bool.or_eq_false_iff.1 (h c hc)).1
    have hsome : w.fraction ≠ [] := fun hnil => hempty (List.isEmpty_iff.2 hnil)
    rw [fractionChars, if_neg hempty, List.cons_append,
      fraction_digits w.isDigit_fraction hsome hstops, nanos_eq]

/-- The instant that is written, in universal time. -/
def instant? : Option Timestamp := w.clock.instant? w.second.value w.nanos

/-! ### The two readers -/

/-- **The reader of texts with an offset** reads the fields, and then the offset has to come. -/
theorem withOffset?_append (h : Follows rest) :
    withOffset? (w.chars ++ rest) = offset rest >>= fun (minutesEast, s) =>
      if !s.isEmpty then none
      else w.instant?.map fun t => t.addSeconds (-(minutesEast * 60)) := by
  simp only [chars, List.append_assoc, List.cons_append]
  refine bind_eq_of_eq_some (w.year.number_append (Nat.le_refl 4) _) (bind_eq_of_eq_some rfl ?_)
  refine bind_eq_of_eq_some (w.month.number_append (Nat.le_refl 2) _) (bind_eq_of_eq_some rfl ?_)
  refine bind_eq_of_eq_some (w.day.number_append (Nat.le_refl 2) _) (bind_eq_of_eq_some rfl ?_)
  refine bind_eq_of_eq_some (w.hour.number_append (Nat.le_refl 2) _) (bind_eq_of_eq_some rfl ?_)
  refine bind_eq_of_eq_some (w.minute.number_append (Nat.le_refl 2) _) (bind_eq_of_eq_some rfl ?_)
  refine bind_eq_of_eq_some (w.second.number_append (Nat.le_refl 2) _) ?_
  refine bind_eq_of_eq_some (w.fraction_append h) ?_
  dsimp only
  cases offset rest with
  | none => rfl
  | some read =>
    obtain ⟨minutesEast, s⟩ := read
    cases s with
    | nil =>
      show (w.instant? >>= fun t => some (t.addSeconds (-(minutesEast * 60)))) = w.instant?.map _
      cases w.instant? <;> rfl
    | cons c s => rfl

/-- **The reader of texts without an offset** reads the same fields, and nothing may come. -/
theorem withoutOffset?_append (h : Follows rest) :
    withoutOffset? (w.chars ++ rest) = if rest.isEmpty then w.instant? else none := by
  have hrange : yearInRange w.year.value = true := by
    have hlt : w.year.value < 10000 := w.year.value_lt
    simp only [yearInRange, Bool.and_eq_true, decide_eq_true_eq]
    omega
  simp only [chars, List.append_assoc, List.cons_append]
  refine bind_eq_of_eq_some (looseYear_append w.year _) (bind_eq_of_eq_some rfl ?_)
  refine bind_eq_of_eq_some (looseField_append w.month _) (bind_eq_of_eq_some rfl ?_)
  refine bind_eq_of_eq_some (looseField_append w.day _) (bind_eq_of_eq_some rfl ?_)
  refine bind_eq_of_eq_some (looseField_append w.hour _) (bind_eq_of_eq_some rfl ?_)
  refine bind_eq_of_eq_some (looseField_append w.minute _) (bind_eq_of_eq_some rfl ?_)
  refine bind_eq_of_eq_some (looseField_append w.second _) ?_
  refine bind_eq_of_eq_some (w.fraction_append h) ?_
  cases rest with
  | nil =>
    simp only [hrange]
    rfl
  | cons c s => rfl

theorem parse?_append (h : Follows rest) : parse? (w.text ++ String.ofList rest) =
    (withOffset? (w.chars ++ rest) <|> if rest.isEmpty then w.instant? else none) := by
  rw [parse?, text, String.toList_append, String.toList_ofList, String.toList_ofList,
    w.withoutOffset?_append h]

/-- Without an offset, the time is universal time. -/
theorem parse?_text_eq : parse? w.text = w.instant? := by
  have hnothing : Follows [] := Text.stops_nil
  have hread := w.parse?_append hnothing
  rw [String.ofList_nil, String.append_empty, w.withOffset?_append hnothing] at hread
  exact hread

/-- With an offset, the time is that of a place so many minutes east. -/
theorem parse?_of_offset (h : Follows rest) {minutesEast : Int}
    (hoffset : offset rest = some (minutesEast, [])) :
    parse? (w.text ++ String.ofList rest) =
      (parse? w.text).map fun t => t.addSeconds (-minutesEast * 60) := by
  rw [w.parse?_append h, w.withOffset?_append h, hoffset, parse?_text_eq, Int.neg_mul]
  cases rest with
  | nil => cases hoffset
  | cons c s =>
    show (w.instant?.map _ <|> none) = w.instant?.map _
    cases w.instant? <;> rfl

end Writing

/-- Hours and minutes of an offset of less than a day are read, and a sign says in which direction. -/
theorem offset_offsetText {hours minutes : Digits 2} (hhours : hours.value ≤ 23)
    (hminutes : minutes.value ≤ 59) {sign : Char} (hsign : sign = '+' ∨ sign = '-') :
    offset (sign :: (hours.chars ++ ':' :: minutes.chars)) =
      let shift := hours.value * 60 + minutes.value
      some (if sign = '+' then (shift : Int) else -(shift : Int), []) := by
  have hnumber := minutes.number_append (Nat.le_refl 2) []
  rw [List.append_nil] at hnumber
  have hfit : minutes.value < 60 ∧ hours.value < 24 := by omega
  have hzulu : ¬(sign = 'Z' ∨ sign = 'z') := by
    rintro (rfl | rfl) <;> simp at hsign
  have hknown : sign = '+' ∨ sign = '-' ∨ sign = '\u2212' :=
    hsign.imp_right Or.inl
  rw [offset, if_neg hzulu, if_pos hknown]
  refine bind_eq_of_eq_some (hours.number_append (Nat.le_refl 2) _) (bind_eq_of_eq_some rfl ?_)
  refine bind_eq_of_eq_some hnumber ?_
  dsimp only
  rw [if_pos hfit, Int.natCast_add, Int.natCast_mul]
  rfl

/-! ### The calendar -/

namespace Minute

variable {m : Minute} {second nanos minutes : Nat}

theorem instant?_of_exists (h : m.Exists) (hsecond : second ≤ 60) :
    m.instant? second nanos = some
      ⟨m.date.dayNumber * daySeconds + (m.place * 60 + min second 59 : Nat),
        if second = 60 then nanos + 1000000000 else nanos⟩ := by
  have hfields : (m.date.exists? && m.hour < 24 && m.minute < 60 && second ≤ 60) = true := by
    simp only [Bool.and_eq_true, decide_eq_true_eq]
    exact ⟨⟨⟨h.1, h.2.1⟩, h.2.2⟩, hsecond⟩
  have hplace : m.hour * 3600 + m.minute * 60 = m.place * 60 := by
    simp only [place]
    omega
  simp only [instant?, ofFields?]
  rw [if_pos hfields, hplace]

theorem instant?_eq_none_iff : m.instant? second nanos = none ↔ ¬(m.Exists ∧ second ≤ 60) := by
  constructor
  · rintro hnone ⟨hexists, hsecond⟩
    rw [instant?_of_exists hexists hsecond] at hnone
    cases hnone
  · intro h
    refine if_neg fun hfields => h ?_
    simp only [Bool.and_eq_true, decide_eq_true_eq] at hfields
    exact ⟨⟨hfields.1.1.1, hfields.1.1.2, hfields.1.2⟩, hfields.2⟩

theorem place_lt (h : m.Exists) : m.place < 1440 := by
  obtain ⟨-, hhour, hminute⟩ := h
  simp only [place]
  omega

theorem exists_ofPlace {date : Date} {place : Nat} (h : date.exists? = true) (hlt : place < 1440) :
    (ofPlace date place).Exists := by
  refine ⟨h, ?_, ?_⟩
  · show place / 60 < 24
    omega
  · show place % 60 < 60
    omega

theorem place_ofPlace (date : Date) (p : Nat) : (ofPlace date p).place = p := by
  show p / 60 * 60 + p % 60 = p
  omega

/-- Two minutes that lie so many minutes apart have instants that do. -/
theorem instant?_of_apart {m' : Minute} (h : m.Exists) (h' : m'.Exists) {apart : Int}
    (hapart : m'.date.dayNumber * 1440 + m'.place = m.date.dayNumber * 1440 + m.place + apart) :
    m'.instant? second nanos = (m.instant? second nanos).map fun t => t.addSeconds (apart * 60) := by
  by_cases hsecond : second ≤ 60
  · rw [instant?_of_exists h hsecond, instant?_of_exists h' hsecond, Option.map_some,
      Option.some.injEq, addSeconds, Timestamp.mk.injEq]
    refine ⟨?_, rfl⟩
    simp only [daySeconds]
    omega
  · rw [instant?_eq_none_iff.2 fun hm => hsecond hm.2, instant?_eq_none_iff.2 fun hm => hsecond hm.2]
    rfl

theorem exists_earlier (h : m.Exists) (hminutes : minutes < 1440) : (m.earlier minutes).Exists := by
  have hplace := place_lt h
  unfold earlier
  split
  · exact exists_ofPlace h.1 (by omega)
  · exact exists_ofPlace (Date.previous_spec h.1).1 (by omega)

theorem exists_later (h : m.Exists) (hminutes : minutes < 1440) : (m.later minutes).Exists := by
  have hplace := place_lt h
  unfold later
  split
  · rename_i hlt
    exact exists_ofPlace h.1 hlt
  · exact exists_ofPlace (Date.next_spec h.1).1 (by omega)

/-- **The instant of an earlier minute** is that of the minute moved back, over the start of the day
too. -/
theorem instant?_earlier (h : m.Exists) (hminutes : minutes < 1440) :
    (m.earlier minutes).instant? second nanos =
      (m.instant? second nanos).map fun t => t.addSeconds (-(minutes : Int) * 60) := by
  refine instant?_of_apart h (exists_earlier h hminutes) ?_
  have hday := (Date.previous_spec h.1).2
  unfold earlier
  split
  · rw [place_ofPlace]
    simp only [ofPlace]
    omega
  · rw [place_ofPlace]
    simp only [ofPlace, hday]
    omega

/-- **The instant of a later minute** is that of the minute moved forward, over the end of the day
too. -/
theorem instant?_later (h : m.Exists) (hminutes : minutes < 1440) :
    (m.later minutes).instant? second nanos =
      (m.instant? second nanos).map fun t => t.addSeconds ((minutes : Int) * 60) := by
  refine instant?_of_apart h (exists_later h hminutes) ?_
  have hday := (Date.next_spec h.1).2
  unfold later
  split
  · rw [place_ofPlace]
    simp only [ofPlace]
    omega
  · rw [place_ofPlace]
    simp only [ofPlace, hday]
    omega

end Minute

/-- **A missing offset is universal time, and an offset moves the instant.**  A text without an offset
and the text with a `Z` are read as the same instant, which is missing exactly if the date or the time of
day is none.  An offset of less than a day moves it back if it is east of universal time and forward if
it is west, and where it leads is what the calendar says, across days, months and years. -/
theorem offset_moves_instant (w : Writing) :
    (parse? w.text = w.instant? ∧ parse? (w.text ++ "Z") = parse? w.text) ∧
    (parse? w.text = none ↔ ¬(w.clock.Exists ∧ w.second.value ≤ 60)) ∧
    ∀ hours minutes : Digits 2, hours.value ≤ 23 → minutes.value ≤ 59 →
      let east := parse? (w.text ++ offsetText '+' hours minutes)
      let west := parse? (w.text ++ offsetText '-' hours minutes)
      let shift := hours.value * 60 + minutes.value
      east = (parse? w.text).map (fun t => t.addSeconds (-(shift : Int) * 60)) ∧
      west = (parse? w.text).map (fun t => t.addSeconds ((shift : Int) * 60)) ∧
      (w.clock.Exists →
        east = (w.clock.earlier shift).instant? w.second.value w.nanos ∧
        west = (w.clock.later shift).instant? w.second.value w.nanos) := by
  refine ⟨⟨w.parse?_text_eq, ?_⟩, ?_, ?_⟩
  · have hletter : Writing.Follows ['Z'] := Text.stops_cons (by decide)
    have hzulu := w.parse?_of_offset hletter rfl
    have hstays : (fun t : Timestamp => t.addSeconds (-0 * 60)) = id :=
      funext fun t => congrArg (fun seconds => { t with seconds }) (Int.add_zero t.seconds)
    rwa [hstays, Option.map_id] at hzulu
  · rw [w.parse?_text_eq]
    exact Minute.instant?_eq_none_iff
  · intro hours minutes hhours hminutes east west shift
    have heast : east = (parse? w.text).map (fun t => t.addSeconds (-(shift : Int) * 60)) :=
      w.parse?_of_offset (Text.stops_cons (by decide)) (offset_offsetText hhours hminutes (.inl rfl))
    have hwest : west = (parse? w.text).map (fun t => t.addSeconds (- -(shift : Int) * 60)) :=
      w.parse?_of_offset (Text.stops_cons (by decide)) (offset_offsetText hhours hminutes (.inr rfl))
    rw [Int.neg_neg] at hwest
    refine ⟨heast, hwest, fun hexists => ?_⟩
    have hshift : shift < 1440 := by omega
    rw [heast, hwest, w.parse?_text_eq]
    exact ⟨(Minute.instant?_earlier hexists hshift).symm, (Minute.instant?_later hexists hshift).symm⟩

/-- Half an hour and half a second after the end of February 2016. -/
def earlyMarch : Writing where
  year := ⟨['2', '0', '1', '6'], rfl, List.all_eq_true.1 rfl⟩
  month := ⟨['0', '3'], rfl, List.all_eq_true.1 rfl⟩
  day := ⟨['0', '1'], rfl, List.all_eq_true.1 rfl⟩
  hour := ⟨['0', '0'], rfl, List.all_eq_true.1 rfl⟩
  minute := ⟨['3', '0'], rfl, List.all_eq_true.1 rfl⟩
  second := ⟨['0', '0'], rfl, List.all_eq_true.1 rfl⟩
  fraction := ['5']
  isDigit_fraction := List.all_eq_true.1 rfl

/-- An hour east of universal time it was still the leap day there. -/
theorem offset_moves_instant_leapDay :
    let one : Digits 2 := ⟨['0', '1'], rfl, List.all_eq_true.1 rfl⟩
    let zero : Digits 2 := ⟨['0', '0'], rfl, List.all_eq_true.1 rfl⟩
    one.value ≤ 23 ∧ zero.value ≤ 59 ∧ earlyMarch.clock.Exists ∧
      parse? (earlyMarch.text ++ offsetText '+' one zero) =
        ofFields? ⟨2016, 2, 29⟩ 23 30 0 500000000 ∧
      parse? (earlyMarch.text ++ offsetText '-' one zero) =
        ofFields? ⟨2016, 3, 1⟩ 1 30 0 500000000 := by
  intro one zero
  have hone : one.value ≤ 23 := by decide
  have hzero : zero.value ≤ 59 := by decide
  have hexists : earlyMarch.clock.Exists := ⟨by decide, by decide, by decide⟩
  have hearlier : earlyMarch.clock.earlier (one.value * 60 + zero.value) = ⟨⟨2016, 2, 29⟩, 23, 30⟩ := by
    decide
  have hlater : earlyMarch.clock.later (one.value * 60 + zero.value) = ⟨⟨2016, 3, 1⟩, 1, 30⟩ := by
    decide
  have hnanos : earlyMarch.nanos = 500000000 := by decide
  have hsecond : earlyMarch.second.value = 0 := by decide
  obtain ⟨-, -, hmoved⟩ := (offset_moves_instant earlyMarch).2.2 one zero hone hzero
  obtain ⟨heast, hwest⟩ := hmoved hexists
  rw [hearlier, hsecond, hnanos] at heast
  rw [hlater, hsecond, hnanos] at hwest
  exact ⟨hone, hzero, hexists, heast, hwest⟩

end DocStore.Timestamp
