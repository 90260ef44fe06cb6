import Mathlib.Order.Basic
import DocStore.Timestamp.Calendar

/-!
# Days and dates

Every day has a date, and the date leads back to the day.

* `Date.daysBeforeYear_of_cycle` : the days before a year, by cycles of 400 years, centuries, four years
  and single years;
* `Date.ofDayOfYear_spec` : a day of a year is found in the month that it lies in;
* `Date.ofDayNumber_spec` : **the date of a day exists, and it is the date of that day**;
* `Date.next_spec`, `Date.previous_spec` : the calendar leads from day to day, over the ends of months
  and years.
-/

namespace DocStore.Date

/-! ### Years -/

/-- The days before a year, whose place in its cycle of 400 years, in its century and in its four years
is known. -/
theorem daysBeforeYear_of_cycle {cycle : Int} {century leap single : Nat} (hcentury : century ≤ 3)
    (hleap : leap ≤ 24) (hsingle : single ≤ 3) :
    daysBeforeYear (400 * cycle + 100 * century + 4 * leap + single + 1) =
      146097 * cycle + 36524 * century + 1461 * leap + 365 * single := by
  simp only [daysBeforeYear]
  omega

/-- The last of four years has a day more, unless it ends a century that does not end a cycle. -/
theorem isLeapYear_of_cycle (cycle : Int) {century leap : Nat} (hleap : leap ≤ 24)
    (hlast : leap = 24 → century = 3) :
    isLeapYear (400 * cycle + 100 * century + 4 * leap + 3 + 1) = true := by
  simp only [isLeapYear, Bool.and_eq_true, Bool.or_eq_true, beq_iff_eq, bne_iff_ne]
  omega

/-! ### Months -/

theorem daysBeforeMonth_succ (year : Int) {month : Nat} (h : 1 ≤ month) :
    daysBeforeMonth year (month + 1) = daysBeforeMonth year month + daysInMonth year month := by
  obtain ⟨month, rfl⟩ := Nat.exists_eq_add_of_le' h
  rfl

/-- The days of a year are those before its thirteenth month. -/
theorem daysBeforeMonth_end (year : Int) :
    daysBeforeMonth year 13 = if isLeapYear year then 366 else 365 := by
  simp only [daysBeforeMonth, daysInMonth]
  split <;> rfl

/-- A day that lies in one of some months of a year is found in the month that it lies in. -/
theorem ofDayOfYear_spec {year : Int} {first count day : Nat} (hfirst : 1 ≤ first)
    (hday : daysBeforeMonth year first + day < daysBeforeMonth year (first + count)) :
    ∃ month day', ofDayOfYear year day (List.range' first count) = ⟨year, month, day' + 1⟩ ∧
      first ≤ month ∧ month < first + count ∧ day' < daysInMonth year month ∧
      daysBeforeMonth year month + day' = daysBeforeMonth year first + day := by
  induction count generalizing first day with
  | zero =>
    rw [Nat.add_zero] at hday
    omega
  | succ count ih =>
    rw [List.range'_succ, ofDayOfYear]
    split
    · rename_i hlt
      exact ⟨first, day, rfl, Nat.le_refl _, by omega, hlt, rfl⟩
    · rename_i hge
      have hsucc := daysBeforeMonth_succ year hfirst
      have hrest : daysBeforeMonth year (first + 1) + (day - daysInMonth year first) <
          daysBeforeMonth year (first + 1 + count) := by
        rw [Nat.add_right_comm, Nat.add_assoc first]
        omega
      obtain ⟨month, day', heq, hle, hlt, hin, hbefore⟩ := ih (Nat.le_add_left 1 first) hrest
      exact ⟨month, day', heq, by omega, by omega, hin, by omega⟩

/-! ### Days -/

/-- The day of a cycle of 400 years as a century, four years, a single year and the day of that year.
Only the last of four years, which is not the last of the first three centuries, has a 366th day. -/
theorem split_cycle {day : Nat} (hday : day < 146097) :
    let century := min (day / 36524) 3
    let leap := (day - century * 36524) / 1461
    let inLeap := (day - century * 36524) % 1461
    let single := min (inLeap / 365) 3
    century ≤ 3 ∧ leap ≤ 24 ∧ single ≤ 3 ∧
      36524 * century + 1461 * leap + 365 * single + (inLeap - single * 365) = day ∧
      (inLeap - single * 365 < 365 ∨
        inLeap - single * 365 = 365 ∧ single = 3 ∧ (leap = 24 → century = 3)) := by
  omega

/-- The year of a day and the day's place in it. -/
theorem ofDayNumber_eq (n : Int) :
    ∃ year day, ofDayNumber n = ofDayOfYear year day (List.range' 1 12) ∧
      daysBeforeYear year + day = n + epochDays ∧ day < daysBeforeMonth year (1 + 12) := by
  refine ⟨_, _, rfl, ?_⟩
  have hcycle : ((n + epochDays) % 146097).toNat < 146097 := by omega
  have hday : n + epochDays =
      146097 * ((n + epochDays) / 146097) + ((n + epochDays) % 146097).toNat := by omega
  generalize (n + epochDays) / 146097 = cycle at hday ⊢
  generalize ((n + epochDays) % 146097).toNat = inCycle at hcycle hday ⊢
  obtain ⟨hcentury, hleap, hsingle, hsplit, hlast⟩ := split_cycle hcycle
  generalize min (inCycle / 36524) 3 = century at *
  generalize (inCycle - century * 36524) / 1461 = leap at *
  generalize (inCycle - century * 36524) % 1461 = inLeap at *
  generalize min (inLeap / 365) 3 = single at *
  generalize inLeap - single * 365 = inYear at *
  rw [daysBeforeYear_of_cycle hcentury hleap hsingle, daysBeforeMonth_end]
  refine ⟨by omega, ?_⟩
  obtain hlt | ⟨rfl, rfl, hend⟩ := hlast
  · split <;> omega
  · have hyear := isLeapYear_of_cycle cycle hleap hend
    exact (if_pos hyear).symm ▸ Nat.lt_succ_self 365

/-- **The date of a day exists**, and it is the date of that day. -/
theorem ofDayNumber_spec (n : Int) :
    (ofDayNumber n).exists? = true ∧ (ofDayNumber n).dayNumber = n := by
  obtain ⟨year, day, heq, hnumber, hday⟩ := ofDayNumber_eq n
  have hfirst : daysBeforeMonth year 1 = 0 := rfl
  obtain ⟨month, day', hdate, hle, hlt, hin, hbefore⟩ :=
    ofDayOfYear_spec (Nat.le_refl 1) (by rwa [hfirst, Nat.zero_add])
  rw [heq, hdate]
  constructor
  · simp only [exists?, Bool.and_eq_true, decide_eq_true_eq]
    omega
  · simp only [dayNumber]
    omega

/-- Month and day have two digits. -/
theorem ofDayNumber_lt (n : Int) :
    (ofDayNumber n).month < 100 ∧ (ofDayNumber n).day < 100 := by
  obtain ⟨hexists, -⟩ := ofDayNumber_spec n
  simp only [exists?, Bool.and_eq_true, decide_eq_true_eq] at hexists
  have hmonth : daysInMonth (ofDayNumber n).year (ofDayNumber n).month ≤ 31 := by
    unfold daysInMonth
    repeat' split
    all_goals decide
  omega

/-! ### Neighbouring days -/

/-- The day after a date. -/
def next (d : Date) : Date :=
  if d.day < daysInMonth d.year d.month then ⟨d.year, d.month, d.day + 1⟩
  else if d.month < 12 then ⟨d.year, d.month + 1, 1⟩
  else ⟨d.year + 1, 1, 1⟩

/-- The day before a date. -/
def previous (d : Date) : Date :=
  if 1 < d.day then ⟨d.year, d.month, d.day - 1⟩
  else if 1 < d.month then ⟨d.year, d.month - 1, daysInMonth d.year (d.month - 1)⟩
  else ⟨d.year - 1, 12, 31⟩

theorem exists?_iff {d : Date} : d.exists? = true ↔
    1 ≤ d.month ∧ d.month ≤ 12 ∧ 1 ≤ d.day ∧ d.day ≤ daysInMonth d.year d.month := by
  simp only [exists?, Bool.and_eq_true, decide_eq_true_eq, and_assoc]

theorem daysInMonth_pos (year : Int) (month : Nat) : 1 ≤ daysInMonth year month := by
  unfold daysInMonth
  repeat' split
  all_goals decide

/-- A year has the days before its thirteenth month. -/
theorem daysBeforeYear_succ (year : Int) :
    daysBeforeYear (year + 1) = daysBeforeYear year + daysBeforeMonth year 13 := by
  rw [daysBeforeMonth_end]
  by_cases hleap : isLeapYear year
  · rw [if_pos hleap]
    simp only [isLeapYear, Bool.and_eq_true, Bool.or_eq_true, beq_iff_eq, bne_iff_ne] at hleap
    simp only [daysBeforeYear]
    omega
  · rw [if_neg hleap]
    simp only [isLeapYear, Bool.and_eq_true, Bool.or_eq_true, beq_iff_eq, bne_iff_ne] at hleap
    simp only [daysBeforeYear]
    omega

/-- **The day after a date** exists, and its number is the next one. -/
theorem next_spec {d : Date} (h : d.exists? = true) :
    d.next.exists? = true ∧ d.next.dayNumber = d.dayNumber + 1 := by
  obtain ⟨year, month, day⟩ := d
  simp only [exists?_iff] at h
  unfold next
  by_cases hday : day < daysInMonth year month
  · rw [if_pos hday]
    refine ⟨exists?_iff.2 ⟨h.1, h.2.1, ?_, hday⟩, ?_⟩
    · exact Nat.le_add_left 1 day
    · simp only [dayNumber]
      omega
  · rw [if_neg hday]
    by_cases hmonth : month < 12
    · rw [if_pos hmonth]
      refine ⟨exists?_iff.2 ⟨by simp, hmonth, Nat.le_refl 1, daysInMonth_pos _ _⟩, ?_⟩
      have hsucc := daysBeforeMonth_succ year h.1
      simp only [dayNumber]
      omega
    · rw [if_neg hmonth]
      have hlast : month = 12 := by omega
      subst hlast
      have hyear := daysBeforeYear_succ year
      have hsucc : daysBeforeMonth year 13 = daysBeforeMonth year 12 + daysInMonth year 12 :=
        daysBeforeMonth_succ year (by decide)
      have hfirst : daysBeforeMonth (year + 1) 1 = 0 := rfl
      refine ⟨rfl, ?_⟩
      simp only [dayNumber]
      omega

/-- The day before a date that exists exists, and the date is the day after it. -/
theorem next_previous {d : Date} (h : d.exists? = true) :
    d.previous.exists? = true ∧ d.previous.next = d := by
  obtain ⟨year, month, day⟩ := d
  simp only [exists?_iff] at h
  unfold previous
  by_cases hday : 1 < day
  · rw [if_pos hday]
    have hlt : day - 1 < daysInMonth year month := by omega
    refine ⟨exists?_iff.2 ⟨h.1, h.2.1, ?_, Nat.le_of_lt hlt⟩, ?_⟩
    · exact Nat.le_sub_of_add_le hday
    · rw [next, if_pos hlt, Nat.sub_add_cancel h.2.2.1]
  · rw [if_neg hday]
    have hfirst : day = 1 := by omega
    subst hfirst
    by_cases hmonth : 1 < month
    · rw [if_pos hmonth]
      have hlt : month - 1 < 12 := by omega
      refine ⟨exists?_iff.2 ⟨?_, Nat.le_of_lt hlt, daysInMonth_pos _ _, Nat.le_refl _⟩, ?_⟩
      · exact Nat.le_sub_of_add_le hmonth
      · rw [next, if_neg (Nat.lt_irrefl _), if_pos hlt, Nat.sub_add_cancel h.1]
    · rw [if_neg hmonth]
      have hjanuary : month = 1 := by omega
      subst hjanuary
      refine ⟨rfl, ?_⟩
      show (⟨year - 1 + 1, 1, 1⟩ : Date) = ⟨year, 1, 1⟩
      rw [Int.sub_add_cancel]

/-- **The day before a date** exists, and its number is the one before. -/
theorem previous_spec {d : Date} (h : d.exists? = true) :
    d.previous.exists? = true ∧ d.previous.dayNumber = d.dayNumber - 1 := by
  obtain ⟨hexists, hnext⟩ := next_previous h
  refine ⟨hexists, ?_⟩
  have hnumber := (next_spec hexists).2
  rw [hnext] at hnumber
  omega

end DocStore.Date
