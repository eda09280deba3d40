import RowFilter.Proofs.Civil.Calendar

/-!
# The calendar day by day

The calendar day of a date and the count of a calendar day are inverse to each other, and the
calendar runs on by one day with each count: to the next day of the month, or to the first of the
next month behind its last. So the calendar is the Gregorian one as soon as it is on one day.
-/

namespace RowFilter.Civil

namespace CalendarDay

variable {c c' : CalendarDay} {year year' month month' : Int}

theorem isValid_iff : c.isValid = true ↔
    (1 ≤ c.month ∧ c.month ≤ 12) ∧ 1 ≤ c.day ∧ c.day ≤ monthLength c.year c.month := by
  simp only [isValid, Bool.and_eq_true, decide_eq_true_eq, and_assoc]

/-! ## Years that begin in March -/

/-- The days before a year that begins in March, since the year 0. -/
def daysBeforeYear (year : Int) : Int := 365 * year + year / 4 - year / 100 + year / 400

/-- A year that begins in March ends with the February of the calendar year behind it. -/
theorem daysBeforeYear_succ (year : Int) : daysBeforeYear (year + 1) =
    daysBeforeYear year + if isLeapYear (year + 1) then 366 else 365 := by
  have hleap : isLeapYear (year + 1) = true ↔
      (year + 1) % 4 = 0 ∧ ((year + 1) % 100 ≠ 0 ∨ (year + 1) % 400 = 0) := by
    simp [isLeapYear]
  rw [daysBeforeYear, daysBeforeYear]
  split
  · next h =>
    have h := hleap.1 h
    omega
  · next h =>
    have h := mt hleap.2 h
    omega

theorem daysBeforeYear_mono (h : year ≤ year') : daysBeforeYear year ≤ daysBeforeYear year' := by
  rw [daysBeforeYear, daysBeforeYear]
  omega

/-- The days before a month of such a year. -/
def daysBeforeMonth (month : Int) : Int := (153 * month + 2) / 5

/-- From March on, the lengths of the months do not depend on the year. -/
theorem daysBeforeMonth_succ {year : Int} {month : Nat} (h : 3 ≤ month ∧ month ≤ 12) :
    daysBeforeMonth ((month : Int) - 3) + monthLength year month =
      daysBeforeMonth ((month : Int) - 3 + 1) := by
  have hcases : month = 3 ∨ month = 4 ∨ month = 5 ∨ month = 6 ∨ month = 7 ∨ month = 8 ∨
    month = 9 ∨ month = 10 ∨ month = 11 ∨ month = 12 := by omega
  rcases hcases with rfl | rfl | rfl | rfl | rfl | rfl | rfl | rfl | rfl | rfl <;> rfl

section

variable {month day : Nat}

theorem days_toDate_of_early (h : month ≤ 2) : (toDate ⟨year, month, day⟩).days =
    daysBeforeYear (year - 1) + daysBeforeMonth ((month : Int) + 9) + day - 719469 := by
  simp only [toDate, if_pos h, daysBeforeYear, daysBeforeMonth]
  omega

theorem days_toDate_of_late (h : 2 < month) : (toDate ⟨year, month, day⟩).days =
    daysBeforeYear year + daysBeforeMonth ((month : Int) - 3) + day - 719469 := by
  simp only [toDate, if_neg (Nat.not_le_of_lt h), daysBeforeYear, daysBeforeMonth]
  omega

/-- The first day of a month is counted behind the last day of the month before. -/
theorem days_nextMonth (h : 1 ≤ month ∧ month < 12) : (toDate ⟨year, month + 1, 1⟩).days =
    (toDate ⟨year, month, monthLength year month⟩).days + 1 := by
  rcases Nat.lt_or_ge 2 month with hlate | hearly
  · have hend := @daysBeforeMonth_succ year month (by omega)
    have hnext : ((month + 1 : Nat) : Int) - 3 = (month : Int) - 3 + 1 := by omega
    rw [days_toDate_of_late (by omega), days_toDate_of_late hlate, hnext]
    omega
  · rw [@days_toDate_of_early year month _ hearly]
    have hcases : month = 1 ∨ month = 2 := by omega
    rcases hcases with rfl | rfl
    · have hlength : monthLength year 1 = 31 := rfl
      rw [days_toDate_of_early (Nat.le_refl 2), hlength]
      simp only [daysBeforeMonth]
      omega
    · have hlength : monthLength year 2 = if isLeapYear year then 29 else 28 := rfl
      have hyear := daysBeforeYear_succ (year - 1)
      rw [Int.sub_add_cancel] at hyear
      rw [days_toDate_of_late (Nat.le_refl 3), hlength, hyear]
      simp only [daysBeforeMonth]
      split <;> omega

theorem days_nextYear :
    (toDate ⟨year + 1, 1, 1⟩).days = (toDate ⟨year, 12, monthLength year 12⟩).days + 1 := by
  have hlength : monthLength year 12 = 31 := rfl
  rw [days_toDate_of_early (by decide), days_toDate_of_late (by decide), hlength,
    Int.add_sub_cancel]
  simp only [daysBeforeMonth]
  omega

end

/-! ## The count tells days apart -/

/-- The year and the month, counted from March, in which a day lies, and the bounds that these put
on it. -/
structure Lies (c : CalendarDay) (year month : Int) : Prop where
  month_bounds : 0 ≤ month ∧ month ≤ 11
  year_eq : c.year = year + if month < 10 then 0 else 1
  month_eq : (c.month : Int) = if month < 10 then month + 3 else month - 9
  day_pos : 1 ≤ c.day
  count : c.toDate.days = daysBeforeYear year + daysBeforeMonth month + c.day - 719469
  month_end : month < 11 → daysBeforeMonth month + c.day ≤ daysBeforeMonth (month + 1)
  year_end : daysBeforeYear year + daysBeforeMonth month + c.day ≤ daysBeforeYear (year + 1)

theorem exists_lies (h : c.isValid = true) : ∃ year month, c.Lies year month := by
  obtain ⟨year, month, day⟩ := c
  obtain ⟨hmonth, hday, hlength⟩ := isValid_iff.1 h
  dsimp only at hmonth hday hlength
  rcases Nat.lt_or_ge 2 month with hlate | hearly
  · have hend := @daysBeforeMonth_succ year month ⟨hlate, hmonth.2⟩
    have hyear := daysBeforeYear_succ year
    have hfebruary : daysBeforeMonth ((month : Int) - 3 + 1) ≤ 306 := by
      rw [daysBeforeMonth]
      omega
    refine ⟨year, month - 3, by omega, ?_, ?_, hday, days_toDate_of_late hlate, ?_, ?_⟩
    · rw [if_pos (by omega), Int.add_zero]
    · rw [if_pos (by omega)]
      exact (Int.sub_add_cancel _ _).symm
    · dsimp only
      omega
    · dsimp only
      split at hyear <;> omega
  · -- January and February end the year that began in the March before
    have hyear := daysBeforeYear_succ (year - 1)
    rw [Int.sub_add_cancel] at hyear
    refine ⟨year - 1, month + 9, by omega, ?_, ?_, hday, days_toDate_of_early hearly, ?_, ?_⟩
    · rw [if_neg (by omega), Int.sub_add_cancel]
    · rw [if_neg (by omega)]
      exact (Int.add_sub_cancel _ _).symm
    · intro hlast
      have hjanuary : month = 1 := by omega
      subst hjanuary
      change day ≤ 31 at hlength
      simp only [daysBeforeMonth]
      omega
    · rw [Int.sub_add_cancel, hyear]
      have hcases : month = 1 ∨ month = 2 := by omega
      rcases hcases with rfl | rfl <;> simp only [daysBeforeMonth]
      · change day ≤ 31 at hlength
        split <;> omega
      · change day ≤ if isLeapYear year then 29 else 28 at hlength
        split at hlength
        · next hleap =>
          rw [if_pos hleap]
          omega
        · next hleap =>
          rw [if_neg hleap]
          omega

/-- Two days with one count are the same. -/
theorem Lies.unique (h : c.Lies year month) (h' : c'.Lies year' month')
    (hdays : c.toDate = c'.toDate) : c = c' := by
  have hcount := h.count
  have hcount' := h'.count
  rw [hdays] at hcount
  have hday := h.day_pos
  have hday' := h'.day_pos
  have hmonth := h.month_bounds
  have hmonth' := h'.month_bounds
  simp only [daysBeforeMonth] at hcount hcount'
  have hyears : year = year' := by
    have hend := h.year_end
    have hend' := h'.year_end
    simp only [daysBeforeMonth] at hend hend'
    -- a later year begins behind the last day of an earlier one
    rcases Int.lt_trichotomy year year' with hlt | heq | hgt
    · have hmono := daysBeforeYear_mono (show year + 1 ≤ year' from hlt)
      omega
    · exact heq
    · have hmono := daysBeforeYear_mono (show year' + 1 ≤ year from hgt)
      omega
  subst hyears
  have hmonths : month = month' := by
    have hend := h.month_end
    have hend' := h'.month_end
    simp only [daysBeforeMonth] at hend hend'
    rcases Int.lt_trichotomy month month' with hlt | heq | hgt
    · have hend := hend (by omega)
      omega
    · exact heq
    · have hend' := hend' (by omega)
      omega
  subst hmonths
  have hyear : c.year = c'.year := h.year_eq.trans h'.year_eq.symm
  have hnumber : (c.month : Int) = c'.month := h.month_eq.trans h'.month_eq.symm
  obtain ⟨y, m, d⟩ := c
  obtain ⟨y', m', d'⟩ := c'
  dsimp only at *
  rw [mk.injEq]
  omega

theorem eq_of_toDate_eq (h : c.isValid = true) (h' : c'.isValid = true)
    (hdays : c.toDate = c'.toDate) : c = c' := by
  obtain ⟨year, month, hlies⟩ := exists_lies h
  obtain ⟨year', month', hlies'⟩ := exists_lies h'
  exact hlies.unique hlies' hdays

theorem calendar_toDate (h : c.isValid = true) : c.toDate.calendar = c :=
  eq_of_toDate_eq (Date.isValid_calendar _) h (Date.toDate_calendar _)

/-! ## The next day -/

/-- The day after a day: the next one of the month, or the first of the next month. -/
def next (c : CalendarDay) : CalendarDay :=
  if c.day < monthLength c.year c.month then { c with day := c.day + 1 }
  else if c.month < 12 then ⟨c.year, c.month + 1, 1⟩
  else ⟨c.year + 1, 1, 1⟩

theorem monthLength_pos (year : Int) (month : Nat) : 1 ≤ monthLength year month := by
  unfold monthLength
  split
  · split <;> decide
  · split <;> decide

theorem isValid_next (h : c.isValid = true) : c.next.isValid = true := by
  rw [isValid_iff] at h ⊢
  unfold next
  split
  · dsimp only
    omega
  · split
    · exact ⟨by dsimp only; omega, Nat.le_refl 1, monthLength_pos _ _⟩
    · exact ⟨⟨Nat.le_refl 1, by dsimp only; omega⟩, Nat.le_refl 1, monthLength_pos _ _⟩

theorem days_next (h : c.isValid = true) : c.next.toDate.days = c.toDate.days + 1 := by
  obtain ⟨year, month, day⟩ := c
  obtain ⟨hmonth, hday, hlength⟩ := isValid_iff.1 h
  dsimp only at hmonth hday hlength
  unfold next
  split
  · rcases Nat.lt_or_ge 2 month with hlate | hearly
    · rw [days_toDate_of_late hlate, days_toDate_of_late hlate]
      dsimp only
      omega
    · rw [days_toDate_of_early hearly, days_toDate_of_early hearly]
      dsimp only
      omega
  · next hlast =>
    have hend : day = monthLength year month := Nat.le_antisymm hlength (Nat.le_of_not_lt hlast)
    subst hend
    split
    · next hnext => exact days_nextMonth ⟨hmonth.1, hnext⟩
    · next hnext =>
      have hdecember : month = 12 := Nat.le_antisymm hmonth.2 (Nat.le_of_not_lt hnext)
      subst hdecember
      exact days_nextYear

end CalendarDay

namespace Date

/-- **The calendar runs on day by day.** -/
theorem calendar_next (d : Date) : (Date.mk (d.days + 1)).calendar = d.calendar.next := by
  have hvalid := CalendarDay.isValid_next d.isValid_calendar
  refine CalendarDay.eq_of_toDate_eq (isValid_calendar _) hvalid ?_
  have hdays := CalendarDay.days_next d.isValid_calendar
  rw [toDate_calendar] at hdays ⊢
  exact (congrArg Date.mk hdays).symm

theorem weekday_next (d : Date) : (Date.mk (d.days + 1)).weekday = (d.weekday + 1) % 7 := by
  simp only [weekday]
  omega

/-- The first of January 1970, from which the days are counted, was a Thursday. -/
example : (Date.mk 0).calendar = ⟨1970, 1, 1⟩ ∧ (Date.mk 0).weekday = 4 := by decide

end Date

end RowFilter.Civil
