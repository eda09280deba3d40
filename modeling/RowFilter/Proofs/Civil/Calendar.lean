import RowFilter.Civil.Date

/-!
# Calendar days and the count of days

Every count of days has a year, a month and a day, they are those of a day that there is, and they
count back to where they came from. Eras of four hundred years are cut into centuries, those into
spans of four years, and those into years; only the last year of a span can have one more day, and
the last of a century has it in the last century of an era only.
-/

namespace RowFilter.Civil

namespace Date

/-- The days of an era that are before a year of it. -/
def daysBefore (year : Int) : Int := 365 * year + year / 4 - year / 100

/-- The year of an era in which a day of it lies. -/
def yearOfEra (day : Int) : Int := (day - day / 1460 + day / 36524 - day / 146096) / 365

/-- A day of an era lies in one of its years, on one of 365 days, or on the last of 366. -/
theorem yearOfEra_spec {day : Int} (h : 0 ≤ day) (hlt : day < 146097) :
    (0 ≤ yearOfEra day ∧ yearOfEra day ≤ 399) ∧ daysBefore (yearOfEra day) ≤ day ∧
      (day - daysBefore (yearOfEra day) ≤ 364 ∨
        day - daysBefore (yearOfEra day) = 365 ∧ yearOfEra day % 4 = 3 ∧
          (yearOfEra day % 100 = 99 → yearOfEra day = 399)) := by
  by_cases hlast : day = 146096
  · subst hlast
    decide
  -- `c` is the century, `q` the span of four years in it, and `s` the day of the span
  obtain ⟨c, hcentury⟩ : ∃ c, day / 36524 = c := ⟨_, rfl⟩
  obtain ⟨q, s, hq, hs, hday⟩ : ∃ q s : Int, (0 ≤ q ∧ q ≤ 24) ∧ (0 ≤ s ∧ s < 1461) ∧
      day = 36524 * c + 1461 * q + s :=
    ⟨(day - 36524 * c) / 1461, (day - 36524 * c) % 1461, by omega, by omega, by omega⟩
  have hera : day / 146096 = 0 := by omega
  have hspans : day / 1460 = 25 * c + q ∧ 24 * c + q + s < 1460 ∨
      day / 1460 = 25 * c + q + 1 ∧ 1364 ≤ s := by omega
  obtain ⟨j, hj, hyear, hdayOfYear⟩ : ∃ j : Int, (0 ≤ j ∧ j ≤ 3) ∧
      yearOfEra day = 100 * c + 4 * q + j ∧
      365 * j ≤ s ∧ (s < 365 * j + 365 ∨ s = 1460 ∧ j = 3) := by
    unfold yearOfEra
    rcases hspans with ⟨hspans, hearly⟩ | ⟨hspans, hlate⟩
    · refine ⟨s / 365, by omega, ?_, by omega, by omega⟩
      rw [hspans, hcentury, hera]
      omega
    · refine ⟨3, by omega, ?_, by omega, by omega⟩
      rw [hspans, hcentury, hera]
      omega
  have hbefore : daysBefore (yearOfEra day) = 36524 * c + 1461 * q + 365 * j := by
    have hquarter : yearOfEra day / 4 = 25 * c + q := by omega
    have hhundredth : yearOfEra day / 100 = c := by omega
    rw [daysBefore, hquarter, hhundredth]
    omega
  rw [hbefore, hyear]
  refine ⟨by omega, by omega, ?_⟩
  rcases hdayOfYear.2 with hday | ⟨hday, hlastYear⟩
  · left
    omega
  · right
    refine ⟨by omega, by omega, fun hcenturyEnd => ?_⟩
    have hlastSpan : q = 24 := by omega
    omega

/-- The place of a date: its era, the year of the era, the day of the year counted from March, and
the month counted from March. -/
structure Place (d : Date) (era year day month : Int) : Prop where
  days_eq : d.days = era * 146097 + daysBefore year + day - 719468
  year_bounds : 0 ≤ year ∧ year ≤ 399
  day_nonneg : 0 ≤ day
  leap : day ≤ 364 ∨ day = 365 ∧ year % 4 = 3 ∧ (year % 100 = 99 → year = 399)
  month_eq : month = (5 * day + 2) / 153
  calendar_eq : d.calendar = ⟨year + era * 400 + (if month < 10 then 0 else 1),
    (if month < 10 then month + 3 else month - 9).toNat,
    (day - (153 * month + 2) / 5 + 1).toNat⟩

variable {d : Date} {era year day month : Int}

theorem Place.month_bounds (h : d.Place era year day month) : 0 ≤ month ∧ month ≤ 11 := by
  have hday := h.day_nonneg
  have hleap := h.leap
  have hmonth := h.month_eq
  omega

theorem exists_place (d : Date) : ∃ era year day month, d.Place era year day month := by
  obtain ⟨era, hera⟩ : ∃ era, (d.days + 719468) / 146097 = era := ⟨_, rfl⟩
  obtain ⟨dayOfEra, hdayOfEra⟩ : ∃ day, (d.days + 719468) % 146097 = day := ⟨_, rfl⟩
  obtain ⟨hyear, hbefore, hleap⟩ := @yearOfEra_spec dayOfEra (by omega) (by omega)
  obtain ⟨day, hday⟩ : ∃ day, dayOfEra - daysBefore (yearOfEra dayOfEra) = day := ⟨_, rfl⟩
  obtain ⟨month, hmonth⟩ : ∃ month, (5 * day + 2) / 153 = month := ⟨_, rfl⟩
  have hcalendar : d.calendar =
      ⟨yearOfEra dayOfEra + era * 400 + (if (if month < 10 then month + 3 else month - 9) ≤ 2
        then 1 else 0), (if month < 10 then month + 3 else month - 9).toNat,
        (day - (153 * month + 2) / 5 + 1).toNat⟩ := by
    subst hera hdayOfEra hday hmonth
    rfl
  rw [hday] at hleap
  refine ⟨era, yearOfEra dayOfEra, day, month, by omega, hyear, by omega, hleap, hmonth.symm, ?_⟩
  rw [hcalendar]
  by_cases h : month < 10
  · simp only [if_pos h, if_neg (show ¬ month + 3 ≤ 2 by omega)]
  · simp only [if_neg h, if_pos (show month - 9 ≤ 2 by omega)]

/-- The count of a date's calendar day is the date. -/
theorem toDate_calendar (d : Date) : d.calendar.toDate = d := by
  obtain ⟨era, year, day, month, h⟩ := d.exists_place
  have hmonth := h.month_bounds
  have hyear := h.year_bounds
  have hdays := h.days_eq
  have hdayOfMonth : ((day - (153 * month + 2) / 5 + 1).toNat : Int) =
      day - (153 * month + 2) / 5 + 1 := by
    have hday := h.day_nonneg
    have hmonth := h.month_eq
    omega
  have hera : (year + era * 400) / 400 = era := by omega
  have hyearOfEra : (year + era * 400) % 400 = year := by omega
  rw [daysBefore] at hdays
  obtain ⟨days⟩ := d
  change days = _ at hdays
  rw [h.calendar_eq, CalendarDay.toDate, Date.mk.injEq]
  by_cases hearly : month < 10
  · have hnumber : ((month + 3).toNat : Int) = month + 3 := by omega
    have hlate : ¬ (month + 3).toNat ≤ 2 := by omega
    simp only [if_pos hearly, if_neg hlate, hdayOfMonth, hnumber, Int.add_zero, hera, hyearOfEra,
      Int.add_sub_cancel]
    omega
  · have hnumber : ((month - 9).toNat : Int) = month - 9 := by omega
    have hlate : (month - 9).toNat ≤ 2 := by omega
    simp only [if_neg hearly, if_pos hlate, hdayOfMonth, hnumber, Int.add_sub_cancel, hera,
      hyearOfEra, Int.sub_add_cancel]
    omega

/-- The last day of a long year is a leap day: February belongs to the calendar year behind. -/
theorem Place.isLeapYear (h : d.Place era year day month) (hday : day = 365) :
    CalendarDay.isLeapYear (year + era * 400 + 1) = true := by
  rcases h.leap with hshort | ⟨_, hquarter, hcentury⟩
  · omega
  · simp only [CalendarDay.isLeapYear, Bool.and_eq_true, Bool.or_eq_true, decide_eq_true_eq]
    omega

theorem isValid_calendar (d : Date) : d.calendar.isValid = true := by
  obtain ⟨era, year, day, month, h⟩ := d.exists_place
  have hbounds := h.month_bounds
  have hday := h.day_nonneg
  have hmonth := h.month_eq
  have hleap := h.leap
  rw [h.calendar_eq]
  by_cases hfebruary : month = 11
  · subst hfebruary
    have hlength : day ≤ 364 ∨ CalendarDay.isLeapYear (year + era * 400 + 1) = true :=
      hleap.imp_right fun hlast => h.isLeapYear hlast.1
    rcases hlength with hlength | hlength
    · simp [CalendarDay.isValid, CalendarDay.monthLength]
      split <;> omega
    · simp [CalendarDay.isValid, CalendarDay.monthLength, hlength]
      omega
  · have hcases : month = 0 ∨ month = 1 ∨ month = 2 ∨ month = 3 ∨ month = 4 ∨ month = 5 ∨
        month = 6 ∨ month = 7 ∨ month = 8 ∨ month = 9 ∨ month = 10 := by omega
    rcases hcases with rfl | rfl | rfl | rfl | rfl | rfl | rfl | rfl | rfl | rfl | rfl <;>
      simp [CalendarDay.isValid, CalendarDay.monthLength] <;> omega

/-! ## Reading a calendar day -/

theorem calendar_bounds (d : Date) :
    (1 ≤ d.calendar.month ∧ d.calendar.month ≤ 12) ∧ 1 ≤ d.calendar.day ∧ d.calendar.day ≤ 31 := by
  have hvalid := d.isValid_calendar
  have hlength : CalendarDay.monthLength d.calendar.year d.calendar.month ≤ 31 := by
    unfold CalendarDay.monthLength
    split
    · split <;> decide
    · split <;> decide
  simp only [CalendarDay.isValid, Bool.and_eq_true, decide_eq_true_eq] at hvalid
  omega

/-- Whether the year of a date has four digits and no sign. -/
def HasPlainYear (d : Date) : Prop := 0 ≤ d.calendar.year ∧ d.calendar.year ≤ 9999

/-- A date with such a year is far from the ends of what can be read. -/
theorem HasPlainYear.days_bounds (h : d.HasPlainYear) : -900000 ≤ d.days ∧ d.days ≤ 3000000 := by
  obtain ⟨era, year, day, month, hplace⟩ := d.exists_place
  have hyear := hplace.year_bounds
  have hday := hplace.day_nonneg
  have hleap := hplace.leap
  have hdays := hplace.days_eq
  obtain ⟨hlow, hhigh⟩ := h
  rw [hplace.calendar_eq] at hlow hhigh
  rw [daysBefore] at hdays
  have hera : -1 ≤ era ∧ era ≤ 24 := by
    split at hlow <;> simp only at hlow hhigh <;> omega
  omega

/-- The dates from 1970 on, for more than a thousand years, have such a year. -/
theorem hasPlainYear_of_bounds (h : 0 ≤ d.days ∧ d.days ≤ 2000000) : d.HasPlainYear := by
  obtain ⟨era, year, day, month, hplace⟩ := d.exists_place
  have hyear := hplace.year_bounds
  have hday := hplace.day_nonneg
  have hleap := hplace.leap
  have hdays := hplace.days_eq
  rw [daysBefore] at hdays
  have hera : 4 ≤ era ∧ era ≤ 18 := by omega
  rw [HasPlainYear, hplace.calendar_eq]
  dsimp only
  split <;> omega

/-- Whether a date can be read, and so can the day before it and the day after it. -/
structure IsInner (d : Date) : Prop where
  first_lt : first.days < d.days
  lt_last : d.days < last.days

theorem inRange_of_bounds (h : -1000000 ≤ d.days ∧ d.days ≤ 4000000) : d.inRange = true := by
  change (decide (-96465292 ≤ d.days) && decide (d.days ≤ 95026236)) = true
  simp only [Bool.and_eq_true, decide_eq_true_eq]
  omega

theorem ofCalendar?_calendar (h : d.HasPlainYear) : ofCalendar? d.calendar = some d := by
  have hbounds := h.days_bounds
  have hrange : d.inRange = true := inRange_of_bounds (by omega)
  rw [ofCalendar?, isValid_calendar, toDate_calendar, hrange]
  rfl

end Date

end RowFilter.Civil
