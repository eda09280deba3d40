import RowFilter.Number.Digits
import RowFilter.Text.Basic

/-!
# Calendar dates

A date is a count of days, and its year, month and day are read off that count by the rules of the
Gregorian calendar, extended to all years. Order and distance of dates are those of the counts.
-/

namespace RowFilter.Civil

/-- A date, as the number of days since the first of January 1970. -/
structure Date where
  days : Int
  deriving Repr, DecidableEq

/-- The names of a day in the Gregorian calendar. -/
structure CalendarDay where
  year : Int
  month : Nat
  day : Nat
  deriving Repr, DecidableEq

namespace CalendarDay

/-- Whether a year has a twenty-ninth of February. -/
def isLeapYear (year : Int) : Bool := year % 4 = 0 && (year % 100 ≠ 0 || year % 400 = 0)

/-- The length of a month. -/
def monthLength (year : Int) (month : Nat) : Nat :=
  if month = 2 then
    if isLeapYear year then 29 else 28
  else if month = 4 ∨ month = 6 ∨ month = 9 ∨ month = 11 then 30
  else 31

/-- Whether there is such a day. -/
def isValid (c : CalendarDay) : Bool :=
  1 ≤ c.month && c.month ≤ 12 && 1 ≤ c.day && c.day ≤ monthLength c.year c.month

/-- The count of a day. Years are taken to begin in March, so that a leap day comes last. -/
def toDate (c : CalendarDay) : Date :=
  let year := if c.month ≤ 2 then c.year - 1 else c.year
  let era := year / 400
  let yearOfEra := year % 400
  let monthFromMarch : Int := if c.month ≤ 2 then (c.month : Int) + 9 else (c.month : Int) - 3
  let dayOfYear := (153 * monthFromMarch + 2) / 5 + c.day - 1
  let dayOfEra := yearOfEra * 365 + yearOfEra / 4 - yearOfEra / 100 + dayOfYear
  ⟨era * 146097 + dayOfEra - 719468⟩

end CalendarDay

namespace Date

/-- The year, month and day of a date. -/
def calendar (d : Date) : CalendarDay :=
  let z := d.days + 719468
  let era := z / 146097
  let dayOfEra := z % 146097
  let yearOfEra := (dayOfEra - dayOfEra / 1460 + dayOfEra / 36524 - dayOfEra / 146096) / 365
  let dayOfYear := dayOfEra - (365 * yearOfEra + yearOfEra / 4 - yearOfEra / 100)
  let monthFromMarch := (5 * dayOfYear + 2) / 153
  let day := dayOfYear - (153 * monthFromMarch + 2) / 5 + 1
  let month := if monthFromMarch < 10 then monthFromMarch + 3 else monthFromMarch - 9
  let year := yearOfEra + era * 400 + (if month ≤ 2 then 1 else 0)
  ⟨year, month.toNat, day.toNat⟩

/-- The first date that can be read: the first of January of the year -262143. -/
def first : Date := ⟨-96465292⟩

/-- The last date that can be read: the last of December of the year 262142. -/
def last : Date := ⟨95026236⟩

/-- Whether a date is one that can be read. -/
def inRange (d : Date) : Bool := first.days ≤ d.days && d.days ≤ last.days

/-- The date with this year, month and day, if there is one that can be read. -/
def ofCalendar? (c : CalendarDay) : Option Date :=
  if c.isValid && c.toDate.inRange then some c.toDate else none

/-- The day of the week, counted from Sunday. -/
def weekday (d : Date) : Nat := ((d.days + 4) % 7).toNat

/-- The earlier date comes first. -/
def order (a b : Date) : Ordering := compare a.days b.days

/-- A year of four digits; a year outside 0 to 9999 has a sign in front. -/
def yearChars (year : Int) : List Char :=
  let digits := Text.padLeft 4 '0' (Number.natDigits year.natAbs)
  if 0 ≤ year ∧ year ≤ 9999 then digits
  else (if year < 0 then '-' else '+') :: digits

/-- Two digits. -/
def twoDigits (n : Nat) : List Char := Text.padLeft 2 '0' (Number.natDigits n)

/-- The characters of `YYYY-MM-DD`. -/
def chars (d : Date) : List Char :=
  let c := d.calendar
  yearChars c.year ++ '-' :: twoDigits c.month ++ '-' :: twoDigits c.day

/-- The text `YYYY-MM-DD`. -/
def text (d : Date) : String := String.ofList d.chars

example : (Date.mk 19737).text = "2024-01-15" := by decide

example : ofCalendar? ⟨2024, 2, 29⟩ = some ⟨19782⟩ := by decide

example : first.calendar = ⟨-262143, 1, 1⟩ ∧ last.calendar = ⟨262142, 12, 31⟩ := by decide

end Date

end RowFilter.Civil
