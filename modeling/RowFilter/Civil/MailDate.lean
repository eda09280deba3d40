import RowFilter.Civil.Pattern

/-!
# Dates of mail and web headers

The date of a message header: an optional day of the week, day, month name, year, time and zone,
with free blanks between them and comments behind them, as in `Mon, 15 Jan 2024 15:00:00 GMT`. A
day of the week must fit the date.
-/

namespace RowFilter.Civil.MailDate

/-- The days of the week, from Sunday. -/
def weekdayNames : List String := ["sun", "mon", "tue", "wed", "thu", "fri", "sat"]

/-- The months, from January. -/
def monthNames : List String :=
  ["jan", "feb", "mar", "apr", "may", "jun", "jul", "aug", "sep", "oct", "nov", "dec"]

/-- Zones by name, with their hours ahead of UTC. -/
def zoneHours : List (String × Int) :=
  [("gmt", 0), ("ut", 0), ("z", 0), ("edt", -4), ("est", -5), ("cdt", -5), ("cst", -6), ("mdt", -6),
    ("mst", -7), ("pdt", -7), ("pst", -8)]

/-- The characters in lower case, as far as they are ASCII letters. -/
def lowered (cs : List Char) : String := String.ofList (cs.map Char.toLower)

/-- The position of the three-letter name in front, and the rest. -/
def takeName (names : List String) (cs : List Char) : Option (Nat × List Char) :=
  (names.findIdx? (· == lowered (cs.take 3))).map fun i => (i, cs.drop 3)

/-- At least one blank, and what follows the blanks. -/
def takeBlanks (cs : List Char) : Option (List Char) :=
  let rest := Text.trimStartChars cs
  if rest.length < cs.length then some rest else none

/-- A year. Two digits stand for a year from 1950 to 2049, three for years since 1900. -/
def takeYear (cs : List Char) : Option (Int × List Char) := do
  let (n, rest) ← Pattern.takeNumber 2 cs.length cs
  let width := cs.length - rest.length
  let year :=
    if width = 2 then (if n < 50 then n + 2000 else n + 1900)
    else if width = 3 then n + 1900
    else n
  some (year, rest)

/-- A zone: a name, a single military letter, which says nothing, or hours and minutes. -/
def takeZone (cs : List Char) : Option (Int × List Char) :=
  let name := cs.takeWhile Char.isAlpha
  let rest := cs.drop name.length
  if name.isEmpty then
    Pattern.takeOffset false some cs
  else
    match zoneHours.lookup (lowered name) with
    | some hours => some (hours * 3600, rest)
    | none => if name.length = 1 ∧ lowered name ≠ "j" then some (0, rest) else none

/-- What follows the end of a comment that is `depth` parentheses deep. A backslash takes the
meaning from the character behind it. -/
def skipComment : Nat → List Char → Option (List Char)
  | _, [] => none
  | _, ['\\'] => none
  | depth, '\\' :: _ :: rest => skipComment depth rest
  | depth, '(' :: rest => skipComment (depth + 1) rest
  | depth, ')' :: rest => if depth ≤ 1 then some rest else skipComment (depth - 1) rest
  | depth, _ :: rest => skipComment depth rest

/-- Whether nothing but comments follows. The fuel bounds the number of comments. -/
def onlyComments : Nat → List Char → Bool
  | _, [] => true
  | 0, _ => false
  | fuel + 1, cs =>
    match Text.trimStartChars cs with
    | '(' :: rest =>
      match skipComment 1 rest with
      | some rest => onlyComments fuel rest
      | none => false
    | _ => false

/-- The day of the week with its comma, if there is one, and the rest. -/
def takeWeekday (cs : List Char) : Option (Option Nat × List Char) :=
  match takeName weekdayNames cs with
  | none => some (none, cs)
  | some (day, ',' :: rest) => some (some day, rest)
  | some _ => none

/-- The time on the clock, with the seconds or without. -/
def takeClock (f : Fields) (cs : List Char) : Option (Fields × List Char) := do
  let (hour, cs) ← Pattern.takeNumber 2 2 cs
  let cs ← Pattern.takeChar ':' (Text.trimStartChars cs)
  let (minute, cs) ← Pattern.takeNumber 2 2 (Text.trimStartChars cs)
  match Pattern.takeChar ':' (Text.trimStartChars cs) with
  | some cs =>
    let (second, cs) ← Pattern.takeNumber 2 2 cs
    some ({ f with hour, minute, second }, cs)
  | none => some ({ f with hour, minute }, cs)

/-- Read the date of a header. -/
def read? (cs : List Char) : Option OffsetDateTime := do
  let (weekday, cs) ← takeWeekday (Text.trimStartChars cs)
  let (day, cs) ← Pattern.takeNumber 1 2 (Text.trimStartChars cs)
  let cs ← takeBlanks cs
  let (month, cs) ← takeName monthNames cs
  let cs ← takeBlanks cs
  let (year, cs) ← takeYear cs
  let cs ← takeBlanks cs
  let (f, cs) ← takeClock { year, month := month + 1, day } cs
  let cs ← takeBlanks cs
  let (offset, cs) ← takeZone cs
  let date ← f.date?
  if onlyComments cs.length cs && weekday.all (· == date.weekday) then
    Fields.offsetDateTime? { f with offset }
  else
    none

example : (read? "Mon, 15 Jan 2024 15:00:00 EST (a (b) c)".toList).map OffsetDateTime.text =
    some "2024-01-15T15:00:00-05:00" := by decide

example : read? "Tue, 15 Jan 2024 15:00:00 GMT".toList = none := by decide

end RowFilter.Civil.MailDate
