import RowFilter.Civil.DateTime
import RowFilter.Number.Power

/-!
# Patterns of dates and times

A pattern is a list of items, each of which reads a field or a fixed character off the front of a
text. A text fits a pattern when the items read all of it and the fields name a date and a time.
Two styles of number occur: lenient numbers may follow blanks and have fewer digits than their
field, strict numbers have exactly as many digits as the item says.
-/

namespace RowFilter.Civil

/-- What has been read of a date and a time. Fields that a pattern does not mention keep the values
they have at the start of an hour. -/
structure Fields where
  year : Int := 0
  month : Nat := 0
  day : Nat := 0
  hour : Nat := 0
  minute : Nat := 0
  second : Nat := 0
  nanos : Nat := 0
  offset : Int := 0
  deriving Repr, DecidableEq

namespace Fields

/-- The date that the fields name. -/
def date? (f : Fields) : Option Date := Date.ofCalendar? ⟨f.year, f.month, f.day⟩

/-- The time that the fields name. -/
def time? (f : Fields) : Option Time := Time.ofClock? f.hour f.minute f.second f.nanos

/-- The wall-clock reading that the fields name. -/
def dateTime? (f : Fields) : Option DateTime := do
  some ⟨← f.date?, ← f.time?⟩

/-- The point in time that the fields name, if its UTC reading is a date that can be read. -/
def offsetDateTime? (f : Fields) : Option OffsetDateTime := do
  let reading ← f.dateTime?
  if f.offset.natAbs < 86400 then
    let o := OffsetDateTime.ofWallClock reading f.offset
    if o.instant.utc.date.inRange then some o else none
  else
    none

end Fields

/-- The numbers of a date and a time. -/
inductive Field where
  | year
  | month
  | day
  | hour
  | minute
  | second
  deriving Repr, DecidableEq

/-- Write a number into its field. -/
def Field.set (field : Field) (n : Nat) (f : Fields) : Fields :=
  match field with
  | .year => { f with year := n }
  | .month => { f with month := n }
  | .day => { f with day := n }
  | .hour => { f with hour := n }
  | .minute => { f with minute := n }
  | .second => { f with second := n }

/-- One item of a pattern. -/
inductive Item where
  /-- A year after blanks: up to four digits, or a sign and any digits. -/
  | lenientYear
  /-- A number of one or two digits after blanks. -/
  | lenient (field : Field)
  /-- A number of exactly as many digits. -/
  | strict (field : Field) (digits : Nat)
  /-- A point and a fraction, or nothing. -/
  | fraction
  /-- One of these characters. -/
  | oneOf (cs : List Char)
  /-- An offset after blanks, with colons and blanks allowed between hours and minutes. -/
  | lenientOffset
  /-- A `Z` in either case, or an offset with one colon between hours and minutes. -/
  | strictOffset
  deriving Repr, DecidableEq

namespace Pattern

/-- At least `least` and at most `most` digits, and the rest. -/
def takeNumber (least most : Nat) (cs : List Char) : Option (Nat × List Char) :=
  let digits := (cs.take most).takeWhile Char.isDigit
  if least ≤ digits.length then some (Number.ofDigits digits, cs.drop digits.length) else none

/-- All digits, of which there is at least one, and the rest. -/
def takeAllDigits (cs : List Char) : Option (Nat × List Char) := takeNumber 1 cs.length cs

/-- A fraction as nanoseconds, without its point. Digits behind the ninth are dropped. -/
def takeFraction (cs : List Char) : Option (Nat × List Char) :=
  let digits := cs.takeWhile Char.isDigit
  let kept := digits.take 9
  if digits.isEmpty then none
  else some (Number.ofDigits kept * Number.pow10 (9 - kept.length), cs.drop digits.length)

/-- A character that may stand between the hours and the minutes of a lenient offset. -/
def isOffsetGap (c : Char) : Bool := c = ':' || Text.isBlank c

/-- Two digits of minutes below sixty, and the rest. -/
def takeMinutes : List Char → Option (Nat × List Char)
  | a :: b :: rest =>
    if a.isDigit && b.isDigit && a.toNat < '6'.toNat then
      some (Number.ofDigits [a, b], rest)
    else
      none
  | _ => none

/-- The sign of an offset. The minus sign proper counts where `allowMinusSign` says so. -/
def takeOffsetSign (allowMinusSign : Bool) : List Char → Option (Bool × List Char)
  | '+' :: rest => some (false, rest)
  | '-' :: rest => some (true, rest)
  | '\u2212' :: rest => if allowMinusSign then some (true, rest) else none
  | _ => none

/-- A sign, hours, what may stand between, and minutes: the offset in seconds, and the rest. -/
def takeOffset (allowMinusSign : Bool) (gap : List Char → Option (List Char)) (cs : List Char) :
    Option (Int × List Char) := do
  let (negative, cs) ← takeOffsetSign allowMinusSign cs
  let (hours, cs) ← takeNumber 2 2 cs
  let cs ← gap cs
  let (minutes, cs) ← takeMinutes cs
  some (Number.withSign negative (hours * 3600 + minutes * 60), cs)

/-- One given character, and the rest. -/
def takeChar (c : Char) : List Char → Option (List Char)
  | [] => none
  | x :: rest => if x = c then some rest else none

/-- The largest offset of a strict item. -/
def strictOffsetLimit : Nat := (23 * 60 + 59) * 60

/-- Read one item off the front of the text. -/
def step (item : Item) (f : Fields) (cs : List Char) : Option (Fields × List Char) :=
  match item with
  | .lenientYear =>
    match Text.trimStartChars cs with
    | '-' :: rest => (takeAllDigits rest).map fun (n, rest) => ({ f with year := -(n : Int) }, rest)
    | '+' :: rest => (takeAllDigits rest).map fun (n, rest) => ({ f with year := n }, rest)
    | rest => (takeNumber 1 4 rest).map fun (n, rest) => ({ f with year := n }, rest)
  | .lenient field =>
    (takeNumber 1 2 (Text.trimStartChars cs)).map fun (n, rest) => (field.set n f, rest)
  | .strict field digits =>
    (takeNumber digits digits cs).map fun (n, rest) => (field.set n f, rest)
  | .fraction =>
    match cs with
    | '.' :: rest => (takeFraction rest).map fun (n, rest) => ({ f with nanos := n }, rest)
    | rest => some (f, rest)
  | .oneOf choices =>
    match cs with
    | [] => none
    | c :: rest => if choices.contains c then some (f, rest) else none
  | .lenientOffset =>
    (takeOffset true (fun cs => some (cs.dropWhile isOffsetGap)) (Text.trimStartChars cs)).map
      fun (n, rest) => ({ f with offset := n }, rest)
  | .strictOffset =>
    match cs with
    | 'Z' :: rest | 'z' :: rest => some ({ f with offset := 0 }, rest)
    | cs => do
      let (n, rest) ← takeOffset true (takeChar ':') cs
      if n.natAbs ≤ strictOffsetLimit then some ({ f with offset := n }, rest) else none

/-- The fields of a text that fits a pattern. -/
def read? (items : List Item) (cs : List Char) : Option Fields := go items {} cs
where
  go : List Item → Fields → List Char → Option Fields
    | [], f, cs => if cs.isEmpty then some f else none
    | item :: items, f, cs =>
      match step item f cs with
      | none => none
      | some (f, rest) => go items f rest

/-- A fixed character. -/
def mark (c : Char) : Item := .oneOf [c]

/-- `YYYY-MM-DD`. -/
def date : List Item :=
  [.lenientYear, mark '-', .lenient .month, mark '-', .lenient .day]

/-- `HH:MM`. -/
def hourMinute : List Item := [.lenient .hour, mark ':', .lenient .minute]

/-- `HH:MM:SS` with a fraction. -/
def time : List Item := hourMinute ++ [mark ':', .lenient .second, .fraction]

/-- `YYYY-MM-DDTHH:MM:SS` with a fraction. -/
def dateTime : List Item := date ++ mark 'T' :: time

/-- `YYYY-MM-DDTHH:MM`. -/
def dateTimeToMinute : List Item := date ++ mark 'T' :: hourMinute

/-- `YYYY-MM-DDTHH:MM±HH:MM`. -/
def zonedToMinute : List Item := dateTimeToMinute ++ [.lenientOffset]

/-- `YYYY-MM-DD HH:MM:SS` with a fraction. -/
def spacedDateTime : List Item := date ++ mark ' ' :: time

/-- The internet date-time: `YYYY-MM-DDTHH:MM:SS` with a fraction and an offset, all in full. -/
def internet : List Item :=
  [.strict .year 4, mark '-', .strict .month 2, mark '-', .strict .day 2, .oneOf ['T', 't', ' '],
    .strict .hour 2, mark ':', .strict .minute 2, mark ':', .strict .second 2, .fraction,
    .strictOffset]

example : ((read? date "+12024-1- 5".toList).bind Fields.date?).map Date.text =
    some "+12024-01-05" := by decide +kernel

example : ((read? internet "2024-01-15T16:00:00.25+01:00".toList).bind Fields.offsetDateTime?).map
    OffsetDateTime.text = some "2024-01-15T16:00:00.250+01:00" := by decide +kernel

end Pattern

end RowFilter.Civil
