import RowFilter.Civil.MailDate
import RowFilter.Civil.Zone

/-!
# Recognising date texts

Dates and times arrive in several notations. `DateFormat.identify` tries the notations in a fixed
order and takes the first that fits; `Stamp.ofFormat?` then reads the text in that notation, and the
conversions turn what was read into the kind of value that is wanted. Texts without a zone are
placed in the local zone where an instant is wanted.
-/

namespace RowFilter.Civil

/-- The notations of dates, in the order in which they are tried. -/
inductive DateFormat where
  /-- `YYYY-MM-DD` -/
  | isoDate
  /-- `YYYY-MM-DDTHH:MM[:SS[.f]]` -/
  | isoDateTime
  /-- The same with a `Z` at the end. -/
  | isoDateTimeUtc
  /-- The same with an offset, and perhaps the name of a zone in brackets. -/
  | isoDateTimeOffset
  /-- A whole number of at most ten characters. -/
  | epochSeconds
  /-- A longer whole number. -/
  | epochMillis
  /-- `YYYY-MM-DD HH:MM:SS.f` with one digit of fraction. -/
  | sqlDateTime
  /-- The date of a mail or web header. -/
  | rfc1123
  | unidentified
  deriving Repr, DecidableEq

/-- What a date text says before it is converted. -/
inductive Stamp where
  | date (d : Date)
  | wallClock (reading : DateTime)
  | zoned (o : OffsetDateTime)
  | epoch (i : Instant)
  deriving Repr, DecidableEq

namespace DateFormat

/-- Read `YYYY-MM-DD`. -/
def readIsoDate? (cs : List Char) : Option Date := (Pattern.read? Pattern.date cs).bind Fields.date?

/-- Read a local date-time, with seconds or without. -/
def readIsoDateTime? (cs : List Char) : Option DateTime :=
  match (Pattern.read? Pattern.dateTime cs).bind Fields.dateTime? with
  | some reading => some reading
  | none => (Pattern.read? Pattern.dateTimeToMinute cs).bind Fields.dateTime?

/-- The text without the name of a zone in brackets at its end. The offset before it already says
what the name says. -/
def withoutRegion (cs : List Char) : List Char :=
  if cs.getLast? = some ']' then cs.takeWhile (· ≠ '[') else cs

/-- Read a date-time with an offset. -/
def readZoned? (cs : List Char) : Option OffsetDateTime :=
  let cs := withoutRegion cs
  match (Pattern.read? Pattern.internet cs).bind Fields.offsetDateTime? with
  | some o => some o
  | none => (Pattern.read? Pattern.zonedToMinute cs).bind Fields.offsetDateTime?

/-- Read an epoch number. -/
def readEpoch? (cs : List Char) : Option Int := Number.readInt64? cs

/-- The shape `YYYY-MM-DD HH:MM:SS.f`, where `d` stands for a decimal digit of any script. -/
def sqlShape : List Char := "dddd-dd-dd dd:dd:dd.d".toList

/-- Whether a text has a shape. -/
def hasShape : List Char → List Char → Bool
  | [], [] => true
  | 'd' :: shape, c :: cs => Text.isDecimalDigit c && hasShape shape cs
  | s :: shape, c :: cs => s = c && hasShape shape cs
  | _, _ => false

/-- Read a date-time in the notation of database timestamps. -/
def readSqlDateTime? (cs : List Char) : Option DateTime :=
  (Pattern.read? Pattern.spacedDateTime cs).bind Fields.dateTime?

/-- The first notation that a text fits. -/
def identify (cs : List Char) : DateFormat :=
  if (readIsoDate? cs).isSome then isoDate
  else if (readIsoDateTime? cs).isSome then isoDateTime
  else if cs.getLast? = some 'Z' && (readZoned? cs).isSome then isoDateTimeUtc
  else if (readZoned? cs).isSome then isoDateTimeOffset
  else
    match readEpoch? cs with
    | some n => if (Number.intDigits n).length ≤ 10 then epochSeconds else epochMillis
    | none =>
      if hasShape sqlShape cs then sqlDateTime
      else if (MailDate.read? cs).isSome then rfc1123
      else unidentified

end DateFormat

namespace Stamp

/-- The instant a number of seconds after the start of 1970, if its date can be read. -/
def ofEpochSeconds? (n : Int) : Option Stamp :=
  let utc := DateTime.ofSeconds n ⟨0, by omega⟩
  if utc.date.inRange then some (.epoch ⟨utc⟩) else none

/-- The instant a number of milliseconds after the start of 1970, if its date can be read. -/
def ofEpochMillis? (n : Int) : Option Stamp :=
  let utc := DateTime.ofSeconds (n / 1000) ⟨(n % 1000).toNat * 1000000, by omega⟩
  if utc.date.inRange then some (.epoch ⟨utc⟩) else none

/-- Read a text in a notation. -/
def ofFormat? (format : DateFormat) (cs : List Char) : Option Stamp :=
  match format with
  | .isoDate => (DateFormat.readIsoDate? cs).map date
  | .isoDateTime => (DateFormat.readIsoDateTime? cs).map wallClock
  | .isoDateTimeUtc | .isoDateTimeOffset => (DateFormat.readZoned? cs).map zoned
  | .epochSeconds => (DateFormat.readEpoch? cs).bind ofEpochSeconds?
  | .epochMillis => (DateFormat.readEpoch? cs).bind ofEpochMillis?
  | .sqlDateTime => (DateFormat.readSqlDateTime? cs).map wallClock
  | .rfc1123 => (MailDate.read? cs).map zoned
  | .unidentified => none

/-- The calendar date. A zoned text keeps its own date; an epoch is read in the local zone. Nothing
where the date cannot be read. -/
def toDate? (zone : LocalZone) : Stamp → Option Date
  | date d => some d
  | wallClock reading => some reading.date
  | zoned o => o.wallClock?.map DateTime.date
  | epoch i => (zone.fromUtc? i).map DateTime.date

/-- The wall-clock reading. A date starts at midnight; a zoned text keeps its own clock. Nothing
where its date cannot be read. -/
def toDateTime? (zone : LocalZone) : Stamp → Option DateTime
  | date d => some (.startOf d)
  | wallClock reading => some reading
  | zoned o => o.wallClock?
  | epoch i => zone.fromUtc? i

/-- The instant. A text without a zone is placed in the local one. Nothing where its date cannot be
read. -/
def toInstant? (zone : LocalZone) : Stamp → Option Instant
  | date d => zone.toUtc? (.startOf d)
  | wallClock reading => zone.toUtc? reading
  | zoned o => some o.instant
  | epoch i => some i

/-- The date-time with its offset. A text without a zone, and an epoch, are taken as UTC. -/
def toOffsetDateTime : Stamp → OffsetDateTime
  | date d => Instant.withoutOffset ⟨.startOf d⟩
  | wallClock reading => Instant.withoutOffset ⟨reading⟩
  | zoned o => o
  | epoch i => i.withoutOffset

end Stamp

/-- Read a time of day. -/
def readTime? (cs : List Char) : Option Time := (Pattern.read? Pattern.time cs).bind Fields.time?

example : DateFormat.identify "2024-01-15 15:00:00.0".toList = .sqlDateTime := by decide +kernel

example : DateFormat.identify "1705330800".toList = .epochSeconds := by decide +kernel

end RowFilter.Civil
