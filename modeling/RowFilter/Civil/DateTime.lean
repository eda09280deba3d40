import RowFilter.Civil.Time

/-!
# Dates with times

A date with a time of day is a reading of a wall clock and says nothing about a zone. An instant is
such a reading taken in UTC, and an offset date-time is an instant together with the distance of
the local clock from UTC.
-/

namespace RowFilter.Civil

/-- A reading of a wall clock. -/
structure DateTime where
  date : Date
  time : Time
  deriving Repr, DecidableEq

/-- A point on the time line, by its reading in UTC. -/
structure Instant where
  utc : DateTime
  deriving Repr, DecidableEq

/-- A point on the time line and the seconds by which the local clock is ahead of UTC. -/
structure OffsetDateTime where
  instant : Instant
  offset : Int
  deriving Repr, DecidableEq

namespace DateTime

/-- The start of a day. -/
def startOf (d : Date) : DateTime := ⟨d, .midnight⟩

/-- The seconds since the start of 1970 on the same clock. -/
def seconds (dt : DateTime) : Int := dt.date.days * 86400 + dt.time.second.val

/-- The reading a number of seconds after the start of 1970, with a fraction. -/
def ofSeconds (seconds : Int) (nanos : Fin 2000000000) : DateTime :=
  ⟨⟨seconds / 86400⟩, ⟨⟨(seconds % 86400).toNat, by omega⟩, nanos⟩⟩

/-- The clock put forward by a number of seconds, on a calendar without ends. -/
def shift (dt : DateTime) (distance : Int) : DateTime :=
  ofSeconds (dt.seconds + distance) dt.time.nanos

/-- The clock put forward by a number of seconds, if its date can be read then. -/
def shift? (dt : DateTime) (distance : Int) : Option DateTime :=
  let shifted := dt.shift distance
  if shifted.date.inRange then some shifted else none

/-- The earlier reading comes first. -/
def order (a b : DateTime) : Ordering := (a.date.order b.date).then (a.time.order b.time)

/-- The characters of the date and the time with a character between them. -/
def chars (separator : Char) (dt : DateTime) : List Char :=
  dt.date.chars ++ separator :: dt.time.chars

/-- The text `YYYY-MM-DD HH:MM:SS` with the fraction. -/
def text (dt : DateTime) : String := String.ofList (dt.chars ' ')

@[simp] theorem seconds_ofSeconds (s : Int) (nanos : Fin 2000000000) :
    (ofSeconds s nanos).seconds = s := by
  simp only [seconds, ofSeconds]
  omega

end DateTime

namespace OffsetDateTime

/-- The instant at which a clock ahead of UTC by `offset` seconds shows `reading`. -/
def ofWallClock (reading : DateTime) (offset : Int) : OffsetDateTime :=
  ⟨⟨reading.shift (-offset)⟩, offset⟩

/-- The reading of the local clock, as it is written. It may stand a day beyond the dates that can
be read. -/
def wallClock (o : OffsetDateTime) : DateTime := o.instant.utc.shift o.offset

/-- The reading of the local clock, if its date can be read. -/
def wallClock? (o : OffsetDateTime) : Option DateTime := o.instant.utc.shift? o.offset

/-- The distance from UTC as `±HH:MM`. -/
def offsetChars (offset : Int) : List Char :=
  let minutes := offset.natAbs / 60
  (if offset < 0 then '-' else '+') ::
    (Date.twoDigits (minutes / 60) ++ ':' :: Date.twoDigits (minutes % 60))

/-- The text `YYYY-MM-DDTHH:MM:SS` with the fraction and the offset, by the local clock. -/
def text (o : OffsetDateTime) : String :=
  String.ofList (o.wallClock.chars 'T' ++ offsetChars o.offset)

end OffsetDateTime

namespace Instant

/-- The earlier instant comes first. -/
def order (a b : Instant) : Ordering := a.utc.order b.utc

/-- An instant read at the offset zero. -/
def withoutOffset (i : Instant) : OffsetDateTime := ⟨i, 0⟩

/-- The text `YYYY-MM-DDTHH:MM:SS` with the fraction and the offset zero. -/
def text (i : Instant) : String := i.withoutOffset.text

end Instant

end RowFilter.Civil
