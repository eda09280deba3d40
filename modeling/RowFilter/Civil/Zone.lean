import RowFilter.Civil.DateTime
import RowFilter.Civil.ZoneTable

/-!
# Time zones

A zone says how far its local clock is ahead of UTC at each instant. A local reading that occurs
twice is taken for the earlier of the two instants. One that is skipped is shifted by the distance
that holds at the moment when UTC shows that reading. At the ends of the calendar, a reading may lie
at no instant that can be read, and an instant at no such reading.

Which zones there are, and where the host system lies, is not known here: a `ZoneBook` says it.
-/

namespace RowFilter.Civil

/-- A zone: its first distance from UTC in seconds, and the later changes in order. Its clock is
never a whole day away from UTC. -/
structure Zone where
  name : String
  initial : Int
  changes : List (Int × Int)
  small : ∀ offset ∈ initial :: changes.map Prod.snd, offset.natAbs < 86400
  deriving Repr, DecidableEq

namespace Zone

/-- The zone of UTC itself. -/
def utc : Zone := ⟨"UTC", 0, [], by decide⟩

/-- The zone with this distance and these changes, if its clock is never a whole day away. -/
def ofChanges? (name : String) (initial : Int) (changes : List (Int × Int)) : Option Zone :=
  if h : ∀ offset ∈ initial :: changes.map Prod.snd, offset.natAbs < 86400 then
    some ⟨name, initial, changes, h⟩
  else
    none

/-- The distance after the last of the changes that are not later than an instant. -/
def offsetAfter (instant : Int) : Int → List (Int × Int) → Int
  | offset, [] => offset
  | offset, (change, next) :: rest =>
    if change ≤ instant then offsetAfter instant next rest else offset

/-- The distance from UTC at an instant. -/
def offsetAt (z : Zone) (instant : Int) : Int := offsetAfter instant z.initial z.changes

/-- The earliest instant at which the local clock shows a reading, searched from the span that
begins at `since` with the distance `offset`. -/
def earliestFrom (reading : Int) : Option Int → Int → List (Int × Int) → Option Int
  | since, offset, [] =>
    if since.all (· ≤ reading - offset) then some (reading - offset) else none
  | since, offset, (change, next) :: rest =>
    if since.all (· ≤ reading - offset) ∧ reading - offset < change then
      some (reading - offset)
    else
      earliestFrom reading (some change) next rest

/-- The earliest instant at which the local clock shows a reading. -/
def earliest? (z : Zone) (reading : Int) : Option Int :=
  earliestFrom reading none z.initial z.changes

/-- The instant that a local reading stands for, if its date can be read. -/
def toUtc? (z : Zone) (reading : DateTime) : Option Instant :=
  let s := reading.seconds
  -- no clock is put forward or back at the ends of the calendar, so where the earliest instant lies
  -- beyond them, no other offset would lead back
  let instant := (z.earliest? s).getD (s - z.offsetAt s)
  (reading.shift? (instant - s)).map Instant.mk

/-- The local reading at an instant, if its date can be read. -/
def fromUtc? (z : Zone) (i : Instant) : Option DateTime := i.utc.shift? (z.offsetAt i.utc.seconds)

end Zone

/-- The zone of readings that carry none: the one of the host system, or one that was asked for by
name. -/
inductive LocalZone where
  | system {host : Zone}
  | named (zone : Zone)
  deriving Repr, DecidableEq

/-- The zones that can be had: the one of the host system, and the others by their names. -/
structure ZoneBook where
  host : Zone
  named? : String → Option Zone

namespace ZoneBook

/-- A host that lies in UTC, and the zones of the table. -/
def standard : ZoneBook where
  host := .utc
  named? name := (ZoneTable.zones.lookup name).bind fun (initial, changes) =>
    Zone.ofChanges? name initial changes

/-- The zone of the host system. -/
def system (zones : ZoneBook) : LocalZone := @LocalZone.system zones.host

end ZoneBook

namespace LocalZone

/-- UTC, asked for by name. -/
def utc : LocalZone := named .utc

/-- The zone by its name. -/
def named? (name : String) (zones : ZoneBook := .standard) : Option LocalZone :=
  (zones.named? name).map named

/-- The zone itself. -/
def zone : LocalZone → Zone
  | @system host => host
  | named z => z

/-- The instant that a local reading stands for, if its date can be read. -/
def toUtc? (z : LocalZone) (reading : DateTime) : Option Instant := z.zone.toUtc? reading

/-- The local reading at an instant, if its date can be read. -/
def fromUtc? (z : LocalZone) (i : Instant) : Option DateTime := z.zone.fromUtc? i

end LocalZone

end RowFilter.Civil
