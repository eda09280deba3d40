import RowFilter.Civil.Date

/-!
# Times of day

A time of day is a second of the day and a fraction. A fraction of a whole second or more stands
for a leap second, which follows the second it is counted with and is written as second 60.
-/

namespace RowFilter.Civil

/-- A time of day: the second of the day, and nanoseconds, of which a leap second has a billion
or more. -/
structure Time where
  second : Fin 86400
  nanos : Fin 2000000000
  deriving Repr, DecidableEq

namespace Time

/-- The start of the day. -/
def midnight : Time := ⟨0, 0⟩

/-- The time on the clock, if there is one. Second 60 is the leap second of any minute. -/
def ofClock? (hour minute second nanos : Nat) : Option Time :=
  if h : hour < 24 ∧ minute < 60 ∧ second ≤ 60 ∧ nanos < 1000000000 then
    if second = 60 then
      some ⟨⟨hour * 3600 + minute * 60 + 59, by omega⟩, ⟨nanos + 1000000000, by omega⟩⟩
    else
      some ⟨⟨(hour * 3600 + minute * 60 + second) % 86400, by omega⟩, ⟨nanos, by omega⟩⟩
  else
    none

/-- Whether the time lies in a leap second. -/
def isLeap (t : Time) : Bool := 1000000000 ≤ t.nanos.val

/-- The earlier time comes first. -/
def order (a b : Time) : Ordering :=
  (compare a.second.val b.second.val).then (compare a.nanos.val b.nanos.val)

/-- The fraction of a second with as few of 0, 3, 6 or 9 digits as are exact. -/
def fractionChars (nanos : Nat) : List Char :=
  if nanos = 0 then []
  else if nanos % 1000000 = 0 then '.' :: Text.padLeft 3 '0' (Number.natDigits (nanos / 1000000))
  else if nanos % 1000 = 0 then '.' :: Text.padLeft 6 '0' (Number.natDigits (nanos / 1000))
  else '.' :: Text.padLeft 9 '0' (Number.natDigits nanos)

/-- The characters of `HH:MM:SS` and the fraction. -/
def chars (t : Time) : List Char :=
  let s := t.second.val
  let extra := if t.isLeap then 1 else 0
  let nanos := if t.isLeap then t.nanos.val - 1000000000 else t.nanos.val
  Date.twoDigits (s / 3600) ++ ':' :: Date.twoDigits (s / 60 % 60) ++
    ':' :: Date.twoDigits (s % 60 + extra) ++ fractionChars nanos

/-- The text `HH:MM:SS` with the fraction. -/
def text (t : Time) : String := String.ofList t.chars

example : (ofClock? 23 59 60 250000000).map text = some "23:59:60.250" := by decide +kernel

end Time

end RowFilter.Civil
