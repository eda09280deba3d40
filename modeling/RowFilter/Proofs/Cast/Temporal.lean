import RowFilter.Cast
import RowFilter.Proofs.Civil.Zone

/-!
# Casts of date texts

What a date text says is converted to a date, to a reading, to an instant or to a date-time with an
offset. The zone may lead out of the calendar there: an epoch number may be at no reading that can
be written, and a reading at no such instant. Then the cast overflows. A text can only do so if it
says a moment of the first or of the last day of the calendar, and never if it says an offset.
-/

namespace RowFilter

namespace Civil

/-- The reading that a text without a zone says. -/
inductive SaysReading (text : String) : DateTime → Prop where
  | date {d : Date} (h : Says text.toList (.date d)) : SaysReading text (.startOf d)
  | wallClock {reading : DateTime} (h : Says text.toList (.wallClock reading)) :
    SaysReading text reading

/-- The date of a text is that of its reading, where it has one. -/
theorem Stamp.toDate?_eq (zone : LocalZone) (stamp : Stamp) :
    stamp.toDate? zone = (stamp.toDateTime? zone).map DateTime.date := by
  cases stamp <;> rfl

/-- A text that says no moment of an outermost day has a reading. -/
theorem Says.exists_toDateTime? {cs : List Char} {stamp : Stamp} (h : Says cs stamp)
    (zone : LocalZone) (hinner : stamp.toOffsetDateTime.instant.utc.date.IsInner) :
    ∃ reading, stamp.toDateTime? zone = some reading := by
  cases stamp with
  | date d | wallClock reading => exact ⟨_, rfl⟩
  | zoned o => exact ⟨_, h.wallClock?_eq⟩
  | epoch i => exact zone.exists_fromUtc? hinner

/-- Nor does such a text lack an instant. -/
theorem Stamp.exists_toInstant? (zone : LocalZone) (stamp : Stamp)
    (hinner : stamp.toOffsetDateTime.instant.utc.date.IsInner) :
    ∃ i, stamp.toInstant? zone = some i := by
  cases stamp with
  | date d | wallClock reading => exact zone.exists_toUtc? hinner
  | zoned o | epoch i => exact ⟨_, rfl⟩

/-- What a text says as a literal of a temporal type, if this can be written. -/
def Stamp.literal? (zone : LocalZone) (stamp : Stamp) : ScalarType → Option Literal
  | .date => (stamp.toDate? zone).map .date
  | .dateTime => (stamp.toDateTime? zone).map .dateTime
  | .instant => (stamp.toInstant? zone).map .instant
  | .offsetDateTime => some (.offsetDateTime stamp.toOffsetDateTime)
  | _ => none

end Civil

namespace Cast

open Civil

variable {zone : LocalZone} {type : ScalarType} {text : String} {stamp : Stamp}
  {reading : DateTime}

/-- The types of dates and of points in time. -/
def temporalTypes : List ScalarType := [.date, .dateTime, .instant, .offsetDateTime]

theorem toStamp_eq (h : Says text.toList stamp) : toStamp type text = .ok stamp := by
  obtain ⟨hformat, hstamp⟩ := h
  rw [toStamp]
  split
  · next heq => exact absurd heq hformat
  · rw [hstamp]
    rfl

/-- Whether a text is cast to a value, or overflows if there is none. -/
def Gives (zone : LocalZone) (type : ScalarType) (text : String) (value? : Option Literal) : Prop :=
  toLiteral zone type text = (orOverflow type text value?).map some

theorem orOverflow_bind {α : Type} (value? : Option α) (toLiteral : α → Literal) :
    (orOverflow type text value? >>= fun a => .ok (some (toLiteral a))) =
      (orOverflow type text (value?.map toLiteral)).map some := by
  cases value? <;> rfl

/-- A text is cast to what it says. -/
theorem gives_of_says (h : Says text.toList stamp) (htype : type ∈ temporalTypes) :
    Gives zone type text (stamp.literal? zone type) := by
  simp only [temporalTypes, List.mem_cons, List.not_mem_nil, or_false] at htype
  rcases htype with rfl | rfl | rfl | rfl
  case inr.inr.inr =>
    rw [Gives, toLiteral, toStamp_eq h]
    rfl
  all_goals
    rw [Gives, toLiteral, toStamp_eq h]
    exact orOverflow_bind _ _

theorem gives_of_saysReading (h : SaysReading text reading) :
    Gives zone .instant text ((zone.toUtc? reading).map .instant) := by
  cases h with
  | date hsays | wallClock hsays => exact gives_of_says hsays (by decide)

/-- Whether a text says something that the zone leads out of the calendar, on the way to a type. -/
inductive Overflows (zone : LocalZone) (text : String) : ScalarType → Prop where
  | date {i : Instant} (h : Says text.toList (.epoch i)) (hout : zone.fromUtc? i = none) :
    Overflows zone text .date
  | dateTime {i : Instant} (h : Says text.toList (.epoch i)) (hout : zone.fromUtc? i = none) :
    Overflows zone text .dateTime
  | instant {reading : DateTime} (h : SaysReading text reading)
    (hout : zone.toUtc? reading = none) : Overflows zone text .instant

theorem Overflows.exists_says (h : Overflows zone text type) :
    ∃ stamp, Says text.toList stamp ∧ stamp.literal? zone type = none := by
  cases h with
  | date hsays hout =>
    refine ⟨_, hsays, ?_⟩
    rw [Stamp.literal?, Stamp.toDate?, hout]
    rfl
  | dateTime hsays hout => exact ⟨_, hsays, Option.map_eq_none_iff.2 hout⟩
  | instant hsays hout =>
    cases hsays with
    | date hsays | wallClock hsays => exact ⟨_, hsays, Option.map_eq_none_iff.2 hout⟩

/-- A text has no value of a temporal type exactly if it overflows. -/
theorem literal?_eq_none_iff (h : Says text.toList stamp) (htype : type ∈ temporalTypes) :
    stamp.literal? zone type = none ↔ Overflows zone text type := by
  constructor
  · intro hnone
    simp only [temporalTypes, List.mem_cons, List.not_mem_nil, or_false] at htype
    rcases htype with rfl | rfl | rfl | rfl
    · have hnone := Option.map_eq_none_iff.1 hnone
      cases stamp with
      | date d | wallClock reading => cases hnone
      | zoned o => simp [Stamp.toDate?, h.wallClock?_eq] at hnone
      | epoch i => exact .date h (Option.map_eq_none_iff.1 hnone)
    · have hnone := Option.map_eq_none_iff.1 hnone
      cases stamp with
      | date d | wallClock reading => cases hnone
      | zoned o => cases h.wallClock?_eq.symm.trans hnone
      | epoch i => exact .dateTime h hnone
    · have hnone := Option.map_eq_none_iff.1 hnone
      cases stamp with
      | date d => exact .instant (.date h) hnone
      | wallClock reading => exact .instant (.wallClock h) hnone
      | zoned o | epoch i => cases hnone
    · cases hnone
  · intro hoverflows
    obtain ⟨other, hsays, hnone⟩ := hoverflows.exists_says
    cases h.unique hsays
    exact hnone

/-- Only on the first and on the last day of the calendar does a text overflow. -/
theorem Overflows.not_isInner (h : Overflows zone text type) :
    ∃ o, toLiteral zone .offsetDateTime text = .ok (some (.offsetDateTime o)) ∧
      ¬ o.instant.utc.date.IsInner := by
  obtain ⟨stamp, hsays, hnone⟩ := h.exists_says
  refine ⟨stamp.toOffsetDateTime, gives_of_says hsays (by decide), fun hinner => ?_⟩
  obtain ⟨reading, hreading⟩ := hsays.exists_toDateTime? zone hinner
  obtain ⟨i, hi⟩ := stamp.exists_toInstant? zone hinner
  cases h with
  | date | dateTime => simp [Stamp.literal?, Stamp.toDate?_eq, hreading] at hnone
  | instant => simp [Stamp.literal?, hi] at hnone

end Cast

end RowFilter
