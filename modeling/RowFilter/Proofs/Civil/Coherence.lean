import RowFilter.Proofs.Civil.Timestamp

/-!
# The temporal casts of one text

A text is cast to a date, to a reading, to an instant and to a date-time with an offset, or to none
of them. The four values show one thing from four sides: the date is that of the reading, the
date-time lies where the instant lies in UTC, and the local zone leads from the reading to the
instant or back, by whether the text gives the one or the other. At the ends of the calendar the
zone may lead out of it. There a text has only what it gives itself: the instant but no date and no
reading, or these but no instant.
-/

namespace RowFilter.Civil

variable {cs : List Char} {stamp : Stamp} {zone : LocalZone}

/-! ## What a text carries -/

namespace DateFormat

/-- Whether a text is an epoch number. -/
def IsEpoch (cs : List Char) : Prop := (readEpoch? cs).isSome = true

/-- Whether a text says a date or a reading, and no zone. -/
def IsUnzoned (cs : List Char) : Prop := identify cs ∈ [.isoDate, .isoDateTime, .sqlDateTime]

/-- Whether a text says its offset from UTC. -/
def IsZoned (cs : List Char) : Prop :=
  identify cs ∈ [.isoDateTimeUtc, .isoDateTimeOffset, .rfc1123]

instance (cs : List Char) : Decidable (IsEpoch cs) :=
  inferInstanceAs (Decidable (_ = true))

instance (cs : List Char) : Decidable (IsUnzoned cs) :=
  inferInstanceAs (Decidable (_ ∈ _))

instance (cs : List Char) : Decidable (IsZoned cs) :=
  inferInstanceAs (Decidable (_ ∈ _))

/-- An epoch number is recognised as nothing else. -/
theorem isEpoch_iff : IsEpoch cs ↔ identify cs ∈ [.epochSeconds, .epochMillis] := by
  constructor
  · intro h
    obtain ⟨n, hread⟩ := Option.isSome_iff_exists.1 h
    have hforeign := isForeign_of_writes (Number.readInt64?_eq_some.1 hread).1
    rw [hforeign.identify, hread]
    dsimp only
    split <;> decide
  · intro h
    have hrecognised := recognises_identify cs
    generalize identify cs = format at h hrecognised
    cases hrecognised with
    | epochSeconds hread | epochMillis hread => exact Option.isSome_iff_exists.2 ⟨_, hread⟩
    | _ => exact absurd h (by decide)

end DateFormat

open DateFormat (IsEpoch IsUnzoned IsZoned)

theorem Says.exists_epoch (h : Says cs stamp) (hcs : IsEpoch cs) : ∃ i, stamp = .epoch i := by
  obtain ⟨-, hread⟩ := h
  rw [DateFormat.isEpoch_iff] at hcs
  simp only [List.mem_cons, List.not_mem_nil, or_false] at hcs
  rcases hcs with hformat | hformat
  all_goals
    rw [hformat] at hread
    obtain ⟨n, -, hread⟩ := Option.bind_eq_some_iff.1 hread
    obtain ⟨-, heq⟩ := Option.ite_none_right_eq_some.1 hread
    cases heq
    exact ⟨_, rfl⟩

theorem Says.exists_zoned (h : Says cs stamp) (hcs : IsZoned cs) : ∃ o, stamp = .zoned o := by
  obtain ⟨-, hread⟩ := h
  simp only [IsZoned, List.mem_cons, List.not_mem_nil, or_false] at hcs
  rcases hcs with hformat | hformat | hformat
  all_goals
    rw [hformat] at hread
    obtain ⟨o, -, rfl⟩ := Option.map_eq_some_iff.1 hread
    exact ⟨o, rfl⟩

/-- A text without a zone gives a reading, and the zone the instant. -/
theorem Says.exists_reading (h : Says cs stamp) (hcs : IsUnzoned cs) :
    ∃ reading, ∀ zone : LocalZone, stamp.toDateTime? zone = some reading ∧
      stamp.toInstant? zone = zone.toUtc? reading := by
  obtain ⟨-, hread⟩ := h
  simp only [IsUnzoned, List.mem_cons, List.not_mem_nil, or_false] at hcs
  rcases hcs with hformat | hformat | hformat
  all_goals
    rw [hformat] at hread
    obtain ⟨value, -, rfl⟩ := Option.map_eq_some_iff.1 hread
    exact ⟨_, fun zone => ⟨rfl, rfl⟩⟩

/-- In UTC, a text says the same instant with an offset and without. -/
theorem Says.toInstant?_of_isUtc (h : Says cs stamp) (hzone : zone.zone.IsUtc) :
    stamp.toInstant? zone = some stamp.toOffsetDateTime.instant := by
  have hrange := h.inRange.1
  cases stamp with
  | date d | wallClock reading => exact hzone.toUtc? hrange
  | zoned o | epoch i => rfl

end RowFilter.Civil

namespace RowFilter.Cast

open Civil

variable {text : String} {stamp : Stamp}

/-- Whether the casts of a text, for a local zone, fit together: to a date and to a reading, to an
instant, and to a date-time with an offset. Without a reading the first two overflow, and without an
instant the third. -/
structure Coheres (zone : LocalZone) (text : String) (reading? : Option DateTime)
    (instant? : Option Instant) (o : OffsetDateTime) : Prop where
  date : Gives zone .date text (reading?.map fun reading => .date reading.date)
  dateTime : Gives zone .dateTime text (reading?.map .dateTime)
  instant : Gives zone .instant text (instant?.map .instant)
  offsetDateTime : toLiteral zone .offsetDateTime text = .ok (some (.offsetDateTime o))
  in_utc : ∀ utc : LocalZone, utc.zone.IsUtc →
    toLiteral utc .instant text = .ok (some (.instant o.instant))
  of_epoch : DateFormat.IsEpoch text.toList →
    ∃ i, instant? = some i ∧ reading? = zone.fromUtc? i
  of_unzoned : DateFormat.IsUnzoned text.toList →
    ∃ reading, reading? = some reading ∧ instant? = zone.toUtc? reading
  of_zoned : DateFormat.IsZoned text.toList →
    ∃ reading i, reading? = some reading ∧ instant? = some i ∧
      ∀ other : LocalZone, toLiteral other .instant text = .ok (some (.instant i))
  /-- Away from the ends of the calendar, no cast overflows. -/
  together : o.instant.utc.date.IsInner → reading?.isSome = true ∧ instant?.isSome = true

/-- A text that says nothing is cast to none of the temporal types, for one cause. -/
theorem exists_isRefused (h : ∀ stamp, ¬ Says text.toList stamp) (zone : LocalZone) :
    ∃ error, IsRefused zone text error := by
  by_cases hformat : DateFormat.identify text.toList = .unidentified
  · exact ⟨_, isRefused_of_unidentified hformat⟩
  · refine ⟨_, (outcome_of_identify zone rfl hformat).2 fun hsome => ?_⟩
    obtain ⟨stamp, hstamp⟩ := Option.isSome_iff_exists.1 hsome
    exact h stamp ⟨hformat, hstamp⟩

theorem coheres_of_says (h : Says text.toList stamp) (zone : LocalZone) :
    Coheres zone text (stamp.toDateTime? zone) (stamp.toInstant? zone) stamp.toOffsetDateTime := by
  have hinstant (other : LocalZone) :
      Gives other .instant text ((stamp.toInstant? other).map .instant) :=
    gives_of_says h (by decide)
  constructor
  case date =>
    have hgives : Gives zone .date text ((stamp.toDate? zone).map .date) :=
      gives_of_says h (by decide)
    rwa [Stamp.toDate?_eq, Option.map_map] at hgives
  case dateTime => exact gives_of_says h (by decide)
  case instant => exact hinstant zone
  case offsetDateTime => exact gives_of_says h (by decide)
  case in_utc =>
    intro utc hutc
    have hgives := hinstant utc
    rwa [h.toInstant?_of_isUtc hutc] at hgives
  case of_epoch =>
    intro hepoch
    obtain ⟨i, rfl⟩ := h.exists_epoch hepoch
    exact ⟨i, rfl, rfl⟩
  case of_unzoned =>
    intro hunzoned
    obtain ⟨reading, hreading⟩ := h.exists_reading hunzoned
    exact ⟨reading, hreading zone⟩
  case of_zoned =>
    intro hzoned
    obtain ⟨o, rfl⟩ := h.exists_zoned hzoned
    exact ⟨o.wallClock, o.instant, h.wallClock?_eq, rfl, hinstant⟩
  case together =>
    intro hinner
    exact ⟨Option.isSome_iff_exists.2 (h.exists_toDateTime? zone hinner),
      Option.isSome_iff_exists.2 (stamp.exists_toInstant? zone hinner)⟩

/-- **The temporal casts cohere.** A text is cast to none of the four types, for one cause, or to a
date-time with an offset and to a date, a reading and an instant that fit together with it, of which
the zone may take some away on the first and on the last day of the calendar. -/
theorem temporal_coherence (zone : LocalZone) (text : String) :
    (∃ reading? instant? o, Coheres zone text reading? instant? o) ∨
      ∃ error, IsRefused zone text error := by
  by_cases hsays : ∃ stamp, Says text.toList stamp
  · obtain ⟨stamp, hsays⟩ := hsays
    exact .inl ⟨_, _, _, coheres_of_says hsays zone⟩
  · exact .inr (exists_isRefused (not_exists.1 hsays) zone)

/-- The last millisecond of the calendar by UTC is an instant of which Tokyo has no date. -/
theorem temporal_casts_apart_tokyo :
    ∃ zone i, LocalZone.named? "Asia/Tokyo" = some zone ∧
      toLiteral zone .instant "8210266876799999" = .ok (some (.instant i)) ∧
      toLiteral zone .offsetDateTime "8210266876799999" =
        .ok (some (.offsetDateTime i.withoutOffset)) ∧
      toLiteral zone .date "8210266876799999" =
        .error (.numericOverflow "8210266876799999" .date) ∧
      toLiteral zone .dateTime "8210266876799999" =
        .error (.numericOverflow "8210266876799999" .dateTime) := by
  have hsays : Says "8210266876799999".toList (.epoch (.atMillisecond 8210266876799999)) :=
    ⟨by decide +kernel, by decide +kernel⟩
  obtain ⟨zone, hzone, hout⟩ : ∃ zone, LocalZone.named? "Asia/Tokyo" = some zone ∧
      zone.fromUtc? (.atMillisecond 8210266876799999) = none := ⟨_, rfl, by decide +kernel⟩
  refine ⟨zone, .atMillisecond 8210266876799999, hzone, ?_, ?_, ?_, ?_⟩
  · have hgives : Gives zone .instant _ _ := gives_of_says hsays (by decide)
    exact hgives
  · exact gives_of_says hsays (by decide)
  · have hgives : Gives zone .date _ _ := gives_of_says hsays (by decide)
    rwa [(literal?_eq_none_iff hsays (by decide)).2 (.date hsays hout)] at hgives
  · have hgives : Gives zone .dateTime _ _ := gives_of_says hsays (by decide)
    rwa [(literal?_eq_none_iff hsays (by decide)).2 (.dateTime hsays hout)] at hgives

end RowFilter.Cast
