import RowFilter.Civil.Recognise
import RowFilter.Proofs.Civil.Pattern

/-!
# Recognising written dates

A date, a date-time and a point in time are written in notations that lie one within the other. Each
is read in its own notation: one that is tried earlier leaves a part of the text, and a pattern fits
a text only as a whole.
-/

namespace RowFilter.Civil

/-! ## Clocks put forward and back -/

namespace DateTime

variable {dt : DateTime}

theorem ofSeconds_seconds (dt : DateTime) : ofSeconds dt.seconds dt.time.nanos = dt := by
  obtain ⟨⟨days⟩, ⟨⟨second, hsecond⟩, nanos⟩⟩ := dt
  have hdays : (days * 86400 + second) / 86400 = days := by omega
  have hrest : (days * 86400 + (second : Int)) % 86400 = second := by omega
  simp only [ofSeconds, seconds, hdays, hrest, Int.toNat_natCast]

theorem shift_zero (dt : DateTime) : dt.shift 0 = dt := by
  rw [shift, Int.add_zero, ofSeconds_seconds]

theorem shift_shift (dt : DateTime) (a b : Int) : (dt.shift a).shift b = dt.shift (a + b) := by
  rw [shift, shift, shift, seconds_ofSeconds, Int.add_assoc]
  rfl

/-- A clock that is put forward by less than a day stands on a date next to the one before. -/
theorem days_shift {distance : Int} (h : distance.natAbs < 86400) :
    dt.date.days - 1 ≤ (dt.shift distance).date.days ∧
      (dt.shift distance).date.days ≤ dt.date.days + 1 := by
  have hsecond := dt.time.second.isLt
  change dt.date.days - 1 ≤ (dt.date.days * 86400 + (dt.time.second.val : Int) + distance) / 86400 ∧
    (dt.date.days * 86400 + (dt.time.second.val : Int) + distance) / 86400 ≤ dt.date.days + 1
  omega

theorem shift?_eq_some {shifted : DateTime} {distance : Int} :
    dt.shift? distance = some shifted ↔
      dt.shift distance = shifted ∧ shifted.date.inRange = true := by
  rw [shift?, Option.ite_none_right_eq_some, Option.some_inj]
  constructor
  · rintro ⟨hrange, rfl⟩
    exact ⟨rfl, hrange⟩
  · rintro ⟨rfl, hrange⟩
    exact ⟨hrange, rfl⟩

theorem shift?_zero (h : dt.date.inRange = true) : dt.shift? 0 = some dt :=
  shift?_eq_some.2 ⟨shift_zero dt, h⟩

/-- From a date that is neither the first nor the last, a clock that is put forward by less than a
day does not leave the dates that can be read. -/
theorem shift?_of_isInner {distance : Int} (hdate : dt.date.IsInner)
    (hday : distance.natAbs < 86400) : dt.shift? distance = some (dt.shift distance) := by
  have hnear := @days_shift dt distance hday
  obtain ⟨hfirst, hlast⟩ := hdate
  refine shift?_eq_some.2 ⟨rfl, ?_⟩
  simp only [Date.inRange, Bool.and_eq_true, decide_eq_true_eq]
  omega

/-- Whether a reading has a year of four digits and is in no leap second. -/
structure IsPlain (dt : DateTime) : Prop where
  year : dt.date.HasPlainYear
  second : dt.time.isLeap = false

end DateTime

namespace OffsetDateTime

/-- Whether the local reading and the offset are written in full. -/
structure IsPlain (o : OffsetDateTime) : Prop where
  wallClock : o.wallClock.IsPlain
  offset : IsPlainOffset o.offset

variable {o : OffsetDateTime}

theorem ofWallClock_wallClock (o : OffsetDateTime) : ofWallClock o.wallClock o.offset = o := by
  rw [ofWallClock, wallClock, DateTime.shift_shift, Int.add_right_neg, DateTime.shift_zero]

theorem wallClock_ofWallClock (reading : DateTime) (offset : Int) :
    (ofWallClock reading offset).wallClock = reading := by
  rw [ofWallClock, wallClock, DateTime.shift_shift, Int.add_left_neg, DateTime.shift_zero]

theorem IsPlain.inRange (h : o.IsPlain) : o.instant.utc.date.inRange = true := by
  have hyear := h.wallClock.year.days_bounds
  have hshift := @DateTime.days_shift o.instant.utc o.offset h.offset.2
  change _ ≤ o.wallClock.date.days ∧ o.wallClock.date.days ≤ _ at hshift
  exact Date.inRange_of_bounds (by omega)

end OffsetDateTime

/-- A point in time is plain at the offset zero if its reading in UTC is. -/
theorem DateTime.IsPlain.withoutOffset {i : Instant} (h : i.utc.IsPlain) :
    i.withoutOffset.IsPlain := by
  refine ⟨?_, show IsPlainOffset 0 from ⟨by decide, by decide⟩⟩
  rw [OffsetDateTime.wallClock, Instant.withoutOffset, DateTime.shift_zero]
  exact h

/-! ## Plain characters -/

theorem Date.plain_twoDigits (n : Nat) : Text.Plain (Date.twoDigits n) := Number.plain_padLeft 2 n

theorem Date.plain_chars (d : Date) : Text.Plain d.chars := by
  have hyear : Text.Plain (Date.yearChars d.calendar.year) := by
    unfold Date.yearChars
    split
    · exact Number.plain_padLeft _ _
    · refine .cons ?_ (Number.plain_padLeft _ _)
      split <;> decide
  exact (hyear.append (.cons (by decide) (plain_twoDigits _))).append
    (.cons (by decide) (plain_twoDigits _))

theorem Time.plain_chars (t : Time) : Text.Plain t.chars := by
  have hfraction (n : Nat) : Text.Plain (Time.fractionChars n) := by
    unfold Time.fractionChars
    split
    · exact Text.plain_nil
    · split
      · exact .cons (by decide) (Number.plain_padLeft _ _)
      · split <;> exact .cons (by decide) (Number.plain_padLeft _ _)
  exact (((Date.plain_twoDigits _).append (.cons (by decide) (Date.plain_twoDigits _))).append
    (.cons (by decide) (Date.plain_twoDigits _))).append (hfraction _)

theorem DateTime.plain_chars (dt : DateTime) : Text.Plain (dt.chars 'T') :=
  dt.date.plain_chars.append (.cons (by decide) dt.time.plain_chars)

theorem OffsetDateTime.plain_offsetChars (offset : Int) :
    Text.Plain (OffsetDateTime.offsetChars offset) := by
  refine .cons ?_ ((Date.plain_twoDigits _).append (.cons (by decide) (Date.plain_twoDigits _)))
  split <;> decide

theorem OffsetDateTime.plain_text (o : OffsetDateTime) : Text.Plain o.text.toList := by
  rw [OffsetDateTime.text, String.toList_ofList]
  exact o.wallClock.plain_chars.append (plain_offsetChars o.offset)

/-! ## Notations -/

open Pattern

/-- The fields of a reading. -/
def Fields.ofReading (dt : DateTime) : Fields := (Fields.withDay {} dt.date.calendar).withTime dt.time

theorem Fields.dateTime?_ofReading {dt : DateTime} (h : dt.IsPlain) :
    (Fields.ofReading dt).dateTime? = some dt := by
  have hdate : (Fields.ofReading dt).date? = some dt.date := Fields.date?_withDay h.year {}
  have htime : (Fields.ofReading dt).time? = some dt.time := Fields.time?_withTime h.second _
  simp [Fields.dateTime?, hdate, htime]

theorem takes_lenientDate {d : Date} (h : d.HasPlainYear) (f : Fields) (rest : List Char) :
    Takes Pattern.date f (d.chars ++ rest) (f.withDay d.calendar) rest :=
  takes_date readsNumber_lenientYear (readsNumber_lenient _) (readsNumber_lenient _) h

theorem takes_lenientDateTime {dt : DateTime} {rest : List Char} (h : dt.IsPlain)
    (hrest : Stops rest) :
    Takes Pattern.dateTime {} (dt.chars 'T' ++ rest) (Fields.ofReading dt) rest := by
  rw [DateTime.chars, List.append_assoc, List.cons_append]
  exact (takes_lenientDate h.year _ _).trans <| (Takes.one (step_mark 'T' _ _)).trans <|
    takes_time (readsNumber_lenient _) (readsNumber_lenient _) (readsNumber_lenient _) h.second rfl
      hrest

/-- Without seconds in the pattern, those of the text are left over. -/
theorem takes_toMinute {dt : DateTime} (h : dt.IsPlain) (rest : List Char) :
    Takes Pattern.dateTimeToMinute {} (dt.chars 'T' ++ rest)
      ((Fields.withDay {} dt.date.calendar).withClock dt.time)
      (':' :: (Date.twoDigits (dt.time.second.val % 60) ++
        (Time.fractionChars dt.time.nanos.val ++ rest))) := by
  rw [DateTime.chars, List.append_assoc, List.cons_append]
  exact (takes_lenientDate h.year _ _).trans <| (Takes.one (step_mark 'T' _ _)).trans <|
    takes_clock (readsNumber_lenient _) (readsNumber_lenient _) h.second

/-- Whether a text is an offset of the strict style. -/
def IsStrictOffset (cs : List Char) (offset : Int) : Prop :=
  Stops cs ∧ ∀ f, step .strictOffset f cs = some ({ f with offset := offset }, [])

theorem isStrictOffset_offsetChars {offset : Int} (h : IsPlainOffset offset) :
    IsStrictOffset (OffsetDateTime.offsetChars offset) offset := by
  refine ⟨stops_offsetChars offset, fun f => ?_⟩
  have hstep := step_strictOffset h f []
  rw [List.append_nil] at hstep
  exact hstep

theorem isStrictOffset_utc : IsStrictOffset ['Z'] 0 := by
  refine ⟨?_, fun _ => rfl⟩
  rintro c hc
  cases hc
  decide

theorem takes_internet {dt : DateTime} {cs : List Char} {offset : Int} (h : dt.IsPlain)
    (hoffset : IsStrictOffset cs offset) :
    Takes Pattern.internet {} (dt.chars 'T' ++ cs) { Fields.ofReading dt with offset := offset }
      [] := by
  have hmark : step (.oneOf ['T', 't', ' ']) (Fields.withDay {} dt.date.calendar)
      ('T' :: (dt.time.chars ++ cs)) =
        some (Fields.withDay {} dt.date.calendar, dt.time.chars ++ cs) := by
    simp [step]
  rw [DateTime.chars, List.append_assoc, List.cons_append]
  exact (takes_date (readsNumber_strict _ 4) (readsNumber_strict _ 2) (readsNumber_strict _ 2)
      h.year).trans <|
    (Takes.one hmark).trans <|
    (takes_time (readsNumber_strict _ 2) (readsNumber_strict _ 2) (readsNumber_strict _ 2) h.second
      rfl hoffset.1).trans <|
    Takes.one (hoffset.2 _)

theorem Fields.offsetDateTime?_ofReading {o : OffsetDateTime} (h : o.IsPlain) :
    Fields.offsetDateTime? { Fields.ofReading o.wallClock with offset := o.offset } = some o := by
  have hreading : Fields.dateTime? { Fields.ofReading o.wallClock with offset := o.offset } =
      some o.wallClock := Fields.dateTime?_ofReading h.wallClock
  simp [Fields.offsetDateTime?, hreading, h.offset.2, OffsetDateTime.ofWallClock_wallClock,
    h.inRange]

namespace DateFormat

variable {d : Date} {dt : DateTime} {o : OffsetDateTime} {rest : List Char}

theorem readIsoDate?_chars (h : d.HasPlainYear) : readIsoDate? d.chars = some d := by
  have htakes := takes_lenientDate h {} []
  rw [List.append_nil] at htakes
  rw [readIsoDate?, htakes.read?_eq_some]
  exact Fields.date?_withDay h {}

/-- A date with a time is no date. -/
theorem readIsoDate?_of_time (h : d.HasPlainYear) : readIsoDate? (d.chars ++ 'T' :: rest) = none := by
  rw [readIsoDate?, (takes_lenientDate h {} _).read?_eq_none]
  rfl

theorem readIsoDateTime?_chars (h : dt.IsPlain) : readIsoDateTime? (dt.chars 'T') = some dt := by
  have htakes := takes_lenientDateTime h stops_nil
  rw [List.append_nil] at htakes
  rw [readIsoDateTime?, htakes.read?_eq_some, Option.bind_some, Fields.dateTime?_ofReading h]

/-- A date-time with more behind it is none: this is left over, and so are the seconds where none
are read. -/
theorem readIsoDateTime?_of_more {c : Char} (h : dt.IsPlain) (hstops : Stops (c :: rest)) :
    readIsoDateTime? (dt.chars 'T' ++ c :: rest) = none := by
  have hwhole := takes_lenientDateTime h hstops
  have hminute := takes_toMinute h (c :: rest)
  rw [readIsoDateTime?, hwhole.read?_eq_none, hminute.read?_eq_none]
  rfl

/-- Plain text ends with no bracket, and so names no region. -/
theorem withoutRegion_of_plain {cs : List Char} (h : Text.Plain cs) : withoutRegion cs = cs := by
  rw [withoutRegion, if_neg]
  intro hlast
  have hbracket := h ']' (List.mem_of_getLast? hlast)
  exact absurd hbracket (by decide)

/-- A wall-clock reading with a strict offset, in front of the name of a region if there is one. -/
theorem readZoned?_of_withoutRegion {cs zone : List Char} (h : o.IsPlain)
    (hzone : IsStrictOffset zone o.offset)
    (hregion : withoutRegion cs = o.wallClock.chars 'T' ++ zone) : readZoned? cs = some o := by
  rw [readZoned?, hregion, (takes_internet h.wallClock hzone).read?_eq_some, Option.bind_some,
    Fields.offsetDateTime?_ofReading h]

end DateFormat

/-! ## What a text says -/

/-- Whether a text is recognised, and what it says. -/
def Says (cs : List Char) (stamp : Stamp) : Prop :=
  DateFormat.identify cs ≠ .unidentified ∧
    Stamp.ofFormat? (DateFormat.identify cs) cs = some stamp

theorem Says.unique {cs : List Char} {stamp other : Stamp} (h : Says cs stamp)
    (hother : Says cs other) : stamp = other := Option.some.inj (h.2.symm.trans hother.2)

theorem says_date {d : Date} (h : d.HasPlainYear) : Says d.chars (.date d) := by
  have hread := DateFormat.readIsoDate?_chars h
  have hidentify : DateFormat.identify d.chars = .isoDate := by
    rw [DateFormat.identify, hread]
    rfl
  rw [Says, hidentify, Stamp.ofFormat?, hread]
  exact ⟨nofun, rfl⟩

theorem says_dateTime {dt : DateTime} (h : dt.IsPlain) : Says (dt.chars 'T') (.wallClock dt) := by
  have hdate : DateFormat.readIsoDate? (dt.chars 'T') = none :=
    DateFormat.readIsoDate?_of_time h.year
  have hread := DateFormat.readIsoDateTime?_chars h
  have hidentify : DateFormat.identify (dt.chars 'T') = .isoDateTime := by
    rw [DateFormat.identify, hdate, hread]
    rfl
  rw [Says, hidentify, Stamp.ofFormat?, hread]
  exact ⟨nofun, rfl⟩

/-- A text that begins like a date-time and goes on with an offset says what it is read as. -/
theorem says_zoned {cs : List Char} {o : OffsetDateTime} {c : Char} {rest : List Char}
    (h : o.wallClock.IsPlain) (hcs : cs = o.wallClock.chars 'T' ++ c :: rest)
    (hstops : Stops (c :: rest)) (hread : DateFormat.readZoned? cs = some o) :
    Says cs (.zoned o) := by
  have hdate : DateFormat.readIsoDate? cs = none := by
    rw [hcs, DateTime.chars, List.append_assoc, List.cons_append]
    exact DateFormat.readIsoDate?_of_time h.year
  have hlocal : DateFormat.readIsoDateTime? cs = none :=
    hcs ▸ DateFormat.readIsoDateTime?_of_more h hstops
  rw [Says, DateFormat.identify, hdate, hlocal, hread]
  simp only [Option.isSome_none, Option.isSome_some, Bool.false_eq_true, if_false, if_true,
    Bool.and_true, decide_eq_true_eq]
  split <;> exact ⟨nofun, by rw [Stamp.ofFormat?, hread]; rfl⟩

theorem says_offsetDateTime {o : OffsetDateTime} (h : o.IsPlain) :
    Says o.text.toList (.zoned o) := by
  rw [OffsetDateTime.text, String.toList_ofList]
  have hplain := (DateTime.plain_chars o.wallClock).append
    (OffsetDateTime.plain_offsetChars o.offset)
  exact says_zoned h.wallClock rfl (stops_offsetChars o.offset) <|
    DateFormat.readZoned?_of_withoutRegion h (isStrictOffset_offsetChars h.offset)
      (DateFormat.withoutRegion_of_plain hplain)

theorem readTime?_text {t : Time} (h : t.isLeap = false) : readTime? t.text.toList = some t := by
  have htakes : Takes Pattern.time {} (t.chars ++ []) (Fields.withTime {} t) [] :=
    takes_time (readsNumber_lenient _) (readsNumber_lenient _) (readsNumber_lenient _) h rfl stops_nil
  rw [List.append_nil] at htakes
  rw [Time.text, String.toList_ofList, readTime?, htakes.read?_eq_some]
  exact Fields.time?_withTime h {}

/-! ## Dates that can be read -/

theorem Date.inRange_of_ofCalendar? {c : CalendarDay} {d : Date} (h : ofCalendar? c = some d) :
    d.inRange = true := by
  obtain ⟨hvalid, heq⟩ := Option.ite_none_right_eq_some.1 h
  cases heq
  exact (Bool.and_eq_true_iff.1 hvalid).2

namespace Fields

variable {f : Fields}

theorem inRange_of_dateTime? {reading : DateTime} (h : f.dateTime? = some reading) :
    reading.date.inRange = true := by
  obtain ⟨d, hdate, h⟩ := Option.bind_eq_some_iff.1 h
  obtain ⟨t, -, heq⟩ := Option.bind_eq_some_iff.1 h
  cases heq
  exact Date.inRange_of_ofCalendar? hdate

theorem inRange_of_offsetDateTime? {o : OffsetDateTime} (h : f.offsetDateTime? = some o) :
    o.instant.utc.date.inRange = true ∧ o.wallClock.date.inRange = true := by
  obtain ⟨reading, hreading, h⟩ := Option.bind_eq_some_iff.1 h
  obtain ⟨-, h⟩ := Option.ite_none_right_eq_some.1 h
  obtain ⟨hrange, heq⟩ := Option.ite_none_right_eq_some.1 h
  cases heq
  rw [OffsetDateTime.wallClock_ofWallClock]
  exact ⟨hrange, inRange_of_dateTime? hreading⟩

end Fields

namespace DateFormat

variable {cs : List Char}

theorem exists_of_readIsoDateTime? {reading : DateTime} (h : readIsoDateTime? cs = some reading) :
    ∃ f : Fields, f.dateTime? = some reading := by
  unfold readIsoDateTime? at h
  split at h
  · next hseconds =>
    obtain ⟨f, -, hf⟩ := Option.bind_eq_some_iff.1 hseconds
    exact ⟨f, h ▸ hf⟩
  · obtain ⟨f, -, hf⟩ := Option.bind_eq_some_iff.1 h
    exact ⟨f, hf⟩

theorem exists_of_readZoned? {o : OffsetDateTime} (h : readZoned? cs = some o) :
    ∃ f : Fields, f.offsetDateTime? = some o := by
  unfold readZoned? at h
  dsimp only at h
  split at h
  · next hstrict =>
    obtain ⟨f, -, hf⟩ := Option.bind_eq_some_iff.1 hstrict
    exact ⟨f, h ▸ hf⟩
  · obtain ⟨f, -, hf⟩ := Option.bind_eq_some_iff.1 h
    exact ⟨f, hf⟩

end DateFormat

theorem MailDate.exists_of_read? {cs : List Char} {o : OffsetDateTime} (h : read? cs = some o) :
    ∃ f : Fields, f.offsetDateTime? = some o := by
  unfold read? at h
  simp only [Option.bind_eq_bind, Option.bind_eq_some_iff] at h
  obtain ⟨_, -, _, -, _, -, _, -, _, -, _, -, _, -, ⟨f, _⟩, -, _, -, ⟨offset, _⟩, -, _, -, h⟩ := h
  exact ⟨_, (Option.ite_none_right_eq_some.1 h).2⟩

/-- Whatever a text says, its date can be read, by UTC and by the clock at its own offset. -/
theorem Says.inRange {cs : List Char} {stamp : Stamp} (h : Says cs stamp) :
    stamp.toOffsetDateTime.instant.utc.date.inRange = true ∧
      stamp.toOffsetDateTime.wallClock.date.inRange = true := by
  obtain ⟨-, hread⟩ := h
  have hutc {i : Instant} (hrange : i.utc.date.inRange = true) :
      i.utc.date.inRange = true ∧ i.withoutOffset.wallClock.date.inRange = true := by
    refine ⟨hrange, ?_⟩
    rwa [OffsetDateTime.wallClock, Instant.withoutOffset, DateTime.shift_zero]
  cases hformat : DateFormat.identify cs
  all_goals rw [hformat] at hread
  case isoDate =>
    obtain ⟨d, hd, rfl⟩ := Option.map_eq_some_iff.1 hread
    obtain ⟨f, -, hf⟩ := Option.bind_eq_some_iff.1 hd
    exact hutc (Date.inRange_of_ofCalendar? hf)
  case isoDateTime =>
    obtain ⟨reading, hreading, rfl⟩ := Option.map_eq_some_iff.1 hread
    obtain ⟨f, hf⟩ := DateFormat.exists_of_readIsoDateTime? hreading
    exact hutc (Fields.inRange_of_dateTime? hf)
  case sqlDateTime =>
    obtain ⟨reading, hreading, rfl⟩ := Option.map_eq_some_iff.1 hread
    obtain ⟨f, -, hf⟩ := Option.bind_eq_some_iff.1 hreading
    exact hutc (Fields.inRange_of_dateTime? hf)
  case isoDateTimeUtc | isoDateTimeOffset =>
    obtain ⟨o, ho, rfl⟩ := Option.map_eq_some_iff.1 hread
    obtain ⟨f, hf⟩ := DateFormat.exists_of_readZoned? ho
    exact Fields.inRange_of_offsetDateTime? hf
  case rfc1123 =>
    obtain ⟨o, ho, rfl⟩ := Option.map_eq_some_iff.1 hread
    obtain ⟨f, hf⟩ := MailDate.exists_of_read? ho
    exact Fields.inRange_of_offsetDateTime? hf
  case epochSeconds | epochMillis =>
    obtain ⟨n, -, hread⟩ := Option.bind_eq_some_iff.1 hread
    obtain ⟨hrange, heq⟩ := Option.ite_none_right_eq_some.1 hread
    cases heq
    exact hutc hrange
  case unidentified => cases hread

/-- A text with an offset says a reading of its own. -/
theorem Says.wallClock?_eq {cs : List Char} {o : OffsetDateTime} (h : Says cs (.zoned o)) :
    o.wallClock? = some o.wallClock := DateTime.shift?_eq_some.2 ⟨rfl, h.inRange.2⟩

end RowFilter.Civil
