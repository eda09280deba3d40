import RowFilter.Cast
import RowFilter.Proofs.Civil.MailDate
import RowFilter.Proofs.Civil.Zone
import RowFilter.Proofs.Literal.OwnText

/-!
# The notations of one instant

A whole second can be written in eight ways: in the notation of the standard with a `Z`, with an
offset, with an offset and a region, or with nothing behind it; as a database timestamp; as the date
of a header; and as a count of seconds or of milliseconds. None of these texts fits a notation that
is tried before its own, and in its own it says the same instant, as long as the local zone is UTC.
-/

namespace RowFilter.Civil

open Number (intDigits natDigits)
open Pattern

variable {dt : DateTime} {o : OffsetDateTime} {item : Item} {cs ds rest : List Char} {k : Nat}
  {n : Int}

/-- The reading a number of whole seconds after the start of 1970. -/
def DateTime.atSecond (seconds : Int) : DateTime := .ofSeconds seconds Time.midnight.nanos

/-- The instant a number of whole seconds after the start of 1970. -/
def Instant.atSecond (seconds : Int) : Instant := ⟨.atSecond seconds⟩

theorem nanos_of_milliseconds_lt (milliseconds : Int) :
    (milliseconds % 1000).toNat * 1000000 < 2000000000 := by
  omega

/-- The instant a number of whole milliseconds after the start of 1970. -/
def Instant.atMillisecond (milliseconds : Int) : Instant :=
  ⟨.ofSeconds (milliseconds / 1000)
    ⟨(milliseconds % 1000).toNat * 1000000, nanos_of_milliseconds_lt milliseconds⟩⟩

theorem Instant.atMillisecond_mul (seconds : Int) :
    atMillisecond (seconds * 1000) = atSecond seconds := by
  simp [atMillisecond, atSecond, DateTime.atSecond, Time.midnight]

/-! ## Texts that are not in the notation of the standard -/

namespace Pattern

theorem isDigit_of_takeNumber {least most : Nat} (hdigits : ∀ c ∈ ds, c.isDigit = true)
    (h : takeNumber least most ds = some (k, rest)) : ∀ c ∈ rest, c.isDigit = true := by
  obtain ⟨_, heq⟩ := Option.ite_none_right_eq_some.1 h
  cases heq
  exact fun c hc => hdigits c (List.mem_of_mem_drop hc)

/-- A number is no date if what an item leaves of it are digits. -/
theorem refuses_mark_of_digits
    (h : ∀ f rest, step item {} cs = some (f, rest) → ∀ c ∈ rest, c.isDigit = true) :
    Refuses [item, mark '-'] {} cs := by
  cases hstep : step item {} cs with
  | none => exact (Refuses.one hstep).append [mark '-']
  | some left =>
    obtain ⟨f, rest⟩ := left
    refine (Takes.one hstep).refuses (Refuses.one ?_)
    cases rest with
    | nil => rfl
    | cons c rest =>
      have hminus : c ≠ '-' := by
        rintro rfl
        exact absurd (h f _ hstep '-' List.mem_cons_self) (by decide)
      simp [step, mark, hminus]

theorem isDigit_of_step_digits (hdigits : ∀ c ∈ ds, c.isDigit = true) (hne : ds ≠ []) :
    (∀ f rest, step .lenientYear {} ds = some (f, rest) → ∀ c ∈ rest, c.isDigit = true) ∧
      ∀ f rest, step (.strict .year 4) {} ds = some (f, rest) → ∀ c ∈ rest, c.isDigit = true := by
  constructor
  · intro f rest h
    have htrim := @trimStartChars_digits ds [] hdigits hne
    rw [List.append_nil] at htrim
    rw [step, htrim] at h
    split at h
    · exact absurd (hdigits '-' List.mem_cons_self) (by decide)
    · exact absurd (hdigits '+' List.mem_cons_self) (by decide)
    · obtain ⟨_, htake, heq⟩ := Option.map_eq_some_iff.1 h
      cases heq
      exact isDigit_of_takeNumber hdigits htake
  · intro f rest h
    obtain ⟨_, htake, heq⟩ := Option.map_eq_some_iff.1 h
    cases heq
    exact isDigit_of_takeNumber hdigits htake

theorem isDigit_of_step_sign {sign : Char} (hsign : sign = '-' ∨ sign = '+')
    (hdigits : ∀ c ∈ ds, c.isDigit = true) :
    (∀ f rest, step .lenientYear {} (sign :: ds) = some (f, rest) → ∀ c ∈ rest, c.isDigit = true) ∧
      step (.strict .year 4) {} (sign :: ds) = none := by
  have hblank : Text.isBlank sign = false := by
    rcases hsign with rfl | rfl <;> decide +kernel
  refine ⟨fun f rest h => ?_, ?_⟩
  · rw [step, Text.trimStartChars_cons hblank] at h
    rcases hsign with rfl | rfl
    all_goals
      obtain ⟨_, htake, heq⟩ := Option.map_eq_some_iff.1 h
      cases heq
      exact isDigit_of_takeNumber hdigits htake
  · rcases hsign with rfl | rfl <;> rfl

/-- Text that begins with a letter has no year in front, in either style. -/
theorem step_year_of_letter {c : Char} (hplain : Text.isPlain c = true) (hdigit : c.isDigit = false)
    (hsign : c ≠ '-' ∧ c ≠ '+') :
    step .lenientYear {} (c :: rest) = none ∧ step (.strict .year 4) {} (c :: rest) = none := by
  have hnumber (least : Nat) (hleast : 0 < least) (most : Nat) :
      takeNumber least most (c :: rest) = none := by
    have hnone : ((c :: rest).take most).takeWhile Char.isDigit = [] := by
      cases most <;> simp [hdigit]
    simp [takeNumber, hnone, Nat.pos_iff_ne_zero.1 hleast]
  constructor
  · rw [step, Text.trimStartChars_cons (Text.isBlank_of_isPlain hplain)]
    split
    · next heq => exact absurd (List.cons.inj heq).1 hsign.1
    · next heq => exact absurd (List.cons.inj heq).1 hsign.2
    · rw [hnumber 1 (by decide)]
      rfl
  · rw [step, hnumber 4 (by decide)]
    rfl

end Pattern

namespace DateFormat

/-- Whether a text is none in the notation of the standard, in any of its forms. -/
structure IsForeign (cs : List Char) : Prop where
  date : readIsoDate? cs = none
  reading : readIsoDateTime? cs = none
  zoned : readZoned? cs = none

theorem isForeign_of_refuses (hdate : readIsoDate? cs = none)
    (hlenient : Refuses (Pattern.date ++ [mark 'T']) {} cs)
    (hstrict : Refuses Pattern.internet {} cs) (hlast : cs.getLast? ≠ some ']') : IsForeign cs := by
  have hseconds : read? Pattern.dateTime cs = none := (hlenient.append Pattern.time).read?_eq_none
  have hminutes : read? Pattern.dateTimeToMinute cs = none :=
    (hlenient.append Pattern.hourMinute).read?_eq_none
  have hzoned : read? Pattern.zonedToMinute cs = none :=
    (hlenient.append (Pattern.hourMinute ++ [Item.lenientOffset])).read?_eq_none
  refine ⟨hdate, ?_, ?_⟩
  · rw [readIsoDateTime?, hseconds, hminutes]
    rfl
  · rw [readZoned?, withoutRegion, if_neg hlast, hstrict.read?_eq_none, hzoned]
    rfl

/-- A text in which not even the year can be read is foreign. -/
theorem isForeign_of_no_year (hlenient : Refuses [.lenientYear, mark '-'] {} cs)
    (hstrict : Refuses [.strict .year 4, mark '-'] {} cs) (hlast : cs.getLast? ≠ some ']') :
    IsForeign cs := by
  have hdate : read? Pattern.date cs = none := (hlenient.append _).read?_eq_none
  refine isForeign_of_refuses ?_ (hlenient.append _) (hstrict.append _) hlast
  rw [readIsoDate?, hdate]
  rfl

theorem IsForeign.identify (h : IsForeign cs) :
    identify cs =
      match readEpoch? cs with
      | some n => if (intDigits n).length ≤ 10 then epochSeconds else epochMillis
      | none =>
        if hasShape sqlShape cs then sqlDateTime
        else if (MailDate.read? cs).isSome then rfc1123
        else unidentified := by
  rw [DateFormat.identify, h.date, h.reading, h.zoned]
  simp only [Option.isSome_none, Bool.and_false]
  rfl

/-! ## Epoch numbers -/

theorem readEpoch?_of_blank (h : ' ' ∈ cs) : readEpoch? cs = none := by
  rw [Option.eq_none_iff_forall_ne_some]
  intro n hn
  have hwrites : Number.Writes cs n := (Number.readInt64?_eq_some.1 hn).1
  exact absurd (hwrites.plain ' ' h) (by decide)

/-- A whole number is no date, whatever its sign, its size and its leading zeros. -/
theorem isForeign_of_writes (h : Number.Writes cs n) : IsForeign cs := by
  have hlast {ds : List Char} (hds : Number.isDigits ds = true) : ds.getLast? ≠ some ']' :=
    fun hlast => absurd (Number.isDigit_of_isDigits hds (List.mem_of_getLast? hlast)) (by decide)
  have hsigned {sign : Char} {ds : List Char} (hsign : sign = '-' ∨ sign = '+')
      (hds : Number.isDigits ds = true) : IsForeign (sign :: ds) := by
    obtain ⟨hlenient, hstrict⟩ :=
      isDigit_of_step_sign hsign fun _ hc => Number.isDigit_of_isDigits hds hc
    refine isForeign_of_no_year (refuses_mark_of_digits hlenient)
      ((Refuses.one hstrict).append [mark '-']) ?_
    obtain ⟨c, rest, rfl, -⟩ := Number.exists_cons_of_isDigits hds
    rw [List.getLast?_cons_cons]
    exact hlast hds
  cases h with
  | digits hds =>
    obtain ⟨c, rest, rfl, -⟩ := Number.exists_cons_of_isDigits hds
    obtain ⟨hlenient, hstrict⟩ :=
      isDigit_of_step_digits (fun _ hc => Number.isDigit_of_isDigits hds hc) (List.cons_ne_nil _ _)
    exact isForeign_of_no_year (refuses_mark_of_digits hlenient) (refuses_mark_of_digits hstrict)
      (hlast hds)
  | plus hds => exact hsigned (.inr rfl) hds
  | minus hds => exact hsigned (.inl rfl) hds

/-- A whole number is recognised by how many characters it has, the sign among them. -/
theorem identify_intDigits (h : Number.fitsInt64 n = true) :
    readEpoch? (intDigits n) = some n ∧
      identify (intDigits n) =
        if (intDigits n).length ≤ 10 then epochSeconds else epochMillis := by
  have hread : readEpoch? (intDigits n) = some n := Number.readInt64?_intDigits h
  refine ⟨hread, ?_⟩
  rw [(isForeign_of_writes (Number.writes_intDigits n)).identify, hread]

theorem length_intDigits_le_ten : (intDigits n).length ≤ 10 ↔ -10 ^ 9 < n ∧ n < 10 ^ 10 := by
  have hwidth (k width : Nat) (hwidth : 0 < width) :
      (natDigits k).length ≤ width ↔ k < 10 ^ width :=
    Nat.length_toDigits_le_iff (by decide) hwidth
  unfold intDigits
  split
  · have hnine := hwidth n.natAbs 9 (by decide)
    rw [List.length_cons]
    omega
  · rw [hwidth _ 10 (by decide)]
    omega

end DateFormat

theorem DateTime.inRange_atSecond (h : -10 ^ 9 < n ∧ n < 10 ^ 10) :
    (DateTime.atSecond n).date.inRange = true := by
  refine Date.inRange_of_bounds ?_
  change -1000000 ≤ n / 86400 ∧ n / 86400 ≤ 4000000
  omega

/-- At most ten characters are a count of seconds. -/
theorem says_seconds (h : (intDigits n).length ≤ 10) :
    Says (intDigits n) (.epoch (.atSecond n)) := by
  have hbounds := DateFormat.length_intDigits_le_ten.1 h
  obtain ⟨hread, hidentify⟩ :=
    DateFormat.identify_intDigits ((Number.fitsInt64_iff (i := n)).2 (by omega))
  have hrange := DateTime.inRange_atSecond hbounds
  rw [if_pos h] at hidentify
  rw [Says, hidentify, Stamp.ofFormat?, hread, Option.bind_some]
  refine ⟨by decide, ?_⟩
  exact if_pos hrange

/-- More characters are a count of milliseconds, if it leads to a date that can be read. -/
theorem ofFormat?_millis (h : Number.fitsInt64 n = true) (hlong : ¬ (intDigits n).length ≤ 10) :
    DateFormat.identify (intDigits n) = .epochMillis ∧
      Stamp.ofFormat? .epochMillis (intDigits n) =
        if (Instant.atMillisecond n).utc.date.inRange then some (.epoch (.atMillisecond n))
        else none := by
  obtain ⟨hread, hidentify⟩ := DateFormat.identify_intDigits h
  rw [if_neg hlong] at hidentify
  refine ⟨hidentify, ?_⟩
  rw [Stamp.ofFormat?, hread, Option.bind_some]
  rfl

theorem says_millis (hlow : 10 ^ 7 ≤ n) (hhigh : n < 10 ^ 10) :
    Says (intDigits (n * 1000)) (.epoch (.atSecond n)) := by
  have hlong : ¬ (intDigits (n * 1000)).length ≤ 10 := by
    rw [DateFormat.length_intDigits_le_ten]
    omega
  have hrange : (DateTime.atSecond n).date.inRange = true := DateTime.inRange_atSecond (by omega)
  obtain ⟨hidentify, hstamp⟩ :=
    ofFormat?_millis ((Number.fitsInt64_iff (i := n * 1000)).2 (by omega)) hlong
  rw [Instant.atMillisecond_mul, Instant.atSecond, if_pos hrange] at hstamp
  rw [Says, hidentify]
  exact ⟨by decide, hstamp⟩

/-! ## Database timestamps -/

namespace DateTime

/-- The characters of `YYYY-MM-DD HH:MM:SS.0`, for a reading of a whole second. -/
def sqlChars (dt : DateTime) : List Char := dt.chars ' ' ++ ".0".toList

theorem sqlChars_eq (dt : DateTime) :
    dt.sqlChars = dt.date.chars ++ ' ' :: (dt.time.chars ++ ['.', '0']) := by
  rw [sqlChars, chars, List.append_assoc, List.cons_append]
  rfl

end DateTime

namespace DateFormat

/-- A timestamp with a blank in the place of the `T` is foreign: it lacks an offset as well. -/
theorem isForeign_sqlChars (h : dt.IsPlain) (hnanos : dt.time.nanos.val = 0) :
    IsForeign dt.sqlChars := by
  have hlast : dt.sqlChars.getLast? ≠ some ']' := by
    have hzero : ".0".toList.getLast? = some '0' := rfl
    rw [DateTime.sqlChars, List.getLast?_append, hzero, Option.some_or]
    decide
  have hblank : step (.oneOf ['T', 't', ' ']) (Fields.withDay {} dt.date.calendar)
      (' ' :: (dt.time.chars ++ ['.', '0'])) =
        some (Fields.withDay {} dt.date.calendar, dt.time.chars ++ ['.', '0']) := by
    simp [step]
  rw [DateTime.sqlChars_eq] at hlast ⊢
  -- only the strict notation takes a blank, and behind the fraction it misses the offset
  refine isForeign_of_refuses ?_ ?_ ?_ hlast
  · rw [readIsoDate?, (takes_lenientDate h.year {} _).read?_eq_none]
    rfl
  · exact (takes_lenientDate h.year {} _).refuses (Refuses.one rfl)
  · exact (takes_date (readsNumber_strict _ 4) (readsNumber_strict _ 2) (readsNumber_strict _ 2)
        h.year).refuses <|
      (Takes.one hblank).refuses <|
      (takes_wholeTime (readsNumber_strict _ 2) (readsNumber_strict _ 2) (readsNumber_strict _ 2)
        hnanos rfl).refuses <|
      (Takes.one rfl).refuses <| Refuses.one rfl

theorem readSqlDateTime?_sqlChars (h : dt.IsPlain) (hnanos : dt.time.nanos.val = 0) :
    readSqlDateTime? dt.sqlChars = some dt := by
  have hfraction : step .fraction (Fields.ofReading dt) ['.', '0'] =
      some (Fields.ofReading dt, []) := by
    have hsame : { Fields.ofReading dt with nanos := 0 } = Fields.ofReading dt := by
      rw [← hnanos]
      rfl
    exact congrArg (fun f => some (f, [])) hsame
  have htakes : Takes Pattern.spacedDateTime {} dt.sqlChars (Fields.ofReading dt) [] := by
    rw [DateTime.sqlChars_eq]
    exact (takes_lenientDate h.year _ _).trans <| (Takes.one (step_mark ' ' _ _)).trans <|
      (takes_wholeTime (readsNumber_lenient _) (readsNumber_lenient _) (readsNumber_lenient _)
        hnanos rfl).trans <|
      Takes.one hfraction
  rw [readSqlDateTime?, htakes.read?_eq_some, Option.bind_some, Fields.dateTime?_ofReading h]

theorem isDecimalDigit_of_isDigit {c : Char} (h : c.isDigit = true) :
    Text.isDecimalDigit c = true := by
  simp [Text.isDecimalDigit, Text.decimalDigitSpans, Text.inSpans, Text.toNat_of_isDigit h]

theorem hasShape_digits {shape : List Char} (hdigits : ∀ c ∈ ds, c.isDigit = true) :
    hasShape (List.replicate ds.length 'd' ++ shape) (ds ++ cs) = hasShape shape cs := by
  induction ds with
  | nil => rfl
  | cons c ds ih =>
    obtain ⟨hc, hds⟩ := List.forall_mem_cons.1 hdigits
    rw [List.length_cons, List.replicate_succ, List.cons_append, List.cons_append, hasShape,
      isDecimalDigit_of_isDigit hc, Bool.true_and, ih hds]

theorem hasShape_padLeft {shape : List Char} {width k : Nat} (hwidth : 0 < width)
    (hk : k < Number.pow10 width) :
    hasShape (List.replicate width 'd' ++ shape) (Text.padLeft width '0' (natDigits k) ++ cs) =
      hasShape shape cs := by
  have hshape := @hasShape_digits cs (Text.padLeft width '0' (natDigits k)) shape
    fun c hc => Number.isDigit_of_mem_padLeft hc
  rw [Number.length_padLeft (Number.length_natDigits_le hwidth hk)] at hshape
  exact hshape

theorem hasShape_mark {shape : List Char} {c : Char} (h : c ≠ 'd') :
    hasShape (c :: shape) (c :: cs) = hasShape shape cs := by
  rw [hasShape]
  · simp
  · exact fun heq => h heq

theorem sqlShape_eq : sqlShape = List.replicate 4 'd' ++ '-' :: (List.replicate 2 'd' ++
    '-' :: (List.replicate 2 'd' ++ ' ' :: (List.replicate 2 'd' ++ ':' :: (List.replicate 2 'd' ++
      ':' :: (List.replicate 2 'd' ++ ['.', 'd']))))) := rfl

theorem hasShape_sqlChars (h : dt.IsPlain) (hnanos : dt.time.nanos.val = 0) :
    hasShape sqlShape dt.sqlChars = true := by
  obtain ⟨hmonth, hday⟩ := dt.date.calendar_bounds
  have hsecond := dt.time.second.isLt
  have hyear : dt.date.calendar.year.natAbs < Number.pow10 4 := by
    obtain ⟨hlow, hhigh⟩ := h.year
    change _ < 10000
    omega
  have hpair {shape cs : List Char} {k : Nat} (hk : k < 100) :
      hasShape (List.replicate 2 'd' ++ shape) (Date.twoDigits k ++ cs) = hasShape shape cs :=
    hasShape_padLeft (by decide) hk
  rw [sqlShape_eq, DateTime.sqlChars_eq, Date.chars, h.year.yearChars_eq, Time.chars_eq h.second,
    hnanos]
  simp only [List.append_assoc, List.cons_append]
  rw [hasShape_padLeft (by decide) hyear, hasShape_mark (by decide), hpair (by omega),
    hasShape_mark (by decide), hpair (by omega), hasShape_mark (by decide), hpair (by omega),
    hasShape_mark (by decide), hpair (by omega), hasShape_mark (by decide), hpair (by omega)]
  decide +kernel

end DateFormat

theorem says_sqlChars (h : dt.IsPlain) (hnanos : dt.time.nanos.val = 0) :
    Says dt.sqlChars (.wallClock dt) := by
  have hepoch : DateFormat.readEpoch? dt.sqlChars = none :=
    DateFormat.readEpoch?_of_blank (by simp [DateTime.sqlChars_eq])
  have hidentify : DateFormat.identify dt.sqlChars = .sqlDateTime := by
    rw [(DateFormat.isForeign_sqlChars h hnanos).identify, hepoch]
    exact if_pos (DateFormat.hasShape_sqlChars h hnanos)
  rw [Says, hidentify, Stamp.ofFormat?, DateFormat.readSqlDateTime?_sqlChars h hnanos]
  exact ⟨by decide, rfl⟩

/-! ## Headers -/

/-- The date of a header is foreign, and no timestamp. -/
theorem DateFormat.isForeign_header (padded : Bool) (dt : DateTime) :
    IsForeign (MailDate.chars padded dt) ∧
      hasShape sqlShape (MailDate.chars padded dt) = false := by
  obtain ⟨c, hc, hstart⟩ := (Option.any_eq_true _ _).1 <|
    MailDate.startsNoNumber_weekday ⟨_, MailDate.weekday_lt dt.date⟩
  simp only [MailDate.startsNoNumber, Bool.and_eq_true, Bool.not_eq_true', bne_iff_ne] at hstart
  obtain ⟨⟨⟨⟨hplain, hdecimal⟩, hdigit⟩, hminus⟩, hplus⟩ := hstart
  have hlast : (MailDate.chars padded dt).getLast? ≠ some ']' := by
    have hzone : " GMT".toList = [' ', 'G', 'M', 'T'] := rfl
    simp [MailDate.chars, hzone, List.getLast?_cons, List.getLast?_append]
  obtain ⟨name, hname⟩ := List.head?_eq_some_iff.1 hc
  obtain ⟨rest, hrest⟩ : ∃ rest, MailDate.chars padded dt = c :: rest := by
    rw [MailDate.chars, hname]
    exact ⟨_, rfl⟩
  rw [hrest] at hlast ⊢
  obtain ⟨hlenient, hstrict⟩ := @step_year_of_letter rest c hplain hdigit ⟨hminus, hplus⟩
  refine ⟨isForeign_of_no_year ?_ ?_ hlast, ?_⟩
  · exact (Refuses.one hlenient).append [mark '-']
  · exact (Refuses.one hstrict).append [mark '-']
  · rw [sqlShape_eq, List.replicate_succ, List.cons_append, hasShape, hdecimal, Bool.false_and]

theorem says_header (padded : Bool) (h : dt.IsPlain) (hnanos : dt.time.nanos.val = 0) :
    Says (MailDate.chars padded dt) (.zoned (Instant.withoutOffset ⟨dt⟩)) := by
  obtain ⟨hforeign, hshape⟩ := DateFormat.isForeign_header padded dt
  have hread := MailDate.read?_chars padded h hnanos
  have hepoch : DateFormat.readEpoch? (MailDate.chars padded dt) = none :=
    DateFormat.readEpoch?_of_blank (by simp [MailDate.chars])
  have hidentify : DateFormat.identify (MailDate.chars padded dt) = .rfc1123 := by
    rw [hforeign.identify, hepoch, hshape, hread]
    rfl
  rw [Says, hidentify, Stamp.ofFormat?, hread]
  exact ⟨by decide, rfl⟩

/-! ## Offsets and regions -/

theorem says_utc (h : dt.IsPlain) :
    Says (dt.chars 'T' ++ ['Z']) (.zoned (Instant.withoutOffset ⟨dt⟩)) := by
  have hplain := DateTime.IsPlain.withoutOffset (i := ⟨dt⟩) h
  have hclock : (Instant.withoutOffset ⟨dt⟩).wallClock = dt := DateTime.shift_zero dt
  have hchars : dt.chars 'T' ++ ['Z'] =
      (Instant.withoutOffset ⟨dt⟩).wallClock.chars 'T' ++ ['Z'] := by rw [hclock]
  refine says_zoned hplain.wallClock hchars isStrictOffset_utc.1 ?_
  refine DateFormat.readZoned?_of_withoutRegion hplain isStrictOffset_utc ?_
  rw [← hchars]
  exact DateFormat.withoutRegion_of_plain (dt.plain_chars.append (.cons (by decide) Text.plain_nil))

/-- The name of a region in brackets is cut off, whatever it is. -/
theorem DateFormat.withoutRegion_brackets (h : Text.Plain cs) (region : List Char) :
    withoutRegion (cs ++ '[' :: (region ++ [']'])) = cs := by
  have hlast : (cs ++ '[' :: (region ++ [']'])).getLast? = some ']' := by
    simp [List.getLast?_cons, List.getLast?_append]
  have hopen : ∀ c ∈ cs, decide (c ≠ '[') = true := by
    intro c hc
    refine decide_eq_true ?_
    rintro rfl
    exact absurd (h _ hc) (by decide)
  rw [withoutRegion, if_pos hlast, List.takeWhile_append_of_pos hopen]
  simp

theorem says_inRegion (h : o.IsPlain) (region : List Char) :
    Says (o.wallClock.chars 'T' ++ OffsetDateTime.offsetChars o.offset ++ '[' :: (region ++ [']']))
      (.zoned o) := by
  have hplain := (DateTime.plain_chars o.wallClock).append
    (OffsetDateTime.plain_offsetChars o.offset)
  have hstops : Stops (OffsetDateTime.offsetChars o.offset ++ '[' :: (region ++ [']'])) :=
    fun c hc => stops_offsetChars o.offset c hc
  refine says_zoned h.wallClock (List.append_assoc _ _ _) hstops ?_
  exact DateFormat.readZoned?_of_withoutRegion h (isStrictOffset_offsetChars h.offset)
    (DateFormat.withoutRegion_brackets hplain region)

/-! ## One instant -/

/-- The texts that write the instant `seconds` after the start of 1970. -/
inductive WritesSecond (seconds : Int) : List Char → Prop where
  /-- `YYYY-MM-DDTHH:MM:SSZ` -/
  | utc : WritesSecond seconds ((DateTime.atSecond seconds).chars 'T' ++ ['Z'])
  /-- `YYYY-MM-DDTHH:MM:SS±HH:MM` by the clock at that offset -/
  | atOffset {offset : Int} (h : IsPlainOffset offset) :
    WritesSecond seconds ((DateTime.atSecond (seconds + offset)).chars 'T' ++
      OffsetDateTime.offsetChars offset)
  /-- The same with the name of a region in brackets -/
  | inRegion {offset : Int} (h : IsPlainOffset offset) (region : List Char) :
    WritesSecond seconds ((DateTime.atSecond (seconds + offset)).chars 'T' ++
      OffsetDateTime.offsetChars offset ++ '[' :: (region ++ [']']))
  /-- `YYYY-MM-DDTHH:MM:SS` -/
  | unzoned : WritesSecond seconds ((DateTime.atSecond seconds).chars 'T')
  /-- `YYYY-MM-DD HH:MM:SS.0` -/
  | sql : WritesSecond seconds (DateTime.atSecond seconds).sqlChars
  /-- `Www, DD Mmm YYYY HH:MM:SS GMT`, the day in two digits or in as few as it has -/
  | header (padded : Bool) : WritesSecond seconds (MailDate.chars padded (.atSecond seconds))
  /-- The seconds themselves -/
  | epochSeconds : WritesSecond seconds (intDigits seconds)
  /-- The milliseconds -/
  | epochMillis : WritesSecond seconds (intDigits (seconds * 1000))

theorem DateTime.isPlain_atSecond {s : Int} (h : 0 ≤ s ∧ s ≤ 10 ^ 11) :
    (DateTime.atSecond s).IsPlain := by
  refine ⟨Date.hasPlainYear_of_bounds ?_, rfl⟩
  change 0 ≤ s / 86400 ∧ s / 86400 ≤ 2000000
  omega

/-- The reading of the clock at an offset, with the offset. -/
theorem OffsetDateTime.isPlain_atSecond {s offset : Int} (hoffset : IsPlainOffset offset)
    (h : 10 ^ 7 ≤ s ∧ s < 10 ^ 10) :
    (OffsetDateTime.mk (.atSecond s) offset).IsPlain ∧
      (OffsetDateTime.mk (.atSecond s) offset).wallClock = .atSecond (s + offset) := by
  have hday := hoffset.2
  have hclock : (OffsetDateTime.mk (.atSecond s) offset).wallClock = .atSecond (s + offset) := by
    rw [wallClock, Instant.atSecond, DateTime.atSecond, DateTime.shift, DateTime.seconds_ofSeconds]
    rfl
  refine ⟨⟨?_, hoffset⟩, hclock⟩
  rw [hclock]
  exact DateTime.isPlain_atSecond (by omega)

/-- Each of the texts says something that is the instant, for a zone that shows UTC. -/
theorem WritesSecond.says {zone : LocalZone} {s : Int} (hzone : zone.zone.IsUtc)
    (hs : 10 ^ 7 ≤ s ∧ s < 10 ^ 10) (h : WritesSecond s cs) :
    ∃ stamp, Says cs stamp ∧ stamp.toInstant? zone = some (.atSecond s) := by
  have hplain : (DateTime.atSecond s).IsPlain := DateTime.isPlain_atSecond (by omega)
  have hreading : zone.toUtc? (.atSecond s) = some (.atSecond s) := by
    refine hzone.toUtc? (Date.inRange_of_bounds ?_)
    have hyear := hplain.year.days_bounds
    omega
  cases h with
  | utc => exact ⟨_, says_utc hplain, rfl⟩
  | atOffset hoffset =>
    obtain ⟨ho, hclock⟩ := OffsetDateTime.isPlain_atSecond hoffset hs
    have hsays := says_offsetDateTime ho
    rw [OffsetDateTime.text, String.toList_ofList, hclock] at hsays
    exact ⟨_, hsays, rfl⟩
  | inRegion hoffset region =>
    obtain ⟨ho, hclock⟩ := OffsetDateTime.isPlain_atSecond hoffset hs
    have hsays := says_inRegion ho region
    rw [hclock] at hsays
    exact ⟨_, hsays, rfl⟩
  | unzoned => exact ⟨_, says_dateTime hplain, hreading⟩
  | sql => exact ⟨_, says_sqlChars hplain rfl, hreading⟩
  | header padded => exact ⟨_, says_header padded hplain rfl, rfl⟩
  | epochSeconds =>
    exact ⟨_, says_seconds (DateFormat.length_intDigits_le_ten.2 (by omega)), rfl⟩
  | epochMillis => exact ⟨_, says_millis hs.1 hs.2, rfl⟩

end RowFilter.Civil

namespace RowFilter.Cast

open Civil (LocalZone Instant WritesSecond)

/-- **All texts that write one instant are cast to it**, where the local zone is UTC. -/
theorem toLiteral_of_writesSecond {zone : LocalZone} {seconds : Int} {text : String}
    (hzone : zone.zone.IsUtc) (hlow : 10 ^ 7 ≤ seconds) (hhigh : seconds ≤ 9999999999)
    (h : WritesSecond seconds text.toList) :
    toLiteral zone .instant text = .ok (some (.instant (.atSecond seconds))) := by
  obtain ⟨stamp, hsays, hinstant⟩ := h.says hzone ⟨hlow, by omega⟩
  have hgives : Gives zone .instant text _ := gives_of_says hsays (by decide)
  rwa [Civil.Stamp.literal?, hinstant] at hgives

/-- The third hour after noon of a Monday, written for a header and by a clock in France. -/
theorem toLiteral_of_writesSecond_monday :
    LocalZone.named? "UTC" = some (.named .utc) ∧
      toLiteral (.named .utc) .instant "Mon, 15 Jan 2024 15:00:00 GMT" =
        .ok (some (.instant (.atSecond 1705330800))) ∧
      toLiteral (.named .utc) .instant "2024-01-15T16:00:00+01:00[Europe/Paris]" =
        .ok (some (.instant (.atSecond 1705330800))) := by
  have hheader : "Mon, 15 Jan 2024 15:00:00 GMT".toList =
      Civil.MailDate.chars true (.atSecond 1705330800) := by decide +kernel
  have hregion : "2024-01-15T16:00:00+01:00[Europe/Paris]".toList =
      (Civil.DateTime.atSecond (1705330800 + 3600)).chars 'T' ++
        Civil.OffsetDateTime.offsetChars 3600 ++ '[' :: ("Europe/Paris".toList ++ [']']) := by
    decide +kernel
  refine ⟨by decide +kernel, ?_, ?_⟩
  · refine toLiteral_of_writesSecond ⟨rfl, rfl⟩ (by decide) (by decide) ?_
    rw [hheader]
    exact .header true
  · refine toLiteral_of_writesSecond ⟨rfl, rfl⟩ (by decide) (by decide) ?_
    rw [hregion]
    exact .inRegion ⟨by decide, by decide⟩ _

end RowFilter.Cast
