import RowFilter.Proofs.Civil.DayByDay
import RowFilter.Proofs.Civil.Epoch
import RowFilter.Proofs.Text.Caseless

/-!
# Texts that are recognised and cannot be read

Most notations recognise a text by reading it. Two do not: a whole number is an epoch number
whatever date it leads to, and a database timestamp is recognised by its shape, whose digits may be
those of any script and need not name a day. In all other notations a recognised text is cast to
every temporal type, and in these two it is cast to all of them or to none. In any notation, a cast
overflows instead where the zone leads out of the calendar.
-/

namespace RowFilter

/-! ## Digits of any script -/

theorem Text.decimalDigits_not_blank : (decimalDigitSpans.all fun digits =>
    blankSpans.all fun blanks => Nat.blt blanks.2 digits.1 || Nat.blt digits.2 blanks.1) = true := by
  decide +kernel

theorem Text.isBlank_of_isDecimalDigit {c : Char} (h : isDecimalDigit c = true) :
    isBlank c = false := by
  rw [Bool.eq_false_iff]
  intro hblank
  obtain ⟨digits, hdigits, hfirst, hlast⟩ := exists_of_inSpans h
  obtain ⟨blanks, hblanks, hfirst', hlast'⟩ := exists_of_inSpans hblank
  have hapart := List.all_eq_true.1 decimalDigits_not_blank digits hdigits
  have hapart := List.all_eq_true.1 hapart blanks hblanks
  simp only [Bool.or_eq_true, Nat.blt_eq] at hapart
  omega

theorem Number.ofDigits_lt {ds : List Char} (h : ∀ c ∈ ds, c.isDigit = true) :
    ofDigits ds < 10 ^ ds.length := by
  have hlt : ∀ start, Nat.ofDigitChars 10 ds start < (start + 1) * 10 ^ ds.length := by
    induction ds with
    | nil => simp [Nat.ofDigitChars]
    | cons c ds ih =>
      intro start
      obtain ⟨hc, hds⟩ := List.forall_mem_cons.1 h
      have hdigit : c.toNat - '0'.toNat ≤ 9 :=
        Nat.sub_le_sub_right (Text.toNat_of_isDigit hc).2 48
      have hrest := ih hds (10 * start + (c.toNat - '0'.toNat))
      rw [Nat.ofDigitChars_cons, List.length_cons, Nat.pow_succ']
      refine Nat.lt_of_lt_of_le hrest ?_
      rw [← Nat.mul_assoc]
      exact Nat.mul_le_mul_right _ (by omega)
  have h := hlt 0
  rwa [Nat.zero_add, Nat.one_mul] at h

namespace Civil

open Number (ofDigits)
open Pattern

variable {f f' : Fields} {ds rest left cs : List Char} {item : Item} {items : List Item}
  {field : Field} {width : Nat} {m : Char}

/-- Whether a text is a number of so many digits, of a kind. -/
def IsNumber (isDigit : Char → Bool) (width : Nat) (ds : List Char) : Prop :=
  ds.length = width ∧ ∀ c ∈ ds, isDigit c = true

instance (isDigit : Char → Bool) (width : Nat) (ds : List Char) :
    Decidable (IsNumber isDigit width ds) :=
  decidable_of_iff (ds.length = width ∧ ds.all isDigit = true)
    (and_congr_right fun _ => List.all_eq_true)

/-! ## Numbers in other scripts -/

/-- Whether an item reads a number behind blanks. -/
def Item.IsLenient (item : Item) : Prop := item = .lenientYear ∨ ∃ field, item = .lenient field

namespace Pattern

/-- A number with a digit of another script is left from there on. -/
theorem exists_of_takeNumber {least most n : Nat} (hforeign : ∃ c ∈ ds, c.isDigit = false)
    (h : takeNumber least most (ds ++ rest) = some (n, left)) :
    ∃ c ∈ ds, ∃ more, left = c :: more := by
  obtain ⟨-, heq⟩ := Option.ite_none_right_eq_some.1 h
  cases heq
  obtain ⟨digits, hdigits⟩ : ∃ digits, ((ds ++ rest).take most).takeWhile Char.isDigit = digits :=
    ⟨_, rfl⟩
  have hshort : digits.length < ds.length := by
    by_contra hlong
    have hprefix : digits <+: ds ++ rest :=
      hdigits ▸ (List.takeWhile_prefix _).trans (List.take_prefix _ _)
    have hds : ds <+: digits :=
      List.prefix_of_prefix_length_le (List.prefix_append _ _) hprefix (Nat.le_of_not_lt hlong)
    obtain ⟨c, hc, hforeign⟩ := hforeign
    have hdigit : c.isDigit = true := by
      have hmem := hds.subset hc
      rw [← hdigits] at hmem
      exact List.all_eq_true.1 List.all_takeWhile c hmem
    rw [hdigit] at hforeign
    cases hforeign
  rw [hdigits, List.drop_append_of_le_length hshort.le, List.drop_eq_getElem_cons hshort]
  exact ⟨_, List.getElem_mem hshort, _, rfl⟩

theorem exists_of_step (hitem : item.IsLenient) (hds : ∀ c ∈ ds, Text.isDecimalDigit c = true)
    (hforeign : ∃ c ∈ ds, c.isDigit = false) (h : step item f (ds ++ rest) = some (f', left)) :
    ∃ c ∈ ds, ∃ more, left = c :: more := by
  obtain ⟨first, others, heq⟩ :=
    List.exists_cons_of_ne_nil (List.ne_nil_of_mem hforeign.choose_spec.1)
  have hfirst : Text.isDecimalDigit first = true := hds first (heq ▸ List.mem_cons_self)
  have htrim : Text.trimStartChars (ds ++ rest) = ds ++ rest := by
    rw [heq]
    exact Text.trimStartChars_cons (Text.isBlank_of_isDecimalDigit hfirst) _
  obtain rfl | ⟨field, rfl⟩ := hitem
  · rw [step, htrim] at h
    split at h
    · next hsign =>
      rw [heq] at hsign
      cases hsign
      exact absurd hfirst (by decide +kernel)
    · next hsign =>
      rw [heq] at hsign
      cases hsign
      exact absurd hfirst (by decide +kernel)
    · obtain ⟨⟨n, left⟩, htake, heq⟩ := Option.map_eq_some_iff.1 h
      cases heq
      exact exists_of_takeNumber hforeign htake
  · rw [step, htrim] at h
    obtain ⟨⟨n, left⟩, htake, heq⟩ := Option.map_eq_some_iff.1 h
    cases heq
    exact exists_of_takeNumber hforeign htake

/-- What reads a number in digits of any script, and the mark behind it, reads ASCII digits. -/
theorem isNumber_of_go (hitem : item.IsLenient) (hds : IsNumber Text.isDecimalDigit width ds)
    (hreads : ReadsNumber item field width) (hm : Text.isDecimalDigit m = false)
    (h : (read?.go (item :: mark m :: items) f (ds ++ m :: rest)).isSome = true) :
    IsNumber Char.isDigit width ds ∧
      (read?.go items (field.set (ofDigits ds) f) rest).isSome = true := by
  obtain hascii | hforeign := Text.isDigit_or_foreign ds
  · refine ⟨⟨hds.1, hascii⟩, ?_⟩
    simpa only [read?.go, hreads f ds _ hascii hds.1, step_mark] using h
  · rw [read?.go] at h
    split at h
    · cases h
    · next left hstep =>
      obtain ⟨c, hc, more, rfl⟩ := exists_of_step hitem hds.2 hforeign hstep
      have hne : c ≠ m := by
        rintro rfl
        rw [hds.2 c hc] at hm
        cases hm
      rw [read?.go] at h
      simp [step, mark, hne] at h

theorem step_fraction_digit (h : IsNumber Char.isDigit 1 ds) :
    step .fraction f ('.' :: ds) = some ({ f with nanos := ofDigits ds * 10 ^ 8 }, []) := by
  obtain ⟨d, rfl⟩ := List.length_eq_one_iff.1 h.1
  have hd : d.isDigit = true := h.2 d List.mem_cons_self
  simp [step, takeFraction, hd, Number.pow10]

/-- The same of the seconds and the fraction at the end. -/
theorem isNumber_of_go_fraction {seconds fraction : List Char}
    (hseconds : IsNumber Text.isDecimalDigit 2 seconds)
    (hfraction : IsNumber Text.isDecimalDigit 1 fraction)
    (h : (read?.go [.lenient .second, .fraction] f (seconds ++ '.' :: fraction)).isSome = true) :
    IsNumber Char.isDigit 2 seconds ∧ IsNumber Char.isDigit 1 fraction := by
  obtain hascii | hforeign := Text.isDigit_or_foreign seconds
  · refine ⟨⟨hseconds.1, hascii⟩, hfraction.1, ?_⟩
    obtain ⟨d, rfl⟩ := List.length_eq_one_iff.1 hfraction.1
    by_contra hforeign
    have hd : d.isDigit = false := by simpa using hforeign
    have hnone : ∀ f, step .fraction f ['.', d] = none := by
      intro f
      simp [step, takeFraction, hd]
    simp [read?.go, readsNumber_lenient _ f seconds _ hascii hseconds.1, hnone] at h
  · rw [read?.go] at h
    split at h
    · cases h
    · next left hstep =>
      obtain ⟨c, hc, more, rfl⟩ := exists_of_step (.inr ⟨_, rfl⟩) hseconds.2 hforeign hstep
      have hpoint : c ≠ '.' := by
        rintro rfl
        exact absurd (hseconds.2 '.' hc) (by decide +kernel)
      simp [read?.go, step, hpoint] at h

end Pattern

/-! ## Database timestamps -/

/-- The numbers of a text in the shape of a database timestamp, as they are written. -/
structure Timestamp where
  year : List Char
  month : List Char
  day : List Char
  hour : List Char
  minute : List Char
  second : List Char
  fraction : List Char

namespace Timestamp

variable {t : Timestamp}

/-- The text `YYYY-MM-DD HH:MM:SS.f`. -/
def chars (t : Timestamp) : List Char :=
  t.year ++ '-' :: (t.month ++ '-' :: (t.day ++ ' ' :: (t.hour ++ ':' :: (t.minute ++
    ':' :: (t.second ++ '.' :: t.fraction)))))

/-- Whether the numbers are as wide as the shape has them, with digits of a kind. -/
structure Fits (isDigit : Char → Bool) (t : Timestamp) : Prop where
  year : IsNumber isDigit 4 t.year
  month : IsNumber isDigit 2 t.month
  day : IsNumber isDigit 2 t.day
  hour : IsNumber isDigit 2 t.hour
  minute : IsNumber isDigit 2 t.minute
  second : IsNumber isDigit 2 t.second
  fraction : IsNumber isDigit 1 t.fraction

/-- The day that the numbers name. -/
def calendarDay (t : Timestamp) : CalendarDay := ⟨ofDigits t.year, ofDigits t.month, ofDigits t.day⟩

/-- Whether the numbers name a day of the calendar and a time on the clock, where a minute may end
with a leap second. -/
structure NamesReading (t : Timestamp) : Prop where
  day : t.calendarDay.isValid = true
  hour : ofDigits t.hour < 24
  minute : ofDigits t.minute < 60
  second : ofDigits t.second ≤ 60

/-- The fields that the numbers are read into. -/
def fields (t : Timestamp) : Fields :=
  { year := ofDigits t.year
    month := ofDigits t.month
    day := ofDigits t.day
    hour := ofDigits t.hour
    minute := ofDigits t.minute
    second := ofDigits t.second
    nanos := ofDigits t.fraction * 10 ^ 8 }

end Timestamp

/-- Whether a text writes a database timestamp. -/
def IsTimestamp (cs : List Char) : Prop :=
  ∃ t : Timestamp, t.Fits Char.isDigit ∧ t.NamesReading ∧ t.chars = cs

namespace DateFormat

variable {shape : List Char} {t : Timestamp}

theorem exists_of_hasShape_digits (h : hasShape (List.replicate width 'd' ++ shape) cs = true) :
    ∃ ds rest, cs = ds ++ rest ∧ IsNumber Text.isDecimalDigit width ds ∧
      hasShape shape rest = true := by
  induction width generalizing cs with
  | zero => exact ⟨[], cs, rfl, ⟨rfl, nofun⟩, h⟩
  | succ width ih =>
    cases cs with
    | nil => cases h
    | cons c cs =>
      rw [List.replicate_succ, List.cons_append, hasShape, Bool.and_eq_true] at h
      obtain ⟨ds, rest, rfl, ⟨hlength, hds⟩, hrest⟩ := ih h.2
      refine ⟨c :: ds, rest, rfl, ⟨?_, List.forall_mem_cons.2 ⟨h.1, hds⟩⟩, hrest⟩
      rw [List.length_cons, hlength]

theorem exists_of_hasShape_mark (hm : m ≠ 'd') (h : hasShape (m :: shape) cs = true) :
    ∃ rest, cs = m :: rest ∧ hasShape shape rest = true := by
  cases cs with
  | nil => simp [hasShape] at h
  | cons c cs =>
    rw [hasShape] at h
    · simp only [Bool.and_eq_true, decide_eq_true_eq] at h
      exact ⟨cs, by rw [h.1], h.2⟩
    · exact fun heq => hm heq

theorem exists_of_hasShape (h : hasShape sqlShape cs = true) :
    ∃ t : Timestamp, t.Fits Text.isDecimalDigit ∧ t.chars = cs := by
  rw [sqlShape_eq] at h
  obtain ⟨year, _, rfl, hyear, h⟩ := exists_of_hasShape_digits h
  obtain ⟨_, rfl, h⟩ := exists_of_hasShape_mark (by decide) h
  obtain ⟨month, _, rfl, hmonth, h⟩ := exists_of_hasShape_digits h
  obtain ⟨_, rfl, h⟩ := exists_of_hasShape_mark (by decide) h
  obtain ⟨day, _, rfl, hday, h⟩ := exists_of_hasShape_digits h
  obtain ⟨_, rfl, h⟩ := exists_of_hasShape_mark (by decide) h
  obtain ⟨hour, _, rfl, hhour, h⟩ := exists_of_hasShape_digits h
  obtain ⟨_, rfl, h⟩ := exists_of_hasShape_mark (by decide) h
  obtain ⟨minute, _, rfl, hminute, h⟩ := exists_of_hasShape_digits h
  obtain ⟨_, rfl, h⟩ := exists_of_hasShape_mark (by decide) h
  obtain ⟨second, _, rfl, hsecond, h⟩ := exists_of_hasShape_digits h
  obtain ⟨_, rfl, h⟩ := exists_of_hasShape_mark (by decide) h
  obtain ⟨fraction, rest, rfl, hfraction, h⟩ :=
    exists_of_hasShape_digits (show hasShape (List.replicate 1 'd' ++ []) _ = true from h)
  have hrest : rest = [] := by
    cases rest with
    | nil => rfl
    | cons c rest => cases h
  subst hrest
  refine ⟨⟨year, month, day, hour, minute, second, fraction⟩,
    ⟨hyear, hmonth, hday, hhour, hminute, hsecond, hfraction⟩, ?_⟩
  rw [List.append_nil]
  rfl

/-- A timestamp in ASCII digits is read number by number. -/
theorem read?_chars (h : t.Fits Char.isDigit) :
    read? Pattern.spacedDateTime t.chars = some t.fields := by
  have htakes : ∀ {item field width ds m rest} {f : Fields}, ReadsNumber item field width →
      IsNumber Char.isDigit width ds →
      Takes [item, mark m] f (ds ++ m :: rest) (field.set (ofDigits ds) f) rest :=
    fun hreads hds =>
      (Takes.one (hreads _ _ _ hds.2 hds.1)).trans (Takes.one (step_mark _ _ _))
  have htail : Takes [.lenient .second, .fraction]
      { t.fields with second := 0, nanos := 0 } (t.second ++ '.' :: t.fraction) t.fields [] := by
    refine (Takes.one (readsNumber_lenient .second _ _ _ h.second.2 h.second.1)).trans (Takes.one ?_)
    rw [step_fraction_digit h.fraction]
    rfl
  have htime : Takes Pattern.spacedDateTime {} t.chars t.fields [] :=
    (htakes readsNumber_lenientYear h.year).trans <|
    (htakes (readsNumber_lenient .month) h.month).trans <|
    (htakes (readsNumber_lenient .day) h.day).trans <|
    (htakes (readsNumber_lenient .hour) h.hour).trans <|
    (htakes (readsNumber_lenient .minute) h.minute).trans htail
  exact htime.read?_eq_some

/-- A timestamp that is read is in ASCII digits. -/
theorem fits_of_read? (h : t.Fits Text.isDecimalDigit)
    (hread : (read? Pattern.spacedDateTime t.chars).isSome = true) : t.Fits Char.isDigit := by
  have hlenient : ∀ field, (Item.lenient field).IsLenient := fun field => .inr ⟨field, rfl⟩
  have hhyphen : Text.isDecimalDigit '-' = false := by decide +kernel
  have hspace : Text.isDecimalDigit ' ' = false := by decide +kernel
  have hcolon : Text.isDecimalDigit ':' = false := by decide +kernel
  rw [read?] at hread
  obtain ⟨hyear, hread⟩ := isNumber_of_go (.inl rfl) h.year readsNumber_lenientYear hhyphen hread
  obtain ⟨hmonth, hread⟩ :=
    isNumber_of_go (hlenient _) h.month (readsNumber_lenient _) hhyphen hread
  obtain ⟨hday, hread⟩ := isNumber_of_go (hlenient _) h.day (readsNumber_lenient _) hspace hread
  obtain ⟨hhour, hread⟩ := isNumber_of_go (hlenient _) h.hour (readsNumber_lenient _) hcolon hread
  obtain ⟨hminute, hread⟩ :=
    isNumber_of_go (hlenient _) h.minute (readsNumber_lenient _) hcolon hread
  obtain ⟨hsecond, hfraction⟩ := isNumber_of_go_fraction h.second h.fraction hread
  exact ⟨hyear, hmonth, hday, hhour, hminute, hsecond, hfraction⟩

end DateFormat

/-- A day of a year of four digits is one that can be read. -/
theorem CalendarDay.inRange_toDate {c : CalendarDay} (h : c.isValid = true)
    (hyear : 0 ≤ c.year ∧ c.year ≤ 9999) : c.toDate.inRange = true := by
  obtain ⟨year, month, hlies⟩ := exists_lies h
  have hname := hlies.year_eq
  have hlow : daysBeforeYear (-1) ≤ daysBeforeYear year := by
    apply daysBeforeYear_mono
    split at hname <;> omega
  have hhigh : daysBeforeYear (year + 1) ≤ daysBeforeYear 10000 := by
    apply daysBeforeYear_mono
    split at hname <;> omega
  have hmonth : 0 ≤ daysBeforeMonth month := by
    have hbounds := hlies.month_bounds
    rw [daysBeforeMonth]
    omega
  have hcount := hlies.count
  have hend := hlies.year_end
  change -366 ≤ _ at hlow
  change _ ≤ 3652425 at hhigh
  apply Date.inRange_of_bounds
  omega

theorem Timestamp.isSome_dateTime? {t : Timestamp} (h : t.Fits Char.isDigit) :
    t.fields.dateTime?.isSome = true ↔ t.NamesReading := by
  have hyear : ofDigits t.year < 10 ^ 4 := h.year.1 ▸ Number.ofDigits_lt h.year.2
  have hfraction : ofDigits t.fraction < 10 ^ 1 := h.fraction.1 ▸ Number.ofDigits_lt h.fraction.2
  have hdate : t.fields.date?.isSome = true ↔ t.calendarDay.isValid = true := by
    change (Date.ofCalendar? t.calendarDay).isSome = true ↔ _
    unfold Date.ofCalendar?
    constructor
    · intro hsome
      split at hsome
      · next hvalid => exact (Bool.and_eq_true_iff.1 hvalid).1
      · cases hsome
    · intro hvalid
      have hrange : t.calendarDay.toDate.inRange = true := by
        refine CalendarDay.inRange_toDate hvalid ?_
        change (0 : Int) ≤ ofDigits t.year ∧ (ofDigits t.year : Int) ≤ 9999
        omega
      rw [hvalid, hrange]
      rfl
  have htime : t.fields.time?.isSome = true ↔
      ofDigits t.hour < 24 ∧ ofDigits t.minute < 60 ∧ ofDigits t.second ≤ 60 := by
    change (Time.ofClock? (ofDigits t.hour) (ofDigits t.minute) (ofDigits t.second)
      (ofDigits t.fraction * 10 ^ 8)).isSome = true ↔ _
    unfold Time.ofClock?
    split
    · next hclock =>
      refine iff_of_true ?_ ⟨hclock.1, hclock.2.1, hclock.2.2.1⟩
      split <;> rfl
    · next hclock =>
      refine iff_of_false nofun ?_
      omega
  have hboth : t.fields.dateTime?.isSome = true ↔
      t.fields.date?.isSome = true ∧ t.fields.time?.isSome = true := by
    unfold Fields.dateTime?
    cases t.fields.date? <;> cases t.fields.time? <;> simp
  rw [hboth, hdate, htime]
  constructor
  · rintro ⟨hday, hhour, hminute, hsecond⟩
    exact ⟨hday, hhour, hminute, hsecond⟩
  · rintro ⟨hday, hhour, hminute, hsecond⟩
    exact ⟨hday, hhour, hminute, hsecond⟩

/-- Of the texts in the shape of a database timestamp, those that write one can be read. -/
theorem DateFormat.isSome_readSqlDateTime? (h : hasShape sqlShape cs = true) :
    (readSqlDateTime? cs).isSome = true ↔ IsTimestamp cs := by
  constructor
  · intro hsome
    obtain ⟨t, ht, rfl⟩ := exists_of_hasShape h
    have hread : (read? Pattern.spacedDateTime t.chars).isSome = true := by
      rw [readSqlDateTime?] at hsome
      exact Option.isSome_of_isSome_bind hsome
    have hfits := fits_of_read? ht hread
    rw [readSqlDateTime?, read?_chars hfits, Option.bind_some] at hsome
    exact ⟨t, hfits, (Timestamp.isSome_dateTime? hfits).1 hsome, rfl⟩
  · rintro ⟨t, hfits, hnames, rfl⟩
    rw [readSqlDateTime?, read?_chars hfits, Option.bind_some]
    exact (Timestamp.isSome_dateTime? hfits).2 hnames

/-! ## What the notations read -/

namespace DateFormat

/-- What is known of a text that is recognised in a notation. -/
inductive Recognises (cs : List Char) : DateFormat → Prop where
  | isoDate (hread : (readIsoDate? cs).isSome = true) : Recognises cs .isoDate
  | isoDateTime (hread : (readIsoDateTime? cs).isSome = true) : Recognises cs .isoDateTime
  | isoDateTimeUtc (hread : (readZoned? cs).isSome = true) : Recognises cs .isoDateTimeUtc
  | isoDateTimeOffset (hread : (readZoned? cs).isSome = true) : Recognises cs .isoDateTimeOffset
  | epochSeconds {n : Int} (hread : readEpoch? cs = some n)
      (hshort : (Number.intDigits n).length ≤ 10) : Recognises cs .epochSeconds
  | epochMillis {n : Int} (hread : readEpoch? cs = some n)
      (hlong : ¬ (Number.intDigits n).length ≤ 10) : Recognises cs .epochMillis
  | sqlDateTime (hshape : hasShape sqlShape cs = true) : Recognises cs .sqlDateTime
  | rfc1123 (hread : (MailDate.read? cs).isSome = true) : Recognises cs .rfc1123
  | unidentified : Recognises cs .unidentified

theorem recognises_identify (cs : List Char) : Recognises cs (identify cs) := by
  unfold identify
  split
  · next hread => exact .isoDate hread
  split
  · next hread => exact .isoDateTime hread
  split
  · next hread => exact .isoDateTimeUtc (Bool.and_eq_true_iff.1 hread).2
  split
  · next hread => exact .isoDateTimeOffset hread
  split
  · next hread =>
    split
    · next hshort => exact .epochSeconds hread hshort
    · next hlong => exact .epochMillis hread hlong
  split
  · next hshape => exact .sqlDateTime hshape
  split
  · next hread => exact .rfc1123 hread
  · exact .unidentified

/-- The notations that recognise a text without reading a date, and what no notation recognises. -/
def recognisedUnread : List DateFormat := [.epochMillis, .sqlDateTime, .unidentified]

/-- A text that is recognised in any other notation can be read in it. -/
theorem Recognises.isSome_ofFormat? {format : DateFormat} (h : Recognises cs format)
    (hformat : format ∉ recognisedUnread) : (Stamp.ofFormat? format cs).isSome = true := by
  cases h with
  | isoDate hread | isoDateTime hread | isoDateTimeUtc hread | isoDateTimeOffset hread
  | rfc1123 hread => rwa [Stamp.ofFormat?, Option.isSome_map]
  | epochSeconds hread hshort =>
    have hrange := DateTime.inRange_atSecond (length_intDigits_le_ten.1 hshort)
    rw [Stamp.ofFormat?, hread, Option.bind_some]
    exact Option.isSome_iff_exists.2 ⟨_, if_pos hrange⟩
  | epochMillis | sqlDateTime | unidentified => exact absurd (by decide) hformat

end DateFormat

end Civil

namespace Cast

open Civil (LocalZone Stamp DateFormat Says IsTimestamp Date Instant)

variable {zone : LocalZone} {text : String} {stamp : Stamp} {format : DateFormat}

/-- Whether a text is cast to a value of each of the temporal types, unless it overflows on the way
to that type. -/
def IsRead (zone : LocalZone) (text : String) : Prop :=
  ∀ type ∈ temporalTypes,
    (Overflows zone text type → toLiteral zone type text = .error (.numericOverflow text type)) ∧
    (¬ Overflows zone text type → ∃ l, toLiteral zone type text = .ok (some l))

/-- Whether casting a text to each of these types fails, for this cause. -/
def IsRefused (zone : LocalZone) (text : String) (error : ScalarType → CastError) : Prop :=
  ∀ type ∈ temporalTypes, toLiteral zone type text = .error (error type)

theorem isRead_of_says (h : Says text.toList stamp) : IsRead zone text := by
  intro type htype
  have hgives : Gives zone type text (stamp.literal? zone type) := gives_of_says h htype
  rw [← literal?_eq_none_iff h htype]
  constructor
  · intro hnone
    rwa [hnone] at hgives
  · intro hsome
    obtain ⟨l, hl⟩ := Option.ne_none_iff_exists'.1 hsome
    rw [hl] at hgives
    exact ⟨l, hgives⟩

theorem isRefused_of_toStamp {error : ScalarType → CastError}
    (h : ∀ type, toStamp type text = .error (error type)) : IsRefused zone text error := by
  intro type htype
  simp only [temporalTypes, List.mem_cons, List.not_mem_nil, or_false] at htype
  rcases htype with rfl | rfl | rfl | rfl <;>
    · rw [toLiteral, h]
      rfl

theorem isRefused_of_unidentified (h : DateFormat.identify text.toList = .unidentified) :
    IsRefused zone text fun _ => .unidentifiedDate text := by
  refine isRefused_of_toStamp fun type => ?_
  rw [toStamp, h]

/-- Where a text is recognised, casting it comes down to reading it in its notation. -/
theorem outcome_of_identify (zone : LocalZone) (hformat : DateFormat.identify text.toList = format)
    (h : format ≠ .unidentified) :
    ((Stamp.ofFormat? format text.toList).isSome = true → IsRead zone text) ∧
      (¬ (Stamp.ofFormat? format text.toList).isSome = true →
        IsRefused zone text (.invalidFormat text)) := by
  subst hformat
  constructor
  · intro hsome
    obtain ⟨stamp, hstamp⟩ := Option.isSome_iff_exists.1 hsome
    exact isRead_of_says ⟨h, hstamp⟩
  · intro hnone
    refine isRefused_of_toStamp fun type => ?_
    rw [toStamp]
    split
    · next heq => exact absurd heq h
    · rw [Option.not_isSome_iff_eq_none.1 hnone]
      rfl

/-- **Which date texts are read.** A text that is recognised is cast to all temporal types, unless it
is a long epoch number or has the shape of a database timestamp. Such an epoch number is cast to all
of them or to none, by whether it leads to a date that can be read, and a text of the shape of a
timestamp by whether it writes one. A text that is not recognised is reported as such, and every
other failure as an invalid format. Only a text of the first or the last day of the calendar may be
led out of it by the zone, and then overflows. -/
theorem temporal_outcome (zone : LocalZone) (text : String) :
    (DateFormat.identify text.toList = .unidentified →
      IsRefused zone text fun _ => .unidentifiedDate text) ∧
    (DateFormat.identify text.toList = .epochMillis →
      ∃ n, DateFormat.readEpoch? text.toList = some n ∧
        (Date.first.days * 86400000 ≤ n ∧ n < (Date.last.days + 1) * 86400000 →
          IsRead zone text) ∧
        (¬ (Date.first.days * 86400000 ≤ n ∧ n < (Date.last.days + 1) * 86400000) →
          IsRefused zone text (.invalidFormat text))) ∧
    (DateFormat.identify text.toList = .sqlDateTime →
      (IsTimestamp text.toList → IsRead zone text) ∧
        (¬ IsTimestamp text.toList → IsRefused zone text (.invalidFormat text))) ∧
    (DateFormat.identify text.toList ∉ DateFormat.recognisedUnread → IsRead zone text) ∧
    ∀ type, Overflows zone text type →
      ∃ o, toLiteral zone .offsetDateTime text = .ok (some (.offsetDateTime o)) ∧
        ¬ o.instant.utc.date.IsInner := by
  have hrecognised := DateFormat.recognises_identify text.toList
  refine ⟨isRefused_of_unidentified, ?_, ?_, ?_, fun _ => Overflows.not_isInner⟩
  · intro h
    have houtcome := outcome_of_identify zone h (by decide)
    rw [h] at hrecognised
    cases hrecognised with
    | @epochMillis n hread hlong =>
      have hsome : (Stamp.ofFormat? .epochMillis text.toList).isSome = true ↔
          (Instant.atMillisecond n).utc.date.inRange = true := by
        rw [Stamp.ofFormat?, hread, Option.bind_some]
        change (if (Instant.atMillisecond n).utc.date.inRange then
          some (Stamp.epoch (.atMillisecond n)) else none).isSome = true ↔ _
        split <;> simp [*]
      rw [hsome, Instant.inRange_atMillisecond] at houtcome
      exact ⟨n, hread, houtcome⟩
  · intro h
    have houtcome := outcome_of_identify zone h (by decide)
    rw [h] at hrecognised
    cases hrecognised with
    | sqlDateTime hshape =>
      rwa [Stamp.ofFormat?, Option.isSome_map, DateFormat.isSome_readSqlDateTime? hshape]
        at houtcome
  · intro h
    have hidentified : DateFormat.identify text.toList ≠ .unidentified := by
      intro hunidentified
      exact h (hunidentified ▸ by decide)
    exact (outcome_of_identify zone rfl hidentified).1 (hrecognised.isSome_ofFormat? h)

/-- A leap second ends the last minute of a year, in the notation of a database. Of two long epoch
numbers, the one that counts nanoseconds leads out of all years. -/
theorem temporal_outcome_new_year :
    IsRead .utc "2016-12-31 23:59:60.9" ∧ IsRead .utc "1483228799999" ∧
      IsRefused .utc "1483228799999000000" (.invalidFormat "1483228799999000000") ∧
      IsRead .utc "2016-12-31" ∧
      IsRefused .utc "New Year" fun _ => .unidentifiedDate "New Year" := by
  refine ⟨?timestamp, ?millis, ?nanos, ?iso, ?words⟩
  case timestamp =>
    obtain ⟨-, -, htimestamp, -, -⟩ := temporal_outcome .utc "2016-12-31 23:59:60.9"
    refine (htimestamp (by decide +kernel)).1 ⟨⟨"2016".toList, "12".toList, "31".toList,
      "23".toList, "59".toList, "60".toList, "9".toList⟩, ?_, ?_, rfl⟩
    · constructor <;> decide
    · constructor <;> decide
  case millis =>
    obtain ⟨-, hepoch, -, -, -⟩ := temporal_outcome .utc "1483228799999"
    obtain ⟨n, hn, hread, -⟩ := hepoch (by decide +kernel)
    have hcount : DateFormat.readEpoch? "1483228799999".toList = some 1483228799999 := by
      decide +kernel
    cases hcount.symm.trans hn
    exact hread (by decide +kernel)
  case nanos =>
    obtain ⟨-, hepoch, -, -, -⟩ := temporal_outcome .utc "1483228799999000000"
    obtain ⟨n, hn, -, hrefused⟩ := hepoch (by decide +kernel)
    have hcount : DateFormat.readEpoch? "1483228799999000000".toList =
        some 1483228799999000000 := by
      decide +kernel
    cases hcount.symm.trans hn
    exact hrefused (by decide +kernel)
  case iso =>
    obtain ⟨-, -, -, hother, -⟩ := temporal_outcome .utc "2016-12-31"
    exact hother (by decide +kernel)
  case words =>
    obtain ⟨hwords, -, -, -, -⟩ := temporal_outcome .utc "New Year"
    exact hwords (by decide +kernel)

/-- A month that no year has is recognised, and cannot be read. -/
theorem temporal_outcome_month_thirteen :
    DateFormat.identify "2024-13-01 00:00:00.0".toList = .sqlDateTime ∧
      IsRefused .utc "2024-13-01 00:00:00.0" (.invalidFormat "2024-13-01 00:00:00.0") := by
  have hidentify : DateFormat.identify "2024-13-01 00:00:00.0".toList = .sqlDateTime := by
    decide +kernel
  have hread : DateFormat.readSqlDateTime? "2024-13-01 00:00:00.0".toList = none := by
    decide +kernel
  refine ⟨hidentify, isRefused_of_toStamp fun type => ?_⟩
  rw [toStamp, hidentify]
  dsimp only
  rw [Stamp.ofFormat?, hread]
  rfl

end Cast

end RowFilter
