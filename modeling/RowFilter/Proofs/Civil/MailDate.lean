import RowFilter.Civil.MailDate
import RowFilter.Proofs.Civil.Recognise

/-!
# Dates of headers read back

A reading in UTC is written for a header with the name of its weekday, and read back from there. The
names of days and months are told apart by their first three letters in lower case; the day may be
written with a zero in front or without.
-/

namespace RowFilter.Civil

open Number (natDigits ofDigits pow10)

variable {rest : List Char} {dt : DateTime}

namespace MailDate

/-- A name in a list of names, with a capital in front. -/
def titled (names : List String) (i : Nat) : List Char :=
  (names.getD i "").toList.modifyHead Char.toUpper

/-- A day of the month, in two digits or in as few as it has. -/
def dayChars (padded : Bool) (day : Nat) : List Char :=
  if padded then Date.twoDigits day else natDigits day

/-- The characters of `Www, DD Mmm YYYY HH:MM:SS GMT` with the fraction. -/
def chars (padded : Bool) (dt : DateTime) : List Char :=
  let c := dt.date.calendar
  titled weekdayNames dt.date.weekday ++ ',' :: ' ' :: (dayChars padded c.day ++
    ' ' :: (titled monthNames (c.month - 1) ++ ' ' :: (Date.yearChars c.year ++
      ' ' :: (dt.time.chars ++ " GMT".toList))))

example : chars false (.ofSeconds 1704207600 0) = "Tue, 2 Jan 2024 15:00:00 GMT".toList := by
  decide

/-! ## Names -/

/-- Whether a name is found by its first three letters, and these are all that is written of it. -/
def IsName (names : List String) (i : Nat) : Prop :=
  (titled names i).length = 3 ∧ (titled names i).all Text.isPlain = true ∧
    names.findIdx? (· == lowered (titled names i)) = some i

instance (names : List String) (i : Nat) : Decidable (IsName names i) := by
  unfold IsName
  infer_instance

theorem isName_weekday : ∀ i : Fin 7, IsName weekdayNames i := by decide

theorem isName_month : ∀ i : Fin 12, IsName monthNames i := by decide

/-- Whether no number begins with a character, in any script, nor a sign. -/
def startsNoNumber (c : Char) : Bool :=
  Text.isPlain c && !Text.isDecimalDigit c && !c.isDigit && c != '-' && c != '+'

theorem startsNoNumber_weekday : ∀ i : Fin 7,
    (titled weekdayNames i).head?.any startsNoNumber = true := by decide

variable {names : List String} {i : Nat}

theorem IsName.takeName (h : IsName names i) (rest : List Char) :
    takeName names (titled names i ++ rest) = some (i, rest) := by
  obtain ⟨hlength, -, hfound⟩ := h
  rw [MailDate.takeName, List.take_left' hlength, hfound, List.drop_left' hlength]
  rfl

theorem IsName.plain (h : IsName names i) : Text.Plain (titled names i) := Text.plain_of_all h.2.1

theorem IsName.ne_nil (h : IsName names i) : titled names i ≠ [] := by
  intro hnil
  rw [IsName, hnil] at h
  exact absurd h.1 (by decide)

/-! ## Blanks and numbers -/

theorem trimStartChars_blank (cs : List Char) :
    Text.trimStartChars (' ' :: cs) = Text.trimStartChars cs := by
  have hblank : Text.isBlank ' ' = true := by decide
  rw [Text.trimStartChars, Text.trimStartChars, List.dropWhile_cons_of_pos hblank]

theorem trimStartChars_plain {cs : List Char} (h : Text.Plain cs) (hne : cs ≠ [])
    (rest : List Char) : Text.trimStartChars (cs ++ rest) = cs ++ rest := by
  obtain ⟨c, cs, rfl⟩ := List.exists_cons_of_ne_nil hne
  exact Text.trimStartChars_cons (Text.isBlank_of_isPlain (h c List.mem_cons_self)) _

theorem takeBlanks_plain {cs : List Char} (h : Text.Plain cs) (hne : cs ≠ []) (rest : List Char) :
    takeBlanks (' ' :: (cs ++ rest)) = some (cs ++ rest) := by
  simp [takeBlanks, trimStartChars_blank, trimStartChars_plain h hne]

theorem digits_dayChars {padded : Bool} {day : Nat} (hday : day < 100) :
    (∀ c ∈ dayChars padded day, c.isDigit = true) ∧ ofDigits (dayChars padded day) = day ∧
      1 ≤ (dayChars padded day).length ∧ (dayChars padded day).length ≤ 2 := by
  have hwidth := Number.length_natDigits_le (by decide : 0 < 2) hday
  cases padded with
  | true =>
    have hlength := Number.length_padLeft hwidth
    refine ⟨fun c hc => Number.isDigit_of_mem_padLeft hc, Number.ofDigits_padLeft 2 day, ?_, ?_⟩
    · exact Nat.le_of_lt hlength.ge
    · exact hlength.le
  | false =>
    refine ⟨fun c hc => Number.isDigit_of_mem_natDigits hc, Number.ofDigits_natDigits day, ?_,
      hwidth⟩
    exact List.length_pos_iff.2 (Number.natDigits_ne_nil day)

theorem takeDay_chars {padded : Bool} {day : Nat} (hday : day < 100) (rest : List Char) :
    Pattern.takeNumber 1 2 (Text.trimStartChars (' ' :: (dayChars padded day ++ ' ' :: rest))) =
      some (day, ' ' :: rest) := by
  obtain ⟨hdigits, hvalue, hleast, hmost⟩ := @digits_dayChars padded day hday
  rw [trimStartChars_blank, Pattern.trimStartChars_digits hdigits (List.length_pos_iff.1 hleast),
    Pattern.takeNumber_digits hdigits hleast hmost (.inr rfl), hvalue]

theorem takeBlanks_year {d : Date} (h : d.HasPlainYear) (rest : List Char) :
    takeBlanks (' ' :: (Date.yearChars d.calendar.year ++ rest)) =
      some (Date.yearChars d.calendar.year ++ rest) := by
  rw [h.yearChars_eq]
  exact takeBlanks_plain (Number.plain_padLeft 4 _)
    (List.append_ne_nil_of_right_ne_nil _ (Number.natDigits_ne_nil _)) rest

theorem takeYear_chars {d : Date} (h : d.HasPlainYear) (rest : List Char) :
    takeYear (Date.yearChars d.calendar.year ++ ' ' :: rest) =
      some (d.calendar.year, ' ' :: rest) := by
  have hfour : d.calendar.year.natAbs < pow10 4 := by
    obtain ⟨hlow, hhigh⟩ := h
    change _ < 10000
    omega
  have hlength := Number.length_padLeft (Number.length_natDigits_le (by decide) hfour)
  have hsign : ((d.calendar.year.natAbs : Nat) : Int) = d.calendar.year := by
    have hlow := h.1
    omega
  rw [h.yearChars_eq, takeYear, Pattern.takeNumber_digits
    (fun c hc => Number.isDigit_of_mem_padLeft hc) (by omega) (by simp) (.inr rfl),
    Number.ofDigits_padLeft]
  simp [hlength, hsign]

/-- The clock of a whole second, read with its seconds. -/
theorem takeClock_chars {t : Time} (h : t.nanos.val = 0) (f : Fields) (rest : List Char) :
    takeClock f (t.chars ++ rest) =
      some ({ f with hour := t.second.val / 3600, minute := t.second.val / 60 % 60,
                     second := t.second.val % 60 }, rest) := by
  have hclock := t.second.isLt
  have hleap : t.isLeap = false := by
    rw [Time.isLeap, h]
    rfl
  have hcolon (cs : List Char) : Text.trimStartChars (':' :: cs) = ':' :: cs :=
    Text.trimStartChars_cons (by decide) cs
  have hdigits (n : Nat) (cs : List Char) :
      Text.trimStartChars (Date.twoDigits n ++ cs) = Date.twoDigits n ++ cs := by
    refine Pattern.trimStartChars_digits (fun c hc => Number.isDigit_of_mem_padLeft hc) ?_
    exact List.append_ne_nil_of_right_ne_nil _ (Number.natDigits_ne_nil n)
  have hhour : t.second.val / 3600 < 100 := by omega
  have hminute : t.second.val / 60 % 60 < 100 := by omega
  have hsecond : t.second.val % 60 < 100 := by omega
  rw [Time.chars_eq hleap, h]
  simp only [takeClock, List.append_assoc, List.cons_append, Option.bind_eq_bind, Option.bind_some,
    Pattern.takeNumber_twoDigits hhour, Pattern.takeNumber_twoDigits hminute,
    Pattern.takeNumber_twoDigits hsecond, hcolon, hdigits, Pattern.takeChar, if_true]
  rfl

theorem takeBlanks_time (t : Time) (rest : List Char) :
    takeBlanks (' ' :: (t.chars ++ rest)) = some (t.chars ++ rest) := by
  refine takeBlanks_plain t.plain_chars ?_ rest
  simp [Time.chars]

theorem takeBlanks_gmt : takeBlanks " GMT".toList = some "GMT".toList := by decide

theorem takeZone_gmt : takeZone "GMT".toList = some (0, []) := by decide

/-! ## Whole headers -/

theorem weekday_lt (d : Date) : d.weekday < 7 := by
  unfold Date.weekday
  omega

theorem takeWeekday_titled (h : IsName weekdayNames i) (rest : List Char) :
    takeWeekday (Text.trimStartChars (titled weekdayNames i ++ ',' :: rest)) =
      some (some i, rest) := by
  rw [trimStartChars_plain h.plain h.ne_nil, takeWeekday, h.takeName]
  rfl

/-- **The date of a header is read back** as the reading in UTC. -/
theorem read?_chars (padded : Bool) (h : dt.IsPlain) (hnanos : dt.time.nanos.val = 0) :
    read? (chars padded dt) = some (Instant.withoutOffset ⟨dt⟩) := by
  obtain ⟨hmonth, hday⟩ := dt.date.calendar_bounds
  have hweekdayName : IsName weekdayNames dt.date.weekday :=
    isName_weekday ⟨_, weekday_lt dt.date⟩
  have hmonthName : IsName monthNames (dt.date.calendar.month - 1) := isName_month ⟨_, by omega⟩
  have hfields : ({ year := dt.date.calendar.year, month := dt.date.calendar.month,
                    day := dt.date.calendar.day, hour := dt.time.second.val / 3600,
                    minute := dt.time.second.val / 60 % 60, second := dt.time.second.val % 60 }
        : Fields) = Fields.ofReading dt := by
    simp [Fields.ofReading, Fields.withDay, Fields.withTime, Fields.withClock, hnanos]
  have hdate : (Fields.ofReading dt).date? = some dt.date := Fields.date?_withDay h.year {}
  have hread : (Fields.ofReading dt).offsetDateTime? = some (Instant.withoutOffset ⟨dt⟩) := by
    have hplain := DateTime.IsPlain.withoutOffset (i := ⟨dt⟩) h
    have hclock : (Instant.withoutOffset ⟨dt⟩).wallClock = dt := DateTime.shift_zero dt
    have hoffset := Fields.offsetDateTime?_ofReading hplain
    rw [hclock] at hoffset
    exact hoffset
  -- the pieces are taken in the order in which they are written
  simp only [read?, chars, Option.bind_eq_bind, Option.bind_some, takeWeekday_titled hweekdayName,
    takeDay_chars (show dt.date.calendar.day < 100 by omega),
    takeBlanks_plain hmonthName.plain hmonthName.ne_nil, hmonthName.takeName,
    takeBlanks_year h.year, takeYear_chars h.year, takeBlanks_time, takeClock_chars hnanos,
    takeBlanks_gmt, takeZone_gmt, Nat.sub_add_cancel hmonth.1]
  rw [hfields, hdate, Option.bind_some]
  simp [onlyComments, hread]

end MailDate

end RowFilter.Civil
