import RowFilter.Civil.Pattern
import RowFilter.Proofs.Civil.Calendar
import RowFilter.Proofs.Number.Digits

/-!
# Patterns and written dates

The items of a pattern take the pieces of a written date and time off the front of a text, in the
lenient style and in the strict one. A piece is read with whatever comes behind it, so the pieces
are put together as the text is.
-/

namespace RowFilter.Civil

open Number (natDigits ofDigits pow10)

variable {f f' f'' : Fields} {cs cs' cs'' ds rest : List Char} {items items' : List Item}
  {item : Item} {field : Field} {n width : Nat}

namespace Pattern

/-! ## Items in a row -/

/-- Whether some items take a text to a rest of it, whatever items come behind them. -/
def Takes (items : List Item) (f : Fields) (cs : List Char) (f' : Fields) (cs' : List Char) : Prop :=
  ∀ more, read?.go (items ++ more) f cs = read?.go more f' cs'

theorem Takes.one (h : step item f cs = some (f', cs')) : Takes [item] f cs f' cs' := by
  intro more
  rw [List.singleton_append, read?.go, h]

theorem Takes.trans (h : Takes items f cs f' cs') (h' : Takes items' f' cs' f'' cs'') :
    Takes (items ++ items') f cs f'' cs'' := by
  intro more
  rw [List.append_assoc, h, h']

/-- A text fits a pattern that takes all of it. -/
theorem Takes.read?_eq_some (h : Takes items {} cs f []) : read? items cs = some f := by
  have hgo := h []
  rw [List.append_nil] at hgo
  rw [read?, hgo]
  rfl

/-- A text does not fit a pattern that leaves a part of it. -/
theorem Takes.read?_eq_none {c : Char} (h : Takes items {} cs f (c :: rest)) :
    read? items cs = none := by
  have hgo := h []
  rw [List.append_nil] at hgo
  rw [read?, hgo]
  rfl

/-- Whether some items do not fit the front of a text, whatever items come behind them. -/
def Refuses (items : List Item) (f : Fields) (cs : List Char) : Prop :=
  ∀ more, read?.go (items ++ more) f cs = none

theorem Refuses.one (h : step item f cs = none) : Refuses [item] f cs := by
  intro more
  rw [List.singleton_append, read?.go, h]

theorem Refuses.append (h : Refuses items f cs) (items' : List Item) :
    Refuses (items ++ items') f cs := by
  intro more
  rw [List.append_assoc, h]

theorem Takes.refuses (h : Takes items f cs f' cs') (h' : Refuses items' f' cs') :
    Refuses (items ++ items') f cs := by
  intro more
  rw [List.append_assoc, h, h']

theorem Refuses.read?_eq_none (h : Refuses items {} cs) : read? items cs = none := by
  have hgo := h []
  rw [List.append_nil] at hgo
  exact hgo

/-! ## Numbers -/

theorem takeWhile_digits (hdigits : ∀ c ∈ ds, c.isDigit = true)
    (hrest : rest.takeWhile Char.isDigit = []) : (ds ++ rest).takeWhile Char.isDigit = ds := by
  rw [List.takeWhile_append_of_pos hdigits, hrest, List.append_nil]

/-- Digits are read as a number if no more of them are allowed, or none comes behind them. -/
theorem takeNumber_digits {least most : Nat} (hdigits : ∀ c ∈ ds, c.isDigit = true)
    (hleast : least ≤ ds.length) (hmost : ds.length ≤ most)
    (hrest : ds.length = most ∨ rest.takeWhile Char.isDigit = []) :
    takeNumber least most (ds ++ rest) = some (ofDigits ds, rest) := by
  have htake : (ds ++ rest).take most = ds ++ rest.take (most - ds.length) := by
    rw [List.take_append, List.take_of_length_le hmost]
  have hstop : (rest.take (most - ds.length)).takeWhile Char.isDigit = [] := by
    rcases hrest with hfull | hstop
    · rw [hfull, Nat.sub_self, List.take_zero]
      rfl
    · cases rest with
      | nil => rw [List.take_nil]; rfl
      | cons c rest =>
        cases most - ds.length with
        | zero => rfl
        | succ more =>
          have hc : c.isDigit = false := by
            by_contra hc
            simp [Bool.eq_true_of_not_eq_false hc] at hstop
          simp [hc]
  simp only [takeNumber, htake, takeWhile_digits hdigits hstop, if_pos hleast, List.drop_left]

theorem takeNumber_width (hdigits : ∀ c ∈ ds, c.isDigit = true) (hlength : ds.length = n)
    {least : Nat} (hleast : least ≤ n) :
    takeNumber least n (ds ++ rest) = some (ofDigits ds, rest) :=
  takeNumber_digits hdigits (hlength ▸ hleast) hlength.le (.inl hlength)

/-- Whether an item reads a number of a fixed width into a field. -/
def ReadsNumber (item : Item) (field : Field) (width : Nat) : Prop :=
  ∀ (f : Fields) (ds rest : List Char), (∀ c ∈ ds, c.isDigit = true) → ds.length = width →
    step item f (ds ++ rest) = some (field.set (ofDigits ds) f, rest)

theorem readsNumber_strict (field : Field) (width : Nat) :
    ReadsNumber (.strict field width) field width := by
  intro f ds rest hdigits hlength
  rw [step, takeNumber_width hdigits hlength (Nat.le_refl width)]
  rfl

/-- Digits are not trimmed. -/
theorem trimStartChars_digits (hdigits : ∀ c ∈ ds, c.isDigit = true) (hne : ds ≠ []) :
    Text.trimStartChars (ds ++ rest) = ds ++ rest := by
  obtain ⟨c, cs, rfl⟩ := List.exists_cons_of_ne_nil hne
  have hc := hdigits c List.mem_cons_self
  exact Text.trimStartChars_cons (Text.isBlank_of_isPlain (Text.isPlain_of_isDigit hc)) _

theorem readsNumber_lenient (field : Field) : ReadsNumber (.lenient field) field 2 := by
  intro f ds rest hdigits hlength
  have hne : ds ≠ [] := by
    rintro rfl
    cases hlength
  rw [step, trimStartChars_digits hdigits hne, takeNumber_width hdigits hlength (by decide)]
  rfl

theorem readsNumber_lenientYear : ReadsNumber .lenientYear .year 4 := by
  intro f ds rest hdigits hlength
  have hne : ds ≠ [] := by
    rintro rfl
    cases hlength
  have htake := @takeNumber_width ds rest 4 hdigits hlength 1 (by decide)
  obtain ⟨c, cs, rfl⟩ := List.exists_cons_of_ne_nil hne
  have hc := hdigits c List.mem_cons_self
  rw [step, trimStartChars_digits hdigits hne]
  split
  · next heq =>
    cases heq
    cases hc
  · next heq =>
    cases heq
    cases hc
  · rw [htake]
    rfl

/-- A number of a fixed width is read as the number. -/
theorem ReadsNumber.step_padLeft (h : ReadsNumber item field width) (hwidth : 0 < width)
    (hn : n < pow10 width) (f : Fields) (rest : List Char) :
    step item f (Text.padLeft width '0' (natDigits n) ++ rest) = some (field.set n f, rest) := by
  have hlength := Number.length_padLeft (Number.length_natDigits_le hwidth hn)
  rw [h f _ rest (fun c hc => Number.isDigit_of_mem_padLeft hc) hlength, Number.ofDigits_padLeft]

theorem ReadsNumber.step_twoDigits (h : ReadsNumber item field 2) (hn : n < 100) (f : Fields)
    (rest : List Char) : step item f (Date.twoDigits n ++ rest) = some (field.set n f, rest) :=
  h.step_padLeft (by decide) hn f rest

theorem step_mark (c : Char) (f : Fields) (rest : List Char) :
    step (mark c) f (c :: rest) = some (f, rest) := by
  simp [step, mark]

end Pattern

/-! ## Dates -/

/-- The fields with those of a calendar day. -/
def Fields.withDay (f : Fields) (c : CalendarDay) : Fields :=
  { f with year := c.year, month := c.month, day := c.day }

theorem Date.HasPlainYear.yearChars_eq {d : Date} (h : d.HasPlainYear) :
    Date.yearChars d.calendar.year = Text.padLeft 4 '0' (natDigits d.calendar.year.natAbs) := by
  rw [Date.yearChars, if_pos (And.intro h.1 h.2)]

namespace Pattern

/-- The date of a text, read by items of either style. -/
theorem takes_date {year month day : Item} {d : Date} (hyear : ReadsNumber year .year 4)
    (hmonth : ReadsNumber month .month 2) (hday : ReadsNumber day .day 2) (h : d.HasPlainYear) :
    Takes [year, mark '-', month, mark '-', day] f (d.chars ++ rest) (f.withDay d.calendar) rest := by
  obtain ⟨hmonths, hdays⟩ := d.calendar_bounds
  have hfour : d.calendar.year.natAbs < pow10 4 := by
    obtain ⟨hlow, hhigh⟩ := h
    change _ < 10000
    omega
  have hsign : ((d.calendar.year.natAbs : Nat) : Int) = d.calendar.year := by
    have hlow := h.1
    omega
  have hfields : Field.set .day d.calendar.day (Field.set .month d.calendar.month
      (Field.set .year d.calendar.year.natAbs f)) = f.withDay d.calendar := by
    simp only [Field.set, hsign, Fields.withDay]
  rw [← hfields, Date.chars, h.yearChars_eq]
  simp only [List.append_assoc, List.cons_append]
  exact (Takes.one (hyear.step_padLeft (by decide) hfour f _)).trans <|
    (Takes.one (step_mark '-' _ _)).trans <|
    (Takes.one (hmonth.step_twoDigits (by omega) _ _)).trans <|
    (Takes.one (step_mark '-' _ _)).trans <|
    Takes.one (hday.step_twoDigits (by omega) _ _)

end Pattern

theorem Fields.date?_withDay {d : Date} (h : d.HasPlainYear) (f : Fields) :
    (f.withDay d.calendar).date? = some d :=
  Date.ofCalendar?_calendar h

/-! ## Times -/

/-- The fields with those of the hands of a clock. -/
def Fields.withClock (f : Fields) (t : Time) : Fields :=
  { f with hour := t.second.val / 3600, minute := t.second.val / 60 % 60 }

/-- The fields with those of a time of day. -/
def Fields.withTime (f : Fields) (t : Time) : Fields :=
  { f.withClock t with second := t.second.val % 60, nanos := t.nanos.val }

theorem Time.nanos_lt {t : Time} (h : t.isLeap = false) : t.nanos.val < 1000000000 :=
  Nat.lt_of_not_le (of_decide_eq_false h)

theorem Time.chars_eq {t : Time} (h : t.isLeap = false) :
    t.chars = Date.twoDigits (t.second.val / 3600) ++ ':' ::
      (Date.twoDigits (t.second.val / 60 % 60) ++ ':' ::
        (Date.twoDigits (t.second.val % 60) ++ Time.fractionChars t.nanos.val)) := by
  simp [Time.chars, h]

theorem Fields.time?_withTime {t : Time} (h : t.isLeap = false) (f : Fields) :
    (f.withTime t).time? = some t := by
  have hnanos := Time.nanos_lt h
  have hsecond := t.second.isLt
  obtain ⟨⟨second, hlt⟩, ⟨nanos, hnanosLt⟩⟩ := t
  change second < 86400 at hsecond
  change nanos < 1000000000 at hnanos
  have hclock : second / 3600 < 24 ∧ second / 60 % 60 < 60 ∧ second % 60 ≤ 60 ∧
      nanos < 1000000000 := by omega
  have hminute : ¬ second % 60 = 60 := by omega
  have hwhole : (second / 3600 * 3600 + second / 60 % 60 * 60 + second % 60) % 86400 = second := by
    omega
  change Time.ofClock? (second / 3600) (second / 60 % 60) (second % 60) nanos = _
  simp only [Time.ofClock?, dif_pos hclock, if_neg hminute, hwhole]

namespace Pattern

/-- Whether neither a digit nor a fraction can go on behind. -/
def Stops (rest : List Char) : Prop := ∀ c ∈ rest.head?, c.isDigit = false ∧ c ≠ '.'

theorem stops_nil : Stops [] := nofun

theorem takeFraction_padLeft (hwidth : 0 < width) (hnine : width ≤ 9) (hn : n < pow10 width)
    (hrest : Stops rest) : takeFraction (Text.padLeft width '0' (natDigits n) ++ rest) =
      some (n * pow10 (9 - width), rest) := by
  have hlength := Number.length_padLeft (Number.length_natDigits_le hwidth hn)
  have hstop : rest.takeWhile Char.isDigit = [] := by
    cases rest with
    | nil => rfl
    | cons c rest => simp [(hrest c rfl).1]
  have hwhile := @takeWhile_digits (Text.padLeft width '0' (natDigits n)) rest
    (fun c hc => Number.isDigit_of_mem_padLeft hc) hstop
  have hne : (Text.padLeft width '0' (natDigits n)).isEmpty = false := by
    rw [List.isEmpty_eq_false_iff, ← List.length_pos_iff, hlength]
    exact hwidth
  have htake : (Text.padLeft width '0' (natDigits n)).take 9 = Text.padLeft width '0' (natDigits n) :=
    List.take_of_length_le (by omega)
  simp only [takeFraction, hwhile, htake, hne, hlength, Number.ofDigits_padLeft]
  rw [List.drop_left' hlength]
  rfl

theorem step_point (hwidth : 0 < width) (hnine : width ≤ 9) (hn : n < pow10 width)
    (hrest : Stops rest) (f : Fields) :
    step .fraction f (('.' :: Text.padLeft width '0' (natDigits n)) ++ rest) =
      some ({ f with nanos := n * pow10 (9 - width) }, rest) := by
  rw [List.cons_append, step, takeFraction_padLeft hwidth hnine hn hrest]
  rfl

/-- A fraction is read in full, or left out where there is none. -/
theorem step_fraction (hn : n < 1000000000) (hnanos : f.nanos = 0) (hrest : Stops rest) :
    step .fraction f (Time.fractionChars n ++ rest) = some ({ f with nanos := n }, rest) := by
  unfold Time.fractionChars
  split
  · next hzero =>
    have hsame : { f with nanos := n } = f := by
      rw [hzero, ← hnanos]
    rw [hsame, List.nil_append, step]
    intro more hpoint
    exact (hrest '.' (by simp [hpoint])).2 rfl
  · split
    · next hmillis =>
      have hwhole : n / 1000000 * pow10 (9 - 3) = n := Nat.div_mul_cancel (Nat.dvd_of_mod_eq_zero hmillis)
      have hbound : n / 1000000 < pow10 3 := Nat.div_lt_of_lt_mul hn
      rw [step_point (by decide) (by decide) hbound hrest, hwhole]
    · split
      · next hmicros =>
        have hwhole : n / 1000 * pow10 (9 - 6) = n :=
          Nat.div_mul_cancel (Nat.dvd_of_mod_eq_zero hmicros)
        have hbound : n / 1000 < pow10 6 := Nat.div_lt_of_lt_mul hn
        rw [step_point (by decide) (by decide) hbound hrest, hwhole]
      · have hwhole : n * pow10 (9 - 9) = n := Nat.mul_one n
        rw [step_point (by decide) (by decide) hn hrest, hwhole]

/-- The hours and minutes of a text, read by items of either style. -/
theorem takes_clock {hour minute : Item} {t : Time} (hhour : ReadsNumber hour .hour 2)
    (hminute : ReadsNumber minute .minute 2) (h : t.isLeap = false) :
    Takes [hour, mark ':', minute] f (t.chars ++ rest) (f.withClock t)
      (':' :: (Date.twoDigits (t.second.val % 60) ++ (Time.fractionChars t.nanos.val ++ rest))) := by
  have hsecond := t.second.isLt
  rw [Time.chars_eq h]
  simp only [List.append_assoc, List.cons_append]
  exact (Takes.one (hhour.step_twoDigits (by omega) f _)).trans <|
    (Takes.one (step_mark ':' _ _)).trans <|
    Takes.one (hminute.step_twoDigits (by omega) _ _)

/-- The time of a text, read by items of either style. -/
theorem takes_time {hour minute second : Item} {t : Time} (hhour : ReadsNumber hour .hour 2)
    (hminute : ReadsNumber minute .minute 2) (hsecond : ReadsNumber second .second 2)
    (h : t.isLeap = false) (hnanos : f.nanos = 0) (hrest : Stops rest) :
    Takes [hour, mark ':', minute, mark ':', second, .fraction] f (t.chars ++ rest)
      (f.withTime t) rest := by
  have hclock := t.second.isLt
  have hfraction := step_fraction (f := Field.set .second (t.second.val % 60) (f.withClock t))
    (Time.nanos_lt h) hnanos hrest
  exact (takes_clock hhour hminute h).trans <|
    (Takes.one (step_mark ':' _ _)).trans <|
    (Takes.one (hsecond.step_twoDigits (by omega) _ _)).trans <|
    Takes.one hfraction

/-- The time of a text without the fraction, whatever comes behind it. -/
theorem takes_wholeTime {hour minute second : Item} {t : Time} (hhour : ReadsNumber hour .hour 2)
    (hminute : ReadsNumber minute .minute 2) (hsecond : ReadsNumber second .second 2)
    (h : t.nanos.val = 0) (hnanos : f.nanos = 0) :
    Takes [hour, mark ':', minute, mark ':', second] f (t.chars ++ rest) (f.withTime t) rest := by
  have hclock := t.second.isLt
  have hleap : t.isLeap = false := by
    rw [Time.isLeap, h]
    rfl
  have hfields : Field.set .second (t.second.val % 60) (f.withClock t) = f.withTime t := by
    simp [Field.set, Fields.withTime, Fields.withClock, h, hnanos]
  have htail := hsecond.step_twoDigits (show t.second.val % 60 < 100 by omega) (f.withClock t) rest
  rw [hfields] at htail
  have hhands := @takes_clock f rest _ _ t hhour hminute hleap
  rw [h] at hhands
  exact hhands.trans <| (Takes.one (step_mark ':' _ _)).trans <| Takes.one htail

end Pattern

/-! ## Offsets -/

/-- Whether an offset is one of whole minutes and less than a day. -/
def IsPlainOffset (offset : Int) : Prop := offset % 60 = 0 ∧ offset.natAbs < 86400

namespace Pattern

theorem twoDigits_minutes : ∀ n : Fin 60,
    (match Date.twoDigits n.val with
      | [a, b] => a.isDigit && b.isDigit && a.toNat < '6'.toNat && ofDigits [a, b] = n.val
      | _ => false) = true := by decide

theorem takeMinutes_twoDigits (hn : n < 60) :
    takeMinutes (Date.twoDigits n ++ rest) = some (n, rest) := by
  have hminutes := twoDigits_minutes ⟨n, hn⟩
  split at hminutes
  · next a b heq =>
    simp only [Bool.and_eq_true, decide_eq_true_eq] at hminutes
    obtain ⟨⟨⟨ha, hb⟩, hsix⟩, hvalue⟩ := hminutes
    change Date.twoDigits n = [a, b] at heq
    change a.toNat < 54 at hsix
    simp [heq, takeMinutes, ha, hb, hsix, hvalue]
  · cases hminutes

theorem takeNumber_twoDigits (hn : n < 100) :
    takeNumber 2 2 (Date.twoDigits n ++ rest) = some (n, rest) := by
  have hlength := Number.length_padLeft (Number.length_natDigits_le (by decide : 0 < 2) hn)
  rw [Date.twoDigits, takeNumber_width (fun c hc => Number.isDigit_of_mem_padLeft hc) hlength
    (Nat.le_refl 2), Number.ofDigits_padLeft]

/-- The hours and minutes of an offset behind its sign. -/
theorem takeOffset_sign {minutes : Nat} {sign : Char} {negative : Bool} (hminutes : minutes < 6000)
    (hsign : ∀ cs, takeOffsetSign true (sign :: cs) = some (negative, cs)) :
    takeOffset true (takeChar ':') (sign :: (Date.twoDigits (minutes / 60) ++
        ':' :: Date.twoDigits (minutes % 60)) ++ rest) =
      some (Number.withSign negative (minutes * 60 : Nat), rest) := by
  have hrest : takeMinutes (Date.twoDigits (minutes % 60) ++ rest) = some (minutes % 60, rest) :=
    takeMinutes_twoDigits (Nat.mod_lt _ (by decide))
  have htotal : minutes / 60 * 3600 + minutes % 60 * 60 = minutes * 60 := by omega
  simp [takeOffset, hsign, takeNumber_twoDigits (show minutes / 60 < 100 by omega), takeChar,
    hrest, htotal]

theorem takeOffset_offsetChars {offset : Int} (h : IsPlainOffset offset) :
    takeOffset true (takeChar ':') (OffsetDateTime.offsetChars offset ++ rest) =
      some (offset, rest) := by
  obtain ⟨hwhole, hday⟩ := h
  obtain ⟨minutes, hminutes⟩ : ∃ minutes, offset.natAbs / 60 = minutes := ⟨_, rfl⟩
  have hbound : minutes < 6000 := by omega
  unfold OffsetDateTime.offsetChars
  simp only [hminutes]
  by_cases hnegative : offset < 0
  · have hvalue : Number.withSign true (minutes * 60 : Nat) = offset := by
      rw [Number.withSign, if_pos rfl]
      omega
    rw [if_pos hnegative, takeOffset_sign hbound (fun cs => rfl), hvalue]
  · have hvalue : Number.withSign false (minutes * 60 : Nat) = offset := by
      rw [Number.withSign, if_neg (by decide)]
      omega
    rw [if_neg hnegative, takeOffset_sign hbound (fun cs => rfl), hvalue]

/-- An offset of whole minutes is read as it is. -/
theorem step_strictOffset {offset : Int} (h : IsPlainOffset offset) (f : Fields)
    (rest : List Char) :
    step .strictOffset f (OffsetDateTime.offsetChars offset ++ rest) =
      some ({ f with offset := offset }, rest) := by
  have htake := @takeOffset_offsetChars rest offset h
  have hlimit : offset.natAbs ≤ strictOffsetLimit := by
    obtain ⟨hwhole, hday⟩ := h
    change offset.natAbs ≤ 86340
    omega
  have hsign : ∀ sign : Char, sign ≠ '-' → sign ≠ '+' → ∀ more,
      OffsetDateTime.offsetChars offset ++ rest ≠ sign :: more := by
    intro sign hminus hplus more heq
    have hhead : (if offset < 0 then '-' else '+') = sign := (List.cons.inj heq).1
    split at hhead
    · exact hminus hhead.symm
    · exact hplus hhead.symm
  rw [step, htake]
  · simp [hlimit]
  · exact hsign 'Z' (by decide) (by decide)
  · exact hsign 'z' (by decide) (by decide)

theorem stops_offsetChars (offset : Int) : Stops (OffsetDateTime.offsetChars offset) := by
  intro c hc
  have hhead : (if offset < 0 then '-' else '+') = c := Option.some.inj hc
  split at hhead <;> subst hhead <;> decide

end Pattern

end RowFilter.Civil
