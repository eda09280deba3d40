import RowFilter.Proofs.Civil.Notation

/-!
# Epoch numbers

A whole number is read as a count of seconds or of milliseconds since the start of 1970, by how many
characters it is written in. The sign is one of the characters: a number below zero is taken for
milliseconds from ten digits on, and any other from eleven on.
-/

namespace RowFilter.Civil

open Number (intDigits natDigits)

variable {n k : Int} {i : Instant}

/-! ## Distances -/

/-- Whether an instant lies a number of nanoseconds after the start of 1970, and in no leap second,
which has no distance of its own. -/
structure Instant.LiesAt (i : Instant) (nanoseconds : Int) : Prop where
  distance : i.utc.seconds * 10 ^ 9 + i.utc.time.nanos.val = nanoseconds
  second : i.utc.time.isLeap = false

theorem Instant.liesAt_atSecond (n : Int) : (atSecond n).LiesAt (n * 10 ^ 9) := by
  refine ⟨?_, rfl⟩
  rw [atSecond, DateTime.atSecond, DateTime.seconds_ofSeconds]
  exact Int.add_zero _

theorem Instant.liesAt_atMillisecond (n : Int) : (atMillisecond n).LiesAt (n * 10 ^ 6) := by
  refine ⟨?_, ?_⟩
  · rw [atMillisecond, DateTime.seconds_ofSeconds]
    change n / 1000 * 10 ^ 9 + (((n % 1000).toNat * 1000000 : Nat) : Int) = n * 10 ^ 6
    omega
  · change decide (1000000000 ≤ (n % 1000).toNat * 1000000) = false
    rw [decide_eq_false_iff_not]
    omega

/-- The milliseconds that lead to a date that can be read. -/
theorem Instant.inRange_atMillisecond : (atMillisecond n).utc.date.inRange = true ↔
    Date.first.days * 86400000 ≤ n ∧ n < (Date.last.days + 1) * 86400000 := by
  change (decide (-96465292 ≤ n / 1000 / 86400) && decide (n / 1000 / 86400 ≤ 95026236)) = true ↔
    -96465292 * 86400000 ≤ n ∧ n < (95026236 + 1) * 86400000
  simp only [Bool.and_eq_true, decide_eq_true_eq]
  omega

/-! ## Digits -/

/-- How many digits a whole number has, its sign left out. -/
def digitCount (n : Int) : Nat := (natDigits n.natAbs).length

theorem digitCount_le_ten : digitCount n ≤ 10 ↔ n.natAbs < 10 ^ 10 :=
  Nat.length_toDigits_le_iff (by decide) (by decide)

/-- Ten digits with a sign are eleven characters. -/
theorem length_intDigits (n : Int) :
    (intDigits n).length = digitCount n + if n < 0 then 1 else 0 := by
  unfold intDigits
  split <;> rfl

end RowFilter.Civil

namespace RowFilter.Cast

open Civil (DateFormat Date Instant digitCount)
open Number (intDigits intText)

variable {n k : Int} {text : String}

/-- Whether a text is cast to the instant a number of nanoseconds after the start of 1970, whatever
the local zone is. -/
def ReadsInstant (text : String) (nanoseconds : Int) : Prop :=
  ∀ zone, ∃ i : Instant, toLiteral zone .instant text = .ok (some (.instant i)) ∧
    i.LiesAt nanoseconds

theorem readsInstant_of_says {i : Instant} (h : Civil.Says text.toList (.epoch i))
    (hi : i.LiesAt k) : ReadsInstant text k := by
  intro zone
  exact ⟨i, gives_of_says h (by decide), hi⟩

/-- A text is not cast to two instants. -/
theorem ReadsInstant.unique {k' : Int} (h : ReadsInstant text k) (h' : ReadsInstant text k') :
    k = k' := by
  obtain ⟨i, hi, hdistance⟩ := h .utc
  obtain ⟨j, hj, hdistance'⟩ := h' .utc
  cases hi.symm.trans hj
  exact hdistance.distance.symm.trans hdistance'.distance

theorem readsInstant_seconds (h : (intDigits n).length ≤ 10) :
    ReadsInstant (intText n) (n * 10 ^ 9) := by
  refine readsInstant_of_says ?_ (Instant.liesAt_atSecond n)
  rw [Number.toList_intText]
  exact Civil.says_seconds h

/-- A long count is read as milliseconds or, where these lead to no date that can be read, not at
all. -/
theorem readsInstant_millis (hfits : Number.fitsInt64 n = true)
    (hlong : ¬ (intDigits n).length ≤ 10) :
    ((Instant.atMillisecond n).utc.date.inRange = true →
      ReadsInstant (intText n) (n * 10 ^ 6)) ∧
    ((Instant.atMillisecond n).utc.date.inRange = false →
      ∀ zone, toLiteral zone .instant (intText n) =
        .error (.invalidFormat (intText n) .instant)) := by
  obtain ⟨hidentify, hstamp⟩ := Civil.ofFormat?_millis hfits hlong
  constructor
  · intro hrange
    refine readsInstant_of_says ?_ (Instant.liesAt_atMillisecond n)
    rw [Number.toList_intText, Civil.Says, hidentify, hstamp, if_pos hrange]
    exact ⟨by decide, rfl⟩
  · intro hrange zone
    rw [toLiteral, toStamp, Number.toList_intText, hidentify]
    dsimp only
    rw [hstamp, hrange]
    rfl

/-- **Epoch numbers are read by their length.** A number of at most ten digits is taken for seconds,
and cast to the instant that many seconds after the start of 1970 in every zone, unless it is below
zero and has all ten: with its sign it is then taken for milliseconds. A longer number is taken for
milliseconds, and is cast to the instant that many milliseconds after the start of 1970 or, where
that instant has no date that can be read, to none. -/
theorem epoch_by_length (n : Int) :
    (digitCount n ≤ 10 →
      (DateFormat.identify (intDigits n) = .epochSeconds ∧ ReadsInstant (intText n) (n * 10 ^ 9) ↔
        ¬ (n < 0 ∧ digitCount n = 10)) ∧
      (n < 0 → digitCount n = 10 →
        DateFormat.identify (intDigits n) = .epochMillis ∧
          ReadsInstant (intText n) (n * 10 ^ 6))) ∧
    (10 < digitCount n → Number.fitsInt64 n = true →
      DateFormat.identify (intDigits n) = .epochMillis ∧
      (Date.first.days * 86400000 ≤ n ∧ n < (Date.last.days + 1) * 86400000 →
        ReadsInstant (intText n) (n * 10 ^ 6)) ∧
      (¬ (Date.first.days * 86400000 ≤ n ∧ n < (Date.last.days + 1) * 86400000) →
        ∀ zone, toLiteral zone .instant (intText n) =
          .error (.invalidFormat (intText n) .instant))) := by
  have hlength := Civil.length_intDigits n
  simp only [← Instant.inRange_atMillisecond, Bool.not_eq_true]
  constructor
  · intro hdigits
    have hsize := Civil.digitCount_le_ten.1 hdigits
    have hfits : Number.fitsInt64 n = true := Number.fitsInt64_iff.2 (by omega)
    have hmillis (hneg : n < 0) (hten : digitCount n = 10) :
        DateFormat.identify (intDigits n) = .epochMillis ∧
          ReadsInstant (intText n) (n * 10 ^ 6) := by
      have hlong : ¬ (intDigits n).length ≤ 10 := by
        rw [hlength, if_pos hneg, hten]
        decide
      have hrange : (Instant.atMillisecond n).utc.date.inRange = true := by
        refine Instant.inRange_atMillisecond.2 ?_
        change -96465292 * 86400000 ≤ n ∧ n < (95026236 + 1) * 86400000
        omega
      exact ⟨(Civil.ofFormat?_millis hfits hlong).1, (readsInstant_millis hfits hlong).1 hrange⟩
    refine ⟨⟨?_, fun hplain => ?_⟩, hmillis⟩
    · rintro ⟨hseconds, _⟩ ⟨hneg, hten⟩
      cases hseconds.symm.trans (hmillis hneg hten).1
    · have hshort : (intDigits n).length ≤ 10 := by
        rw [hlength]
        split <;> omega
      refine ⟨?_, readsInstant_seconds hshort⟩
      rw [(DateFormat.identify_intDigits hfits).2, if_pos hshort]
  · intro hdigits hfits
    have hlong : ¬ (intDigits n).length ≤ 10 := by
      rw [hlength]
      omega
    exact ⟨(Civil.ofFormat?_millis hfits hlong).1, readsInstant_millis hfits hlong⟩

/-- An afternoon of 2024, in seconds and in milliseconds. -/
theorem epoch_by_length_afternoon :
    DateFormat.identify "1705330800".toList = .epochSeconds ∧
      ReadsInstant "1705330800" (1705330800 * 10 ^ 9) ∧
      DateFormat.identify "1705330800000".toList = .epochMillis ∧
      ReadsInstant "1705330800000" (1705330800000 * 10 ^ 6) := by
  have hseconds := ((epoch_by_length 1705330800).1 (by decide)).1.2 (by decide)
  obtain ⟨hmillis, hreads, -⟩ := (epoch_by_length 1705330800000).2 (by decide) (by decide)
  exact ⟨hseconds.1, hseconds.2, hmillis, hreads (by decide)⟩

/-- Ten digits below zero are not the seconds that they would be above it. -/
theorem epoch_ten_digits_below_zero :
    digitCount (-1000000000) = 10 ∧ intText (-1000000000) = "-1000000000" ∧
      DateFormat.identify "-1000000000".toList = .epochMillis ∧
      ReadsInstant "-1000000000" (-1000000 * 10 ^ 9) ∧
      ¬ ReadsInstant "-1000000000" (-1000000000 * 10 ^ 9) := by
  have hlong : ¬ (intDigits (-1000000000)).length ≤ 10 := by decide
  have hmillis : ReadsInstant "-1000000000" (-1000000 * 10 ^ 9) :=
    (readsInstant_millis (n := -1000000000) (by decide) hlong).1 (by decide)
  refine ⟨by decide, by decide, ?_, hmillis, fun hseconds => ?_⟩
  · exact (Civil.ofFormat?_millis (n := -1000000000) (by decide) hlong).1
  · exact absurd (hseconds.unique hmillis) (by decide)

end RowFilter.Cast
