import Mathlib.Data.Nat.Digits.Defs
import RowFilter.Number.Power
import RowFilter.Proofs.Text.Plain
import RowFilter.Number.Digits

/-!
# Numbers read back from their digits

What is written of a whole number is read back as the number, alone or with zeros in front of it.
-/

namespace RowFilter.Number

variable {n : Nat} {i : Int} {c : Char} {cs : List Char}

theorem natDigits_ne_nil (n : Nat) : natDigits n ≠ [] := Nat.toDigits_ne_nil

theorem isDigits_natDigits (n : Nat) : isDigits (natDigits n) = true := by
  have hdigits : (natDigits n).all Char.isDigit = true :=
    List.all_eq_true.2 fun c hc => isDigit_of_mem_natDigits hc
  simp [isDigits, hdigits, natDigits_ne_nil]

/-! ## Signs -/

theorem withSign_natAbs (i : Int) : withSign (i < 0) i.natAbs = i := by
  unfold withSign
  split
  · next h =>
    have hi : i < 0 := of_decide_eq_true h
    omega
  · next h =>
    have hi : ¬ i < 0 := fun hi => h (decide_eq_true hi)
    omega

/-- Text that begins with a digit has no sign. -/
theorem takeSign_cons (h : c.isDigit = true) : takeSign (c :: cs) = (false, c :: cs) := by
  unfold takeSign
  split
  · next heq =>
    cases heq
    cases h
  · next heq =>
    cases heq
    cases h
  · rfl

/-! ## Integers -/

/-- Whether a text is a run of digits after at most one sign, and the integer it stands for. -/
inductive Writes : List Char → Int → Prop where
  | digits {ds : List Char} (h : isDigits ds = true) : Writes ds (ofDigits ds)
  | plus {ds : List Char} (h : isDigits ds = true) : Writes ('+' :: ds) (ofDigits ds)
  | minus {ds : List Char} (h : isDigits ds = true) : Writes ('-' :: ds) (-(ofDigits ds : Int))

section

variable {k : Nat} {ds : List Char}

theorem readDigits?_eq_some : readDigits? ds = some k ↔ isDigits ds = true ∧ ofDigits ds = k := by
  simp [readDigits?]

theorem isDigit_of_isDigits (h : isDigits ds = true) (hc : c ∈ ds) : c.isDigit = true := by
  obtain ⟨-, hall⟩ := Bool.and_eq_true_iff.1 h
  exact List.all_eq_true.1 hall c hc

theorem exists_cons_of_isDigits (h : isDigits ds = true) :
    ∃ c rest, ds = c :: rest ∧ c.isDigit = true := by
  cases ds with
  | nil => cases h
  | cons c rest => exact ⟨c, rest, rfl, isDigit_of_isDigits h List.mem_cons_self⟩

theorem takeSign_of_isDigits (h : isDigits ds = true) : takeSign ds = (false, ds) := by
  obtain ⟨c, rest, rfl, hc⟩ := exists_cons_of_isDigits h
  exact takeSign_cons hc

end

theorem writes_of_takeSign (h : isDigits (takeSign cs).2 = true) :
    Writes cs (withSign (takeSign cs).1 (ofDigits (takeSign cs).2)) := by
  revert h
  unfold takeSign
  split
  · exact .minus
  · exact .plus
  · exact .digits

theorem Writes.takeSign (h : Writes cs i) :
    ∃ negative ds, takeSign cs = (negative, ds) ∧ isDigits ds = true ∧
      withSign negative (ofDigits ds) = i := by
  cases h with
  | digits h => exact ⟨false, _, takeSign_of_isDigits h, h, rfl⟩
  | plus h => exact ⟨false, _, rfl, h, rfl⟩
  | minus h => exact ⟨true, _, rfl, h, rfl⟩

theorem Writes.plain (h : Writes cs i) : Text.Plain cs := by
  have hplain {ds : List Char} (hds : isDigits ds = true) : Text.Plain ds :=
    Text.plain_of_digits fun _ hc => isDigit_of_isDigits hds hc
  cases h with
  | digits h => exact hplain h
  | plus h => exact .cons (by decide) (hplain h)
  | minus h => exact .cons (by decide) (hplain h)

theorem writes_intDigits (i : Int) : Writes (intDigits i) i := by
  have hdigits : isDigits (natDigits i.natAbs) = true := isDigits_natDigits _
  by_cases hi : i < 0
  · have hvalue : -(ofDigits (natDigits i.natAbs) : Int) = i := by
      rw [ofDigits_natDigits]
      omega
    rw [intDigits, if_pos hi]
    simpa only [hvalue] using Writes.minus hdigits
  · have hvalue : (ofDigits (natDigits i.natAbs) : Int) = i := by
      rw [ofDigits_natDigits]
      omega
    rw [intDigits, if_neg hi]
    simpa only [hvalue] using Writes.digits hdigits

/-- A text is read as an integer exactly if it is written as one. -/
theorem readInt?_eq_some : readInt? cs = some i ↔ Writes cs i := by
  constructor
  · intro h
    obtain ⟨k, hread, rfl⟩ := Option.map_eq_some_iff.1 h
    obtain ⟨hdigits, rfl⟩ := readDigits?_eq_some.1 hread
    exact writes_of_takeSign hdigits
  · intro h
    obtain ⟨negative, ds, hsign, hdigits, rfl⟩ := h.takeSign
    have hread : readDigits? ds = some (ofDigits ds) := readDigits?_eq_some.2 ⟨hdigits, rfl⟩
    simp only [readInt?, hsign, hread, Option.map_some]

/-- A text is not written as two integers. -/
theorem Writes.unique {j : Int} (h : Writes cs i) (h' : Writes cs j) : i = j :=
  Option.some.inj ((readInt?_eq_some.2 h).symm.trans (readInt?_eq_some.2 h'))

/-- Underscores are read between the digits, but need not be there. -/
theorem readBigInt?_of_writes (h : Writes cs i) : readBigInt? cs = some i := by
  obtain ⟨negative, ds, hsign, hdigits, rfl⟩ := h.takeSign
  have hread : readDigits? ds = some (ofDigits ds) := readDigits?_eq_some.2 ⟨hdigits, rfl⟩
  have hunderscore : ∀ c ∈ ds, c ≠ '_' := by
    rintro c hc rfl
    exact absurd (isDigit_of_isDigits hdigits hc) (by decide)
  have hfilter : ds.filter (· ≠ '_') = ds :=
    List.filter_eq_self.2 fun c hc => decide_eq_true (hunderscore c hc)
  obtain ⟨first, rest, rfl, -⟩ := exists_cons_of_isDigits hdigits
  simp only [readBigInt?, hsign, if_neg (hunderscore first List.mem_cons_self), hfilter, hread,
    Option.map_some]

/-- The reader of 64 bits reads the integers that fit. -/
theorem readInt64?_eq_some : readInt64? cs = some i ↔ Writes cs i ∧ fitsInt64 i = true := by
  rw [readInt64?, Option.filter_eq_some_iff, readInt?_eq_some]

theorem fitsInt64_iff :
    fitsInt64 i = true ↔ -9223372036854775808 ≤ i ∧ i ≤ 9223372036854775807 := by
  simp only [fitsInt64, Bool.and_eq_true, decide_eq_true_eq]

theorem readInt64?_intDigits (h : fitsInt64 i = true) : readInt64? (intDigits i) = some i :=
  readInt64?_eq_some.2 ⟨writes_intDigits i, h⟩

theorem toList_intText (i : Int) : (intText i).toList = intDigits i := String.toList_ofList

/-- Every integer has a text that is written as it. -/
theorem writes_intText (i : Int) : Writes (Text.trimChars (intText i).toList) i := by
  rw [toList_intText, Text.trimChars_of_plain (writes_intDigits i).plain]
  exact writes_intDigits i

theorem plain_intDigits (i : Int) : Text.Plain (intDigits i) := (writes_intDigits i).plain

/-! ## Digits of a fixed number -/

section

variable {width : Nat}

theorem mem_padLeft (h : c ∈ Text.padLeft width '0' cs) : c = '0' ∨ c ∈ cs :=
  (List.mem_append.1 h).imp_left List.eq_of_mem_replicate

theorem isDigit_of_mem_padLeft (h : c ∈ Text.padLeft width '0' (natDigits n)) :
    c.isDigit = true := by
  rcases mem_padLeft h with rfl | h
  · decide
  · exact isDigit_of_mem_natDigits h

theorem plain_padLeft (width n : Nat) : Text.Plain (Text.padLeft width '0' (natDigits n)) :=
  Text.plain_of_digits fun _ hc => isDigit_of_mem_padLeft hc

theorem length_padLeft (h : cs.length ≤ width) : (Text.padLeft width '0' cs).length = width := by
  simp only [Text.padLeft, List.length_append, List.length_replicate]
  omega

theorem length_natDigits_le (hwidth : 0 < width) (h : n < pow10 width) :
    (natDigits n).length ≤ width :=
  Nat.toDigits_length 10 n width hwidth h

/-- Zeros in front do not count. -/
theorem ofDigits_padLeft (width n : Nat) : ofDigits (Text.padLeft width '0' (natDigits n)) = n := by
  rw [ofDigits, Text.padLeft, Nat.ofDigitChars_append, Nat.ofDigitChars_replicate_zero,
    Nat.mul_zero]
  exact ofDigits_natDigits n

end

end RowFilter.Number
