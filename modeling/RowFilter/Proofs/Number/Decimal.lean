import RowFilter.Number.Decimal.Reader
import RowFilter.Proofs.Number.Digits

/-!
# Decimals read back from their texts

A decimal is written with all of its places, and no digit of the text is one that does not fit, so
reading it rounds nothing: the coefficient and the scale come back as they were.
-/

namespace RowFilter.Number.Decimal

variable {negative : Bool} {p : Progress} {ds rest : List Char}

theorem le_ofDigitChars (ds : List Char) (n : Nat) : n ≤ Nat.ofDigitChars 10 ds n := by
  rw [Nat.ofDigitChars_eq_ofDigitChars_zero]
  have hpower : 1 ≤ 10 ^ ds.length := Nat.one_le_pow _ _ (by decide)
  calc n = 1 * n := (Nat.one_mul n).symm
    _ ≤ 10 ^ ds.length * n := Nat.mul_le_mul_right n hpower
    _ ≤ _ := Nat.le_add_right _ _

/-- What has been read after some more digits. -/
def Progress.after (p : Progress) (ds : List Char) : Progress where
  coefficient := Nat.ofDigitChars 10 ds p.coefficient
  scale := if p.pointed then p.scale + ds.length else p.scale
  pointed := p.pointed
  started := p.started || !ds.isEmpty

/-- Whether some more digits fit the greatest coefficient and the greatest scale. -/
def Progress.HasRoom (p : Progress) (ds : List Char) : Prop :=
  (p.after ds).coefficient < coefficientLimit ∧
    if p.pointed then p.scale + ds.length ≤ maxScale else p.scale < maxScale

/-- Digits that fit are read without rounding. -/
theorem readDigitsFrom_digits (hds : ∀ c ∈ ds, c.isDigit = true) (hroom : p.HasRoom ds) :
    readDigitsFrom negative p (ds ++ rest) = readDigitsFrom negative (p.after ds) rest := by
  induction ds generalizing p with
  | nil =>
    have hafter : p.after [] = p := by
      cases p
      simp [Progress.after]
    rw [hafter, List.nil_append]
  | cons c ds ih =>
    obtain ⟨hc, hds⟩ := List.forall_mem_cons.1 hds
    let next := p.after [c]
    have hnext : next.after ds = p.after (c :: ds) := by
      cases hpointed : p.pointed with
      | false => simp [next, Progress.after, hpointed, Nat.ofDigitChars_cons]
      | true =>
        simp only [next, Progress.after, hpointed, Nat.ofDigitChars_cons]
        simp [Nat.add_assoc, Nat.add_comm 1]
    obtain ⟨hlimit, hscale⟩ := hroom
    have hcoefficient : 10 * p.coefficient + (c.toNat - '0'.toNat) < coefficientLimit :=
      Nat.lt_of_le_of_lt (le_ofDigitChars ds _) hlimit
    have hplace : p.scale < maxScale := by
      cases hpointed : p.pointed <;> simp only [hpointed] at hscale
      · exact hscale
      · simp only [if_true, List.length_cons] at hscale
        omega
    -- room for all digits is room for the rest of them behind the first
    have hroom : next.HasRoom ds := by
      refine ⟨hnext ▸ hlimit, ?_⟩
      cases hpointed : p.pointed <;> simp [next, Progress.after, hpointed] at hscale ⊢
      · exact hscale
      · omega
    rw [List.cons_append, readDigitsFrom, if_pos hc, ← hnext, ← ih hds hroom]
    simp only [if_pos (And.intro hcoefficient hplace)]
    simp [next, Progress.after, Nat.ofDigitChars_cons]

theorem readDigitsFrom_point (h : p.pointed = false) :
    readDigitsFrom negative p ('.' :: rest) =
      readDigitsFrom negative { p with pointed := true } rest := by
  simp [readDigitsFrom, h]

/-- The digits of a decimal are at least one in front of the point and as many as the scale behind
it. -/
theorem exists_digits (d : Decimal) : ∃ whole fraction : List Char,
    whole ≠ [] ∧ fraction.length = d.scale ∧
      (∀ c ∈ whole ++ fraction, c.isDigit = true) ∧
      Nat.ofDigitChars 10 (whole ++ fraction) 0 = d.coefficient.natAbs ∧
      d.digits = if d.scale = 0 then whole else whole ++ '.' :: fraction := by
  let padded := Text.padLeft (d.scale + 1) '0' (natDigits d.coefficient.natAbs)
  have hlength : d.scale + 1 ≤ padded.length := by
    simp only [padded, Text.padLeft, List.length_append, List.length_replicate]
    omega
  by_cases hscale : d.scale = 0
  · refine ⟨natDigits d.coefficient.natAbs, [], natDigits_ne_nil _, hscale.symm, ?_, ?_, ?_⟩
    · intro c hc
      rw [List.append_nil] at hc
      exact isDigit_of_mem_natDigits hc
    · rw [List.append_nil]
      exact ofDigits_natDigits _
    · simp [digits, hscale]
  · refine ⟨padded.take (padded.length - d.scale), padded.drop (padded.length - d.scale), ?_, ?_,
      ?_, ?_, ?_⟩
    · rw [← List.length_pos_iff, List.length_take]
      omega
    · rw [List.length_drop]
      omega
    · rw [List.take_append_drop]
      exact fun c hc => isDigit_of_mem_padLeft hc
    · rw [List.take_append_drop]
      exact ofDigits_padLeft _ _
    · simp [digits, hscale, padded, Text.padLeft]

theorem finish_eq (d : Decimal) {p : Progress} (hstarted : p.started = true)
    (hcoefficient : p.coefficient = d.coefficient.natAbs) (hscale : p.scale = d.scale) :
    p.finish (d.coefficient < 0) = some d := by
  rw [Progress.finish, if_pos hstarted, hcoefficient, hscale, withSign_natAbs, make?,
    dif_pos ⟨d.coefficient_lt, d.scale_le⟩]

theorem readDigitsFrom_text (d : Decimal) :
    readDigitsFrom (d.coefficient < 0) ⟨0, 0, false, false⟩ d.digits = some d := by
  obtain ⟨whole, fraction, hwhole, hfraction, hdigits, hvalue, heq⟩ := exists_digits d
  have hwholeDigits : ∀ c ∈ whole, c.isDigit = true :=
    fun c hc => hdigits c (List.mem_append_left _ hc)
  have hlimit : Nat.ofDigitChars 10 fraction (Nat.ofDigitChars 10 whole 0) < coefficientLimit := by
    rw [← Nat.ofDigitChars_append, hvalue]
    exact d.coefficient_lt
  have hstart : Progress.HasRoom ⟨0, 0, false, false⟩ whole :=
    ⟨Nat.lt_of_le_of_lt (le_ofDigitChars fraction _) hlimit, Nat.zero_lt_succ _⟩
  have hstarted : whole.isEmpty = false := by simpa using hwhole
  rw [heq]
  split
  · next hscale =>
    have hnil : fraction = [] := List.length_eq_zero_iff.1 (hfraction.trans hscale)
    subst hnil
    rw [List.append_nil] at hvalue
    rw [← List.append_nil whole, readDigitsFrom_digits hwholeDigits hstart, readDigitsFrom]
    exact finish_eq d (by simp [Progress.after, hstarted]) hvalue hscale.symm
  · let behind : Progress := { Progress.after ⟨0, 0, false, false⟩ whole with pointed := true }
    have hroom : behind.HasRoom fraction := by
      refine ⟨hlimit, ?_⟩
      have hscale : 0 + d.scale ≤ maxScale := (Nat.zero_add d.scale).symm ▸ d.scale_le
      simp only [behind, Progress.after, hfraction]
      exact hscale
    rw [readDigitsFrom_digits hwholeDigits hstart, readDigitsFrom_point rfl,
      ← List.append_nil fraction, readDigitsFrom_digits (p := behind)
        (fun c hc => hdigits c (List.mem_append_right _ hc)) hroom, readDigitsFrom]
    refine finish_eq d (by simp [behind, Progress.after, hstarted]) ?_ ?_
    · rw [← hvalue, Nat.ofDigitChars_append]
      rfl
    · simp [behind, Progress.after, hfraction]

theorem plain_digits (d : Decimal) : Text.Plain d.digits := by
  obtain ⟨whole, fraction, _, _, hdigits, _, heq⟩ := exists_digits d
  have hwhole : Text.Plain whole :=
    Text.plain_of_digits fun c hc => hdigits c (List.mem_append_left _ hc)
  have hfraction : Text.Plain fraction :=
    Text.plain_of_digits fun c hc => hdigits c (List.mem_append_right _ hc)
  rw [heq]
  split
  · exact hwhole
  · exact hwhole.append (.cons (by decide) hfraction)

/-- The characters of a decimal. -/
theorem toList_text (d : Decimal) :
    d.text.toList = if d.coefficient < 0 then '-' :: d.digits else d.digits := by
  rw [text, String.toList_ofList]

theorem plain_text (d : Decimal) : Text.Plain d.text.toList := by
  rw [toList_text]
  split
  · exact .cons (by decide) d.plain_digits
  · exact d.plain_digits

theorem takeSign_digits (d : Decimal) : takeSign d.digits = (false, d.digits) := by
  obtain ⟨whole, fraction, hwhole, _, hdigits, _, heq⟩ := exists_digits d
  obtain ⟨c, cs, rfl⟩ := List.exists_cons_of_ne_nil hwhole
  have hc : c.isDigit = true := hdigits c List.mem_cons_self
  rw [heq]
  split <;> exact takeSign_cons hc

theorem takeSign_text (d : Decimal) :
    takeSign d.text.toList = (decide (d.coefficient < 0), d.digits) := by
  rw [toList_text]
  by_cases hnegative : d.coefficient < 0
  · rw [if_pos hnegative, decide_eq_true hnegative]
    rfl
  · rw [if_neg hnegative, takeSign_digits, decide_eq_false hnegative]

/-- **A decimal is read back from its text**, with its places. -/
theorem read?_text (d : Decimal) : read? d.text.toList = some d := by
  have hplain : readPlain? d.text.toList = some d := by
    rw [readPlain?, takeSign_text]
    exact readDigitsFrom_text d
  rw [read?, hplain]

end RowFilter.Number.Decimal
