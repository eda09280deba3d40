import RowFilter.Proofs.Number.DecimalLimit

/-!
# The order of exact numbers

Integers of all widths and decimals stand for rational numbers, and their order is the order of
these. The exception is a decimal beside an integer that fits none: around the limit of the decimals
the two can be taken for equal, and then the order is not transitive either.
-/

namespace RowFilter

open Number (Decimal)
open Number.Decimal (coefficientLimit)

namespace Numeric

/-- The value of a number that is no floating-point number. -/
def rational? : Numeric → Option ℚ
  | int n | big n => some n
  | decimal d => some d.value
  | float _ => none

/-- Whether two numbers are a decimal and an integer that are rounded to the limit between them. -/
def MergesWith : Numeric → Numeric → Prop
  | decimal d, int n | decimal d, big n | int n, decimal d | big n, decimal d => d.MergesWith n
  | _, _ => False

instance (x y : Numeric) : Decidable (x.MergesWith y) := by
  unfold MergesWith
  split <;> infer_instance

variable {x y : Numeric} {p q : ℚ}

theorem compare_cast (m n : Int) : compare (m : ℚ) n = compare m n :=
  Number.compare_map (Int.cast_strictMono (R := ℚ)) m n

/-- An integer in front of a decimal compares with it as their values do, with the same exception. -/
theorem compareDecimals?_big_decimal (d : Decimal) (n : Int) :
    compareDecimals? (big n) (decimal d) =
      some (if d.MergesWith n then .eq else compare (n : ℚ) d.value) := by
  rw [compareDecimals?_swap, compareDecimals?_decimal_big, Option.map_some, compare_swap d.value]
  split <;> rfl

/-- Exact numbers compare as their values do, unless they are rounded to one limit. -/
theorem compare?_exact (hx : x.rational? = some p) (hy : y.rational? = some q) :
    x.compare? y = some (if x.MergesWith y then .eq else compare p q) := by
  cases x with
  | float => cases hx
  | int m | big m =>
    cases hx
    cases y with
    | float => cases hy
    | int n | big n =>
      cases hy
      simp [compare?, MergesWith, compare_cast]
    | decimal e =>
      cases hy
      exact compareDecimals?_big_decimal e m
  | decimal d =>
    cases hx
    cases y with
    | float => cases hy
    | int n | big n =>
      cases hy
      exact compareDecimals?_decimal_big d n
    | decimal e =>
      cases hy
      simp [compare?, compareDecimals?, toDecimal?, MergesWith, Decimal.order_eq_compare]

end Numeric

namespace Literal

/-- The value of an integer of any width, or of a decimal. -/
def rational? (l : Literal) : Option ℚ := (Numeric.ofLiteral? l).bind Numeric.rational?

/-- Whether two literals are a decimal and a big integer that are rounded to the limit of the
decimals, the one from below and the other from above. -/
def MergesWith : Literal → Literal → Prop
  | decimal d, bigInt n | bigInt n, decimal d => d.MergesWith n
  | _, _ => False

instance (a b : Literal) : Decidable (a.MergesWith b) := by
  unfold MergesWith
  split <;> infer_instance

variable {a b c : Literal} {x y : Numeric} {n : Int} {p q r : ℚ}

theorem collate_of_numbers (ha : Numeric.ofLiteral? a = some x)
    (hb : Numeric.ofLiteral? b = some y) :
    a.collate b = x.compare? y := by
  have hacross : a.collateAcrossKinds b = x.compare? y := by
    rw [collateAcrossKinds, ha, hb]
  cases a <;> cases ha <;> cases b <;> cases hb <;> exact hacross

/-- An integer of at most 64 bits is far from the limit of the decimals. -/
theorem not_mergesWith_small (ha : Numeric.ofLiteral? a = some (.int n)) (d : Decimal) :
    ¬ d.MergesWith n := by
  have hbound : -2 ^ 63 ≤ n ∧ n < 2 ^ 63 := by
    cases a <;> cases ha
    case i8 m => have hlow := m.le_toInt; have hhigh := m.toInt_lt; omega
    case i16 m => have hlow := m.le_toInt; have hhigh := m.toInt_lt; omega
    case i32 m => have hlow := m.le_toInt; have hhigh := m.toInt_lt; omega
    case i64 m => have hlow := m.le_toInt; have hhigh := m.toInt_lt; omega
  rintro ⟨-, -, -, hlimit, -⟩
  rw [coefficientLimit] at hlimit
  omega

theorem mergesWith_iff (ha : Numeric.ofLiteral? a = some x) (hb : Numeric.ofLiteral? b = some y) :
    x.MergesWith y ↔ a.MergesWith b := by
  cases x with
  | float => cases a <;> cases ha <;> exact Iff.rfl
  | big => cases a <;> cases ha; cases b <;> cases hb <;> exact Iff.rfl
  | int =>
    have hsmall := not_mergesWith_small ha
    cases a <;> cases ha <;> cases b <;> cases hb <;>
      first
      | exact Iff.rfl
      | exact iff_of_false (hsmall _) id
  | decimal d =>
    cases a <;> cases ha
    cases y with
    | int =>
      have hsmall := not_mergesWith_small hb
      cases b <;> cases hb <;> exact iff_of_false (hsmall d) id
    | float | big | decimal => cases b <;> cases hb <;> exact Iff.rfl

/-- Integers and decimals compare as their values do, unless they are rounded to one limit. -/
theorem collate_exact (ha : a.rational? = some p) (hb : b.rational? = some q) :
    a.collate b = some (if a.MergesWith b then .eq else compare p q) := by
  obtain ⟨x, hx, hp⟩ := Option.bind_eq_some_iff.1 ha
  obtain ⟨y, hy, hq⟩ := Option.bind_eq_some_iff.1 hb
  rw [collate_of_numbers hx hy, Numeric.compare?_exact hp hq]
  simp only [mergesWith_iff hx hy]

theorem collate_ne_gt_iff (ha : a.rational? = some p) (hb : b.rational? = some q)
    (h : ¬ a.MergesWith b) : a.collate b ≠ some .gt ↔ p ≤ q := by
  rw [collate_exact ha hb, if_neg h, ne_eq, Option.some.injEq, ← ne_eq, compare_le_iff_le]

/-- Values that are rounded to one limit differ: one is below the limit, and the other is not. -/
theorem MergesWith.ne (h : a.MergesWith b) (ha : a.rational? = some p) (hb : b.rational? = some q) :
    p ≠ q := by
  have hdiffer {d : Decimal} {n : Int} (h : d.MergesWith n) : d.value ≠ n := by
    have horder := d.compare_value_of_limit h.2.2.2.1
    intro heq
    rw [heq, compare_eq_iff_eq.2 rfl] at horder
    split at horder <;> cases horder
  unfold MergesWith at h
  split at h
  · cases ha
    cases hb
    exact hdiffer h
  · cases ha
    cases hb
    exact (hdiffer h).symm
  · exact h.elim

/-- **Exact numbers are ordered by their values**, and transitively, unless two of them are a
decimal and a big integer that are rounded to the limit of the decimals between them. These two
count as equal, although they differ. -/
theorem collate_exact_numbers (ha : a.rational? = some p) (hb : b.rational? = some q)
    (hc : c.rational? = some r) :
    (¬ a.MergesWith b → a.collate b = some (compare p q)) ∧
      (a.MergesWith b → a.collate b = some .eq ∧ p ≠ q) ∧
      (¬ a.MergesWith b → ¬ b.MergesWith c → ¬ a.MergesWith c →
        a.collate b ≠ some .gt → b.collate c ≠ some .gt → a.collate c ≠ some .gt) := by
  refine ⟨?_, ?_, ?_⟩
  · intro h
    rw [collate_exact ha hb, if_neg h]
  · intro h
    rw [collate_exact ha hb, if_pos h]
    exact ⟨rfl, h.ne ha hb⟩
  · intro hab hbc hac hle hle'
    rw [collate_ne_gt_iff ha hb hab] at hle
    rw [collate_ne_gt_iff hb hc hbc] at hle'
    rw [collate_ne_gt_iff ha hc hac]
    exact hle.trans hle'

/-- A price is ordered beside a quantity and an integer that fits no decimal. -/
theorem collate_exact_numbers_price :
    (decimal ⟨1050, 2, by decide, by decide⟩).rational? = some (1050 / 10 ^ 2) ∧
      (i64 10).rational? = some 10 ∧ (bigInt (2 ^ 96)).rational? = some (2 ^ 96) ∧
      (decimal ⟨1050, 2, by decide, by decide⟩).collate (i64 10) =
        some (compare (1050 / 10 ^ 2 : ℚ) 10) ∧
      ((i64 10).collate (decimal ⟨1050, 2, by decide, by decide⟩) ≠ some .gt →
        (decimal ⟨1050, 2, by decide, by decide⟩).collate (bigInt (2 ^ 96)) ≠ some .gt →
        (i64 10).collate (bigInt (2 ^ 96)) ≠ some .gt) := by
  have hprice : (decimal ⟨1050, 2, by decide, by decide⟩).rational? = some (1050 / 10 ^ 2) := by
    simp [rational?, Numeric.ofLiteral?, Numeric.rational?, Decimal.value]
  have hten : (i64 10).rational? = some 10 := by
    change some (((10 : Int) : ℚ)) = some 10
    norm_num
  have hlarge : (bigInt (2 ^ 96)).rational? = some (2 ^ 96) := by
    change some (((2 ^ 96 : Int) : ℚ)) = some (2 ^ 96)
    norm_num
  refine ⟨hprice, hten, hlarge, ?_, ?_⟩
  · exact (collate_exact_numbers hprice hten hlarge).1 (by decide)
  · exact (collate_exact_numbers hten hprice hlarge).2.2 (by decide) (by decide) (by decide)

/-- The greatest decimal counts as equal to the next integer, and also to itself as an integer. -/
theorem collate_greatest_decimal :
    (decimal ⟨79228162514264337593543950335, 0, by decide, by decide⟩).collate
        (bigInt 79228162514264337593543950336) = some .eq ∧
      (decimal ⟨79228162514264337593543950335, 0, by decide, by decide⟩).collate
        (bigInt 79228162514264337593543950335) = some .eq ∧
      (bigInt 79228162514264337593543950336).collate (bigInt 79228162514264337593543950335) =
        some .gt ∧
      (decimal ⟨79228162514264337593543950335, 0, by decide, by decide⟩).rational? =
        some 79228162514264337593543950335 ∧
      (bigInt 79228162514264337593543950336).rational? = some 79228162514264337593543950336 := by
  refine ⟨by decide +kernel, by decide +kernel, by decide +kernel, ?_, ?_⟩
  · simp [rational?, Numeric.ofLiteral?, Numeric.rational?, Decimal.value]
  · simp [rational?, Numeric.ofLiteral?, Numeric.rational?]

end Literal

end RowFilter
