import Mathlib.Tactic.Linarith
import RowFilter.Proofs.Number.Rounding
import RowFilter.Literal.Collation
import RowFilter.Number.Decimal.Reader

/-!
# Decimals beside integers that fit no decimal

An integer that fits no decimal is compared with a decimal through the doubles nearest to the two.
It lies beyond all decimals, and its double lies beyond those of all decimals, but for the limit
itself: to it are rounded the greatest whole decimals from below and the least such integers from
above. Only these are taken for equal; in all other cases the comparison is exact.
-/

namespace RowFilter

open Number (BinaryFloat Decimal Dyadic Format pow2 pow10)

namespace Number

/-! ## Rounding to doubles -/

section Double

variable {num den : Nat} {k : ℤ}

theorem nearest_le_pow2 (hden : 0 < den) (hk : -1074 ≤ k) (h : (num : ℚ) / den ≤ 2 ^ k) :
    (Format.double.nearest num den).value ≤ 2 ^ k := by
  have hone : ((1 : Nat) : ℚ) * 2 ^ k = 2 ^ k := by rw [Nat.cast_one, one_mul]
  rw [← hone] at h ⊢
  exact Format.nearest_le (by decide) hden (by decide) hk h

theorem pow2_le_nearest (hden : 0 < den) (hk : -1074 ≤ k) (h : 2 ^ k ≤ (num : ℚ) / den) :
    2 ^ k ≤ (Format.double.nearest num den).value := by
  have hone : ((1 : Nat) : ℚ) * 2 ^ k = 2 ^ k := by rw [Nat.cast_one, one_mul]
  rw [← hone] at h ⊢
  exact Format.le_nearest (by decide) hden (by decide) hk h

theorem nearest_nat_le_pow2 {n k : Nat} (h : n ≤ 2 ^ k) :
    (Format.double.nearest n 1).value ≤ 2 ^ k := by
  have hbound : (n : ℚ) / (1 : Nat) ≤ 2 ^ (k : ℤ) := by
    rw [Nat.cast_one, div_one, zpow_natCast]
    exact_mod_cast h
  rw [← zpow_natCast]
  exact nearest_le_pow2 Nat.one_pos (by omega) hbound

theorem pow2_le_nearest_nat {n k : Nat} (h : 2 ^ k ≤ n) :
    2 ^ k ≤ (Format.double.nearest n 1).value := by
  have hbound : 2 ^ (k : ℤ) ≤ (n : ℚ) / (1 : Nat) := by
    rw [Nat.cast_one, div_one, zpow_natCast]
    exact_mod_cast h
  rw [← zpow_natCast]
  exact pow2_le_nearest Nat.one_pos (by omega) hbound

theorem exponent_nearest_le (f : Format) (num den : Nat) :
    (f.nearest num den).exponent ≤ max f.minExponent (f.exponentOf num den + 1) := by
  unfold Format.nearest
  split
  · exact le_max_left _ _
  · dsimp only
    split
    · exact le_max_right _ _
    · exact (Int.le_add_one (le_refl _)).trans (le_max_right _ _)

/-- The double of a whole number whose first bit is known is a quotient by the unit. -/
theorem value_nearest_nat {n first : Nat} (hlow : 2 ^ first ≤ n) (hhigh : n < 2 ^ (first + 1))
    (hfirst : 52 ≤ first) : Format.double.exponentOf n 1 = (first - 52 : Nat) ∧
      (Format.double.nearest n 1).value =
        divNearestEven n (pow2 (first - 52)) * 2 ^ (first - 52) := by
  have hn : 0 < n := Nat.lt_of_lt_of_le (Nat.pow_pos (by decide)) hlow
  have hlog : Int.log 2 ((n : ℚ) / (1 : Nat)) = first := by
    rw [Nat.cast_one, div_one, Int.log_natCast,
      Nat.log_eq_of_pow_le_of_lt_pow hlow hhigh]
  have hexponent : Format.double.exponentOf n 1 = (first - 52 : Nat) := by
    rw [Format.exponentOf_eq _ hn Nat.one_pos, hlog]
    change max ((first : ℤ) - 53 + 1) (-1074) = _
    omega
  refine ⟨hexponent, ?_⟩
  rw [Format.value_nearest (by decide) hn, hexponent]
  have hzero : (-((first - 52 : Nat) : ℤ)).toNat = 0 := by omega
  rw [hzero, Int.toNat_natCast, zpow_natCast]
  simp [pow2]

theorem units_eq_pow2 {count unit k : Nat} (h : unit ≤ k) :
    (count : ℚ) * 2 ^ unit = 2 ^ k ↔ count = 2 ^ (k - unit) := by
  have hsplit : (2 : ℚ) ^ k = ((2 ^ (k - unit) : Nat) : ℚ) * 2 ^ unit := by
    rw [Nat.cast_pow, Nat.cast_ofNat, ← pow_add, Nat.sub_add_cancel h]
  rw [hsplit, mul_left_inj' (pow_ne_zero _ (by norm_num)), Nat.cast_inj]

/-- A whole number below the limit of the decimals is rounded to the limit if it is within half a
unit of it. -/
theorem nearest_eq_limit_of_lt {n : Nat} (h : n < Decimal.coefficientLimit) :
    (Format.double.nearest n 1).value ≤ 2 ^ 96 ∧
      ((Format.double.nearest n 1).value = 2 ^ 96 ↔ Decimal.coefficientLimit - 2 ^ 42 ≤ n) := by
  change n < 79228162514264337593543950336 at h
  change _ ∧ (_ ↔ 79228162514264337593543950336 - 4398046511104 ≤ n)
  refine ⟨nearest_nat_le_pow2 h.le, ?_⟩
  rcases Nat.lt_or_ge n (2 ^ 95) with hsmall | hlarge
  · have hbelow := nearest_nat_le_pow2 hsmall.le
    have hne : (Format.double.nearest n 1).value ≠ 2 ^ 96 := by
      intro heq
      rw [heq] at hbelow
      norm_num at hbelow
    exact iff_of_false hne (by omega)
  · have hvalue := (value_nearest_nat hlarge h (by decide)).2
    rw [hvalue, units_eq_pow2 (by decide)]
    change divNearestEven n 8796093022208 = 9007199254740992 ↔ _
    rw [divNearestEven]
    split <;> omega

/-- A whole number beyond the decimals is rounded to their limit if it is within half a unit of
it. -/
theorem nearest_eq_limit_of_le {n : Nat} (h : Decimal.coefficientLimit ≤ n) :
    2 ^ 96 ≤ (Format.double.nearest n 1).value ∧
      ((Format.double.nearest n 1).value = 2 ^ 96 ↔ n ≤ Decimal.coefficientLimit + 2 ^ 43) := by
  change 79228162514264337593543950336 ≤ n at h
  change _ ∧ (_ ↔ n ≤ 79228162514264337593543950336 + 8796093022208)
  refine ⟨pow2_le_nearest_nat h, ?_⟩
  rcases Nat.lt_or_ge n (2 ^ 97) with hsmall | hlarge
  · have hvalue := (value_nearest_nat h hsmall (by decide)).2
    rw [hvalue, units_eq_pow2 (by decide)]
    change divNearestEven n 17592186044416 = 4503599627370496 ↔ _
    rw [divNearestEven]
    split <;> omega
  · have habove := pow2_le_nearest_nat hlarge
    have hne : (Format.double.nearest n 1).value ≠ 2 ^ 96 := by
      intro heq
      rw [heq] at habove
      norm_num at habove
    exact iff_of_false hne (by omega)

end Double

/-! ## The double of a decimal -/

namespace Dyadic

variable {a b : Dyadic}

theorem cast_div (a b : Dyadic) :
    ((a.num * b.den : Nat) : ℚ) / (a.den * b.num : Nat) = a.value / b.value := by
  rw [← num_div_den a, ← num_div_den b, Nat.cast_mul, Nat.cast_mul, div_div_div_eq]

theorem cast_mul (a b : Dyadic) :
    ((a.num * b.num : Nat) : ℚ) / (a.den * b.den : Nat) = a.value * b.value := by
  rw [← num_div_den a, ← num_div_den b, Nat.cast_mul, Nat.cast_mul, div_mul_div_comm]

theorem cast_add (a b : Dyadic) :
    ((a.num * b.den + b.num * a.den : Nat) : ℚ) / (a.den * b.den : Nat) = a.value + b.value := by
  have ha : (a.den : ℚ) ≠ 0 := Nat.cast_ne_zero.2 a.den_pos.ne'
  have hb : (b.den : ℚ) ≠ 0 := Nat.cast_ne_zero.2 b.den_pos.ne'
  rw [← num_div_den a, ← num_div_den b, Nat.cast_mul, Nat.cast_add, Nat.cast_mul, Nat.cast_mul,
    div_add_div _ _ ha hb, mul_comm (b.num : ℚ)]

theorem num_pos (h : 0 < a.value) : 0 < a.num := by
  rw [← num_div_den] at h
  exact Nat.pos_of_ne_zero fun hzero => by simp [hzero] at h

theorem roundHalfUp_le {n : Nat} (h : a.value ≤ n) : a.roundHalfUp ≤ n := by
  have hden := a.den_pos
  rw [← num_div_den, div_le_iff₀ (Nat.cast_pos.2 hden)] at h
  have hnum : a.num ≤ n * a.den := by exact_mod_cast h
  have hwhole : (n + 1) * (2 * a.den) = 2 * (n * a.den) + 2 * a.den := by
    rw [Nat.add_mul, Nat.one_mul, Nat.mul_left_comm]
  rw [roundHalfUp, ← Nat.lt_succ_iff, Nat.div_lt_iff_lt_mul (by omega)]
  change _ < (n + 1) * (2 * a.den)
  omega

theorem nearest_div_le {j k : Nat} (hjk : k ≤ j) (ha : a.value ≤ 2 ^ j) (hb : 2 ^ k ≤ b.value) :
    (Format.double.nearest (a.num * b.den) (a.den * b.num)).value ≤ 2 ^ (j - k) := by
  have hpower : (0 : ℚ) < 2 ^ k := pow_pos (by norm_num) k
  have hden : 0 < a.den * b.num := Nat.mul_pos a.den_pos (num_pos (lt_of_lt_of_le hpower hb))
  have hsplit : (2 : ℚ) ^ j = 2 ^ (j - k) * 2 ^ k := by rw [← pow_add, Nat.sub_add_cancel hjk]
  have hquotient : a.value / b.value ≤ 2 ^ (j - k) := by
    rw [div_le_iff₀ (lt_of_lt_of_le hpower hb)]
    calc a.value ≤ 2 ^ (j - k) * 2 ^ k := hsplit ▸ ha
      _ ≤ 2 ^ (j - k) * b.value := mul_le_mul_of_nonneg_left hb (pow_nonneg (by norm_num) _)
  rw [← zpow_natCast] at hquotient ⊢
  exact nearest_le_pow2 hden (by omega) ((cast_div a b).trans_le hquotient)

theorem nearest_mul_le {j k : Nat} (ha : a.value ≤ 2 ^ j) (hb : b.value ≤ 2 ^ k) :
    (Format.double.nearest (a.num * b.num) (a.den * b.den)).value ≤ 2 ^ (j + k) := by
  have hproduct : a.value * b.value ≤ 2 ^ (j + k) := by
    rw [pow_add]
    exact mul_le_mul ha hb b.value_nonneg (pow_nonneg (by norm_num) _)
  rw [← zpow_natCast] at hproduct ⊢
  exact nearest_le_pow2 (Nat.mul_pos a.den_pos b.den_pos) (by omega)
    ((cast_mul a b).trans_le hproduct)

theorem nearest_add_le {j : Nat} (ha : a.value ≤ 2 ^ j) (hb : b.value ≤ 2 ^ j) :
    (Format.double.nearest (a.num * b.den + b.num * a.den) (a.den * b.den)).value ≤
      2 ^ (j + 1) := by
  have hsum : a.value + b.value ≤ 2 ^ (j + 1) := by
    rw [pow_succ, mul_two]
    exact add_le_add ha hb
  rw [← zpow_natCast] at hsum ⊢
  exact nearest_le_pow2 (Nat.mul_pos a.den_pos b.den_pos) (by omega) ((cast_add a b).trans_le hsum)

end Dyadic

namespace Decimal

/-- A decimal without places is rounded once. One with places is far below the limit, and stays so
through all the roundings. -/
theorem exists_toDouble (d : Decimal) : ∃ magnitude : Dyadic,
    d.toDouble = .finite (d.coefficient < 0) magnitude ∧
      (d.scale = 0 → magnitude = Format.double.nearest d.coefficient.natAbs 1) ∧
      (d.scale ≠ 0 → magnitude.value ≤ 2 ^ 95) := by
  by_cases hscale : d.scale = 0
  · refine ⟨_, ?_, fun _ => rfl, fun h => absurd hscale h⟩
    simp [toDouble, hscale]
  obtain ⟨power, hpower⟩ : ∃ power, Format.double.nearest (pow10 d.scale) 1 = power := ⟨_, rfl⟩
  obtain ⟨k, hk⟩ : ∃ k, (pow10 d.scale).log2 = k := ⟨_, rfl⟩
  have hten : 10 ≤ pow10 d.scale := Nat.le_self_pow hscale 10
  have hlow : 2 ^ k ≤ pow10 d.scale := hk ▸ Nat.log2_self_le (by omega)
  have hhigh : pow10 d.scale < 2 ^ (k + 1) := hk ▸ Nat.lt_log2_self
  have hpowerLow : 2 ^ k ≤ power.value := hpower ▸ pow2_le_nearest_nat hlow
  have hpowerHigh : power.value ≤ 2 ^ (k + 1) := hpower ▸ nearest_nat_le_pow2 hhigh.le
  unfold toDouble
  simp only [if_neg hscale, hpower]
  generalize hwhole : Format.double.nearest (d.coefficient.natAbs / pow10 d.scale) 1 = whole
  generalize hpart : Format.double.nearest (d.coefficient.natAbs % pow10 d.scale) 1 = part
  generalize hfraction :
    Format.double.nearest (part.num * power.den) (part.den * power.num) = fraction
  -- the whole part is below an eighth of the limit, and the fraction is not even beyond two
  have hwholeHigh : whole.value ≤ 2 ^ 93 := by
    have hquotient : d.coefficient.natAbs / pow10 d.scale ≤ 2 ^ 93 := by
      have hlimit := d.coefficient_lt
      refine (Nat.div_le_div_left (show 8 ≤ pow10 d.scale by omega) (by decide)).trans ?_
      omega
    exact hwhole ▸ nearest_nat_le_pow2 hquotient
  have hpartHigh : part.value ≤ 2 ^ (k + 1) := by
    have hrest := Nat.mod_lt d.coefficient.natAbs (show 0 < pow10 d.scale by omega)
    exact hpart ▸ nearest_nat_le_pow2 (hrest.trans hhigh).le
  have hfractionHigh : fraction.value ≤ 2 ^ 93 := by
    have hquotient := hfraction ▸ Dyadic.nearest_div_le (Nat.le_succ k) hpartHigh hpowerLow
    rw [Nat.succ_sub (Nat.le_refl k), Nat.sub_self] at hquotient
    exact hquotient.trans (by norm_num)
  split
  · refine ⟨whole, rfl, fun h => absurd h hscale, fun _ => hwholeHigh.trans (by norm_num)⟩
  · refine ⟨_, rfl, fun h => absurd h hscale, fun _ => ?_⟩
    have hsum := Dyadic.nearest_add_le hwholeHigh hfractionHigh
    have hshifted := Dyadic.nearest_mul_le hsum hpowerHigh
    have hplaces := Dyadic.roundHalfUp_le (n := 2 ^ (93 + 1 + (k + 1))) (by exact_mod_cast hshifted)
    have hfinal := Dyadic.nearest_div_le (by omega) (nearest_nat_le_pow2 hplaces) hpowerLow
    refine hfinal.trans (le_of_eq ?_)
    congr 1
    omega

/-- Whether a decimal and an integer beyond the decimals are rounded to the limit between them. -/
def MergesWith (d : Decimal) (n : Int) : Prop :=
  (d.coefficient < 0 ↔ n < 0) ∧ d.scale = 0 ∧
    coefficientLimit - 2 ^ 42 ≤ d.coefficient.natAbs ∧
    coefficientLimit ≤ n.natAbs ∧ n.natAbs ≤ coefficientLimit + 2 ^ 43

instance (d : Decimal) (n : Int) : Decidable (d.MergesWith n) := by
  unfold MergesWith
  infer_instance

theorem value_bounds (d : Decimal) : -2 ^ 96 < d.value ∧ d.value < 2 ^ 96 := by
  have hpower : (1 : ℚ) ≤ 10 ^ d.scale := one_le_pow₀ (by norm_num)
  have hlimit := d.coefficient_lt
  have hcoefficient : -(2 : ℚ) ^ 96 < d.coefficient ∧ (d.coefficient : ℚ) < 2 ^ 96 := by
    have hlow : -2 ^ 96 < d.coefficient := by omega
    have hhigh : d.coefficient < 2 ^ 96 := by omega
    exact_mod_cast And.intro hlow hhigh
  rw [value, lt_div_iff₀ (by linarith), div_lt_iff₀ (by linarith)]
  constructor
  · nlinarith [hcoefficient.1]
  · nlinarith [hcoefficient.2]

/-- An integer that fits no decimal lies beyond all of them. -/
theorem compare_value_of_limit (d : Decimal) {n : Int} (h : coefficientLimit ≤ n.natAbs) :
    compare d.value n = if n < 0 then .gt else .lt := by
  change 79228162514264337593543950336 ≤ n.natAbs at h
  obtain ⟨hlow, hhigh⟩ := d.value_bounds
  split
  · have hn : n ≤ -2 ^ 96 := by omega
    have hcast : (n : ℚ) ≤ -2 ^ 96 := by exact_mod_cast hn
    exact compare_gt_iff_gt.2 (hcast.trans_lt hlow)
  · have hn : 2 ^ 96 ≤ n := by omega
    have hcast : 2 ^ 96 ≤ (n : ℚ) := by exact_mod_cast hn
    exact compare_lt_iff_lt.2 (hhigh.trans_le hcast)

end Decimal

/-- Magnitudes on the two sides of a limit compare as their signs say, unless they meet there. -/
theorem Dyadic.compare_signedValue {a b : Dyadic} {limit : ℚ} (hlimit : 0 < limit)
    (ha : a.value ≤ limit) (hb : limit ≤ b.value) (negative other : Bool) :
    compare (a.signedValue negative) (b.signedValue other) =
      if negative = other ∧ a.value = limit ∧ b.value = limit then .eq
      else if other then .gt else .lt := by
  have hnonneg := a.value_nonneg
  by_cases hmeet : negative = other ∧ a.value = limit ∧ b.value = limit
  · rw [if_pos hmeet, signedValue, signedValue, hmeet.1, hmeet.2.1, hmeet.2.2]
    exact compare_eq_iff_eq.2 rfl
  · rw [if_neg hmeet]
    have hlt (hsign : negative = other) : a.value < b.value := by
      refine lt_of_le_of_ne (ha.trans hb) fun heq => hmeet ⟨hsign, ?_⟩
      exact ⟨le_antisymm ha (heq ▸ hb), le_antisymm (heq ▸ ha) hb⟩
    cases other with
    | true =>
      refine compare_gt_iff_gt.2 ?_
      cases negative with
      | true => exact neg_lt_neg (hlt rfl)
      | false =>
        change -b.value < a.value
        linarith
    | false =>
      refine compare_lt_iff_lt.2 ?_
      cases negative with
      | true =>
        change -a.value < b.value
        linarith
      | false => exact hlt rfl

end Number

namespace Numeric

open Number.Decimal (coefficientLimit)

/-- A decimal and an integer compare as their values do, unless the two are rounded to the limit
between them. -/
theorem compareDecimals?_decimal_big (d : Decimal) (n : Int) :
    compareDecimals? (decimal d) (big n) =
      some (if d.MergesWith n then .eq else compare d.value n) := by
  cases hfits : Decimal.ofInt? n with
  | some e =>
    have hsmall : ¬ coefficientLimit ≤ n.natAbs := by
      rw [coefficientLimit, ← Decimal.ofInt?_eq_none, hfits]
      exact Option.some_ne_none e
    have hmerges : ¬ d.MergesWith n := fun h => hsmall h.2.2.2.1
    rw [compareDecimals?_of_fits (x := decimal d) (y := big n) rfl hfits]
    simp only [if_neg hmerges, Decimal.order_eq_compare, Decimal.value_of_ofInt? hfits]
  | none =>
    have hlarge : coefficientLimit ≤ n.natAbs := Decimal.ofInt?_eq_none.1 hfits
    obtain ⟨magnitude, hdouble, hwhole, hplaces⟩ := d.exists_toDouble
    obtain ⟨hbeyond, hlimit⟩ := Number.nearest_eq_limit_of_le hlarge
    have hbelow : magnitude.value ≤ 2 ^ 96 ∧ (magnitude.value = 2 ^ 96 ↔
        d.scale = 0 ∧ coefficientLimit - 2 ^ 42 ≤ d.coefficient.natAbs) := by
      by_cases hscale : d.scale = 0
      · rw [hwhole hscale]
        simpa [hscale] using Number.nearest_eq_limit_of_lt d.coefficient_lt
      · have hsmall := hplaces hscale
        have hlt : magnitude.value < 2 ^ 96 := hsmall.trans_lt (by norm_num)
        exact ⟨hlt.le, iff_of_false hlt.ne fun h => hscale h.1⟩
    have hmerges : (decide (d.coefficient < 0) = decide (n < 0) ∧ magnitude.value = 2 ^ 96 ∧
        (Format.double.nearest n.natAbs 1).value = 2 ^ 96) ↔ d.MergesWith n := by
      rw [hbelow.2, hlimit, decide_eq_decide, Decimal.MergesWith, and_assoc]
      exact ⟨fun h => ⟨h.1, h.2.1, h.2.2.1, hlarge, h.2.2.2⟩,
        fun h => ⟨h.1, h.2.1, h.2.2.1, h.2.2.2.2⟩⟩
    rw [compareDecimals?_of_not_fits (x := decimal d) (y := big n) (.inr hfits)]
    simp only [compareDoubles?, toDouble, hdouble, BinaryFloat.ofInt, BinaryFloat.ofRatio]
    rw [Decimal.compare_value_of_limit d hlarge]
    split
    · next hinfinite =>
      -- no integer whose double is the limit is rounded to infinity
      have hapart : ¬ d.MergesWith n := by
        rintro ⟨-, -, -, -, hnear⟩
        have hfirst : n.natAbs < 2 ^ 97 := by
          rw [coefficientLimit] at hnear
          omega
        have hexponent := (Number.value_nearest_nat hlarge hfirst (by decide)).1
        have hcarry := Number.exponent_nearest_le Format.double n.natAbs 1
        rw [hexponent] at hcarry
        change _ ≤ max (-1074) (44 + 1) at hcarry
        change 971 < _ at hinfinite
        omega
      rw [if_neg hapart]
      by_cases hn : n < 0 <;> simp [BinaryFloat.compare?, hn]
    · rw [BinaryFloat.compare?_finite,
        Dyadic.compare_signedValue (by norm_num) hbelow.1 hbeyond, if_congr hmerges rfl rfl]
      by_cases hn : n < 0 <;> simp [hn]

end Numeric

end RowFilter
