import Mathlib.Algebra.Order.Field.Power
import Mathlib.Algebra.Order.Field.Rat
import Mathlib.Data.Rat.Cast.Order
import Mathlib.Order.Compare
import Mathlib.Order.WithBot
import RowFilter.Proofs.Literal.Ranking

/-!
# Numbers and their values

The value of a decimal is a rational number, and that of a floating-point number is one as well, or
lies beyond all of them. Decimals compare as their values do, and so do floating-point numbers that
have one.
-/

namespace RowFilter.Number

theorem cast_pow2 (n : Nat) : (pow2 n : ℚ) = 2 ^ n := by
  rw [pow2, Nat.pow_eq, Nat.cast_pow, Nat.cast_ofNat]

theorem pow2_pos (n : Nat) : 0 < pow2 n := Nat.pow_pos (by decide)

/-- A power of two with a negative exponent is a denominator. -/
theorem pow2_div_pow2 (e : ℤ) : (pow2 e.toNat : ℚ) / pow2 (-e).toNat = 2 ^ e := by
  rw [cast_pow2, cast_pow2, ← zpow_natCast, ← zpow_natCast, ← zpow_sub₀ (by norm_num)]
  congr 1
  omega

/-- A map that keeps the order keeps the results of comparisons. -/
theorem compare_map {α β : Type} [LinearOrder α] [LinearOrder β] {f : α → β} (hf : StrictMono f)
    (a b : α) : compare (f a) (f b) = compare a b := by
  rw [← cmp_eq_compare, ← cmp_eq_compare, hf.cmp_map_eq]

/-! ## Decimals -/

namespace Decimal

/-- The value of a decimal. -/
def value (d : Decimal) : ℚ := d.coefficient / 10 ^ d.scale

theorem cast_coefficientAt (d : Decimal) {scale : Nat} (h : d.scale ≤ scale) :
    (d.coefficientAt scale : ℚ) = d.value * 10 ^ scale := by
  have hsplit : (10 : ℚ) ^ scale = 10 ^ d.scale * 10 ^ (scale - d.scale) := by
    rw [← pow_add, Nat.add_sub_cancel' h]
  have hcast : ((pow10 (scale - d.scale) : Nat) : ℚ) = 10 ^ (scale - d.scale) := by
    rw [pow10, Nat.pow_eq, Nat.cast_pow, Nat.cast_ofNat]
  rw [coefficientAt, Int.cast_mul, Int.cast_natCast, hcast, value, hsplit, ← mul_assoc,
    div_mul_cancel₀ _ (pow_ne_zero _ (by norm_num))]

/-- Decimals compare as their values do. -/
theorem order_eq_compare (x y : Decimal) : x.order y = compare x.value y.value := by
  have hscale : StrictMono fun p : ℚ => p * 10 ^ 28 := fun p q h =>
    mul_lt_mul_of_pos_right h (by norm_num)
  rw [order_eq x y x.scale_le y.scale_le, ← compare_map (Int.cast_strictMono (R := ℚ)),
    cast_coefficientAt x x.scale_le, cast_coefficientAt y y.scale_le, compare_map hscale]

/-- A whole number is a decimal as long as it fits a coefficient. -/
theorem ofInt?_eq_none {n : Int} :
    ofInt? n = none ↔ 79228162514264337593543950336 ≤ n.natAbs := by
  unfold ofInt? make?
  split <;> simp <;> omega

theorem value_of_ofInt? {n : Int} {d : Decimal} (h : ofInt? n = some d) : d.value = n := by
  unfold ofInt? make? at h
  split at h
  · cases h
    simp [value]
  · cases h

end Decimal

/-! ## Floating-point numbers -/

namespace Dyadic

/-- The magnitude itself. -/
def value (d : Dyadic) : ℚ := d.mantissa * 2 ^ d.exponent

theorem num_div_den (d : Dyadic) : (d.num : ℚ) / d.den = d.value := by
  rw [num, den, value, Nat.cast_mul, mul_div_assoc, pow2_div_pow2]

theorem den_pos (d : Dyadic) : 0 < d.den := pow2_pos _

theorem value_nonneg (d : Dyadic) : 0 ≤ d.value :=
  mul_nonneg (Nat.cast_nonneg _) (zpow_nonneg (by norm_num) _)

/-- The magnitude with a sign. -/
def signedValue (negative : Bool) (d : Dyadic) : ℚ := if negative then -d.value else d.value

end Dyadic

/-- A rational number, or what lies beyond all of them in either direction. -/
abbrev Extended := WithBot (WithTop ℚ)

/-- A rational number among those and what lies beyond. -/
def Extended.ofRat (q : ℚ) : Extended := ((q : WithTop ℚ) : WithBot (WithTop ℚ))

theorem Extended.strictMono_ofRat : StrictMono Extended.ofRat := fun _ _ h =>
  WithBot.coe_lt_coe.2 (WithTop.coe_lt_coe.2 h)

namespace BinaryFloat

/-- The value of a floating-point number, unless it is none. -/
def value? : BinaryFloat → Option Extended
  | nan => none
  | infinite negative => some (if negative then ⊥ else (⊤ : WithTop ℚ))
  | finite negative d => some (.ofRat (d.signedValue negative))

theorem cast_scaled (negative : Bool) (d : Dyadic) {unit : ℤ} (h : unit ≤ d.exponent) :
    (scaled negative d unit : ℚ) * 2 ^ unit = d.signedValue negative := by
  have hmagnitude : ((d.mantissa * pow2 (d.exponent - unit).toNat : ℤ) : ℚ) * 2 ^ unit =
      d.value := by
    rw [Int.cast_mul, Int.cast_natCast, Int.cast_natCast, cast_pow2, Dyadic.value, mul_assoc,
      ← zpow_natCast, ← zpow_add₀ (by norm_num)]
    congr 2
    omega
  unfold scaled Dyadic.signedValue
  dsimp only
  split
  · rw [Int.cast_neg, neg_mul, hmagnitude]
  · exact hmagnitude

theorem compare?_finite (negative other : Bool) (d e : Dyadic) :
    (finite negative d).compare? (finite other e) =
      some (compare (d.signedValue negative) (e.signedValue other)) := by
  have hunit : StrictMono fun p : ℚ => p * 2 ^ min d.exponent e.exponent := fun p q h =>
    mul_lt_mul_of_pos_right h (zpow_pos (by norm_num) _)
  rw [← cast_scaled negative d (min_le_left d.exponent e.exponent),
    ← cast_scaled other e (min_le_right d.exponent e.exponent), compare_map hunit,
    compare_map (Int.cast_strictMono (R := ℚ))]
  rfl

/-- Floating-point numbers compare as their values do. -/
theorem compare?_eq {x y : BinaryFloat} {p q : Extended} (hx : x.value? = some p)
    (hy : y.value? = some q) : x.compare? y = some (compare p q) := by
  cases x with
  | nan => cases hx
  | infinite negative =>
    cases hx
    cases y with
    | nan => cases hy
    | infinite other =>
      cases hy
      cases negative <;> cases other <;> rfl
    | finite other e =>
      cases hy
      cases negative <;> rfl
  | finite negative d =>
    cases hx
    cases y with
    | nan => cases hy
    | infinite other =>
      cases hy
      cases other <;> rfl
    | finite other e =>
      cases hy
      rw [compare?_finite, compare_map Extended.strictMono_ofRat]

theorem compare?_eq_none {x y : BinaryFloat} : x.compare? y = none ↔ x = nan ∨ y = nan := by
  cases x <;> cases y <;> simp [compare?]

end BinaryFloat

end RowFilter.Number
