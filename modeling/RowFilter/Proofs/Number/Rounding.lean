import Mathlib.Data.Int.Log
import Mathlib.Data.Rat.Floor
import Mathlib.Tactic.FieldSimp
import Mathlib.Tactic.Positivity
import RowFilter.Proofs.Number.Value

/-!
# What rounding keeps

The nearest number of a binary format lies on the same side of each number of the format as the
exact value. So no rounding crosses a power of two, and a number of the format is rounded to itself.
-/

namespace RowFilter.Number

/-! ## Quotients -/

variable {num den m : Nat} {e unit : ℤ}

/-- A quotient is not rounded beyond a whole number above it, and neither beyond one below. -/
theorem divNearestEven_le (hden : 0 < den) (h : num ≤ m * den) : divNearestEven num den ≤ m := by
  have hdivision := Nat.div_add_mod num den
  have hrest := Nat.mod_lt num hden
  have hquotient : num / den ≤ m := by
    rw [Nat.div_le_iff_le_mul hden]
    omega
  unfold divNearestEven
  dsimp only
  split
  · exact hquotient
  · next hround =>
    rcases Nat.lt_or_ge (num / den) m with hlt | hge
    · exact hlt
    · -- the quotient is whole, and there is nothing to round
      have heq : num / den = m := Nat.le_antisymm hquotient hge
      rw [heq, Nat.mul_comm] at hdivision
      omega

theorem le_divNearestEven (hden : 0 < den) (h : m * den ≤ num) : m ≤ divNearestEven num den := by
  have hquotient : m ≤ num / den := (Nat.le_div_iff_mul_le hden).2 h
  unfold divNearestEven
  dsimp only
  split <;> omega

namespace Format

variable {f : Format}

/-- The exponent goes by the first bit of the exact value. -/
theorem exponentOf_eq (f : Format) (hnum : 0 < num) (hden : 0 < den) :
    f.exponentOf num den =
      max (Int.log 2 ((num : ℚ) / den) - f.precision + 1) f.minExponent := by
  have hdenpos : (0 : ℚ) < den := Nat.cast_pos.2 hden
  have hpos : (0 : ℚ) < (num : ℚ) / den := div_pos (Nat.cast_pos.2 hnum) hdenpos
  obtain ⟨k, hk⟩ : ∃ k : ℤ, (num.log2 : ℤ) - (den.log2 : ℤ) = k := ⟨_, rfl⟩
  have hnumlog : (2 : ℚ) ^ num.log2 ≤ num ∧ (num : ℚ) < 2 ^ (num.log2 + 1) := by
    exact_mod_cast And.intro (Nat.log2_self_le hnum.ne') Nat.lt_log2_self
  have hdenlog : (2 : ℚ) ^ den.log2 ≤ den ∧ (den : ℚ) < 2 ^ (den.log2 + 1) := by
    exact_mod_cast And.intro (Nat.log2_self_le hden.ne') Nat.lt_log2_self
  -- the lengths in bits give the logarithm or one more, and the code tells which by a comparison
  have hlow : (2 : ℚ) ^ (k - 1) ≤ (num : ℚ) / den := by
    rw [le_div_iff₀ hdenpos]
    calc (2 : ℚ) ^ (k - 1) * den ≤ 2 ^ (k - 1) * 2 ^ (den.log2 + 1) :=
          mul_le_mul_of_nonneg_left hdenlog.2.le (by positivity)
      _ = 2 ^ num.log2 := by
          rw [← zpow_natCast, ← zpow_natCast, ← zpow_add₀ (by norm_num)]
          congr 1
          omega
      _ ≤ num := hnumlog.1
  have hhigh : (num : ℚ) / den < 2 ^ (k + 1) := by
    rw [div_lt_iff₀ hdenpos]
    calc (num : ℚ) < 2 ^ (num.log2 + 1) := hnumlog.2
      _ = 2 ^ (k + 1) * 2 ^ den.log2 := by
          rw [← zpow_natCast, ← zpow_natCast, ← zpow_add₀ (by norm_num)]
          congr 1
          omega
      _ ≤ 2 ^ (k + 1) * den := mul_le_mul_of_nonneg_left hdenlog.1 (by positivity)
  have hreaches : den * pow2 k.toNat ≤ num * pow2 (-k).toNat ↔ (2 : ℚ) ^ k ≤ (num : ℚ) / den := by
    have hpower : (0 : ℚ) < pow2 (-k).toNat := Nat.cast_pos.2 (pow2_pos _)
    rw [le_div_iff₀ hdenpos, ← pow2_div_pow2 k, div_mul_eq_mul_div, div_le_iff₀ hpower,
      mul_comm (pow2 k.toNat : ℚ)]
    exact_mod_cast Iff.rfl
  have hlog : Int.log 2 ((num : ℚ) / den) = if den * pow2 k.toNat ≤ num * pow2 (-k).toNat
      then k else k - 1 := by
    have hat (l : ℤ) : (2 : ℚ) ^ l ≤ (num : ℚ) / den ↔ l ≤ Int.log 2 ((num : ℚ) / den) :=
      Int.zpow_le_iff_le_log (b := 2) (by decide) hpos
    have hupper : ¬ k + 1 ≤ Int.log 2 ((num : ℚ) / den) := by
      rw [← hat]
      exact not_le.2 hhigh
    have hlower : k - 1 ≤ Int.log 2 ((num : ℚ) / den) := (hat _).1 hlow
    split
    · next hreach =>
      have hk := (hat _).1 (hreaches.1 hreach)
      omega
    · next hreach =>
      have hk : ¬ k ≤ Int.log 2 ((num : ℚ) / den) := by
        rw [← hat, ← hreaches]
        exact hreach
      omega
  unfold exponentOf
  simp only [hk, hlog]
  split
  · rfl
  · congr 1
    omega

/-- The exact value over a unit, as the quotient that is rounded. -/
theorem scaled_div (num den : Nat) (e : ℤ) :
    ((num * pow2 (-e).toNat : Nat) : ℚ) / (den * pow2 e.toNat : Nat) = (num : ℚ) / den / 2 ^ e := by
  rw [← pow2_div_pow2 e, Nat.cast_mul, Nat.cast_mul]
  field_simp

/-- The nearest number is a whole number of units. -/
theorem value_nearest (hprecision : 0 < f.precision) (hnum : 0 < num) :
    (f.nearest num den).value =
      divNearestEven (num * pow2 (-f.exponentOf num den).toNat)
        (den * pow2 (f.exponentOf num den).toNat) * 2 ^ f.exponentOf num den := by
  unfold nearest
  simp only [if_neg hnum.ne']
  split
  · next hfull =>
    have hcarry : ((f.precision - 1 : Nat) : ℤ) + (f.exponentOf num den + 1) =
        (f.precision : ℤ) + f.exponentOf num den := by omega
    rw [hfull, Dyadic.value]
    simp only [cast_pow2]
    rw [← zpow_natCast, ← zpow_natCast, ← zpow_add₀ (by norm_num), ← zpow_add₀ (by norm_num),
      hcarry]
  · rfl

/-- A number of the format is a whole number of units, or the first bit of the exact value is beyond
it, and that is a whole number of units. -/
theorem exists_units (hprecision : 0 < f.precision) (hnum : 0 < num) (hden : 0 < den)
    (hunit : f.exponentOf num den = unit) (hm : m ≤ pow2 f.precision) (he : f.minExponent ≤ e) :
    ∃ count : Nat, (count : ℚ) * 2 ^ unit = m * 2 ^ e ∨
      (m : ℚ) * 2 ^ e ≤ count * 2 ^ unit ∧ (count : ℚ) * 2 ^ unit ≤ (num : ℚ) / den := by
  rcases Int.lt_or_le e unit with hlt | hle
  · -- the unit is coarser than that of the number, so the first bit of the exact value is beyond it
    rw [exponentOf_eq f hnum hden] at hunit
    have hpower : ((pow2 (f.precision - 1) : Nat) : ℚ) * 2 ^ unit =
        2 ^ Int.log 2 ((num : ℚ) / den) := by
      rw [cast_pow2, ← zpow_natCast, ← zpow_add₀ (by norm_num)]
      congr 1
      omega
    refine ⟨pow2 (f.precision - 1), .inr ⟨?_, ?_⟩⟩
    · calc (m : ℚ) * 2 ^ e ≤ pow2 f.precision * 2 ^ e :=
            mul_le_mul_of_nonneg_right (Nat.cast_le.2 hm) (zpow_nonneg (by norm_num) _)
        _ = 2 ^ (f.precision + e) := by
            rw [cast_pow2, ← zpow_natCast, ← zpow_add₀ (by norm_num)]
        _ ≤ 2 ^ Int.log 2 ((num : ℚ) / den) := zpow_le_zpow_right₀ (by norm_num) (by omega)
        _ = pow2 (f.precision - 1) * 2 ^ unit := hpower.symm
    · rw [hpower]
      exact Int.zpow_log_le_self (by decide) (div_pos (Nat.cast_pos.2 hnum) (Nat.cast_pos.2 hden))
  · refine ⟨m * pow2 (e - unit).toNat, .inl ?_⟩
    rw [Nat.cast_mul, cast_pow2, mul_assoc, ← zpow_natCast, ← zpow_add₀ (by norm_num)]
    congr 2
    omega

theorem nearest_le_units (hprecision : 0 < f.precision) (hnum : 0 < num) (hden : 0 < den)
    (hunit : f.exponentOf num den = unit) (h : (num : ℚ) / den ≤ m * 2 ^ unit) :
    (f.nearest num den).value ≤ m * 2 ^ unit := by
  have hpos : (0 : ℚ) < 2 ^ unit := zpow_pos (by norm_num) _
  have hdenunit : 0 < den * pow2 unit.toNat := Nat.mul_pos hden (pow2_pos _)
  rw [value_nearest hprecision hnum, hunit]
  rw [← div_le_iff₀ hpos, ← scaled_div, div_le_iff₀ (Nat.cast_pos.2 hdenunit)] at h
  exact mul_le_mul_of_nonneg_right
    (Nat.cast_le.2 (divNearestEven_le hdenunit (by exact_mod_cast h))) hpos.le

theorem units_le_nearest (hprecision : 0 < f.precision) (hnum : 0 < num) (hden : 0 < den)
    (hunit : f.exponentOf num den = unit) (h : m * 2 ^ unit ≤ (num : ℚ) / den) :
    m * 2 ^ unit ≤ (f.nearest num den).value := by
  have hpos : (0 : ℚ) < 2 ^ unit := zpow_pos (by norm_num) _
  have hdenunit : 0 < den * pow2 unit.toNat := Nat.mul_pos hden (pow2_pos _)
  rw [value_nearest hprecision hnum, hunit]
  rw [← le_div_iff₀ hpos, ← scaled_div, le_div_iff₀ (Nat.cast_pos.2 hdenunit)] at h
  exact mul_le_mul_of_nonneg_right
    (Nat.cast_le.2 (le_divNearestEven hdenunit (by exact_mod_cast h))) hpos.le

/-- Nothing is rounded beyond a number of the format above it, and neither beyond one below. -/
theorem nearest_le (hprecision : 0 < f.precision) (hden : 0 < den) (hm : m ≤ pow2 f.precision)
    (he : f.minExponent ≤ e) (h : (num : ℚ) / den ≤ m * 2 ^ e) :
    (f.nearest num den).value ≤ m * 2 ^ e := by
  rcases Nat.eq_zero_or_pos num with rfl | hnum
  · have hzero : (f.nearest 0 den).value = 0 := by simp [nearest, Dyadic.value]
    rw [hzero]
    exact mul_nonneg (Nat.cast_nonneg _) (zpow_nonneg (by norm_num) _)
  · obtain ⟨count, heq | ⟨habove, hbelow⟩⟩ := exists_units hprecision hnum hden rfl hm he
    · rw [← heq] at h ⊢
      exact nearest_le_units hprecision hnum hden rfl h
    · exact (nearest_le_units hprecision hnum hden rfl (h.trans habove)).trans (hbelow.trans h)

theorem le_nearest (hprecision : 0 < f.precision) (hden : 0 < den) (hm : m ≤ pow2 f.precision)
    (he : f.minExponent ≤ e) (h : m * 2 ^ e ≤ (num : ℚ) / den) :
    m * 2 ^ e ≤ (f.nearest num den).value := by
  rcases Nat.eq_zero_or_pos num with rfl | hnum
  · rw [Nat.cast_zero, zero_div] at h
    exact h.trans (Dyadic.value_nonneg _)
  · obtain ⟨count, heq | ⟨habove, hbelow⟩⟩ := exists_units hprecision hnum hden rfl hm he
    · rw [← heq] at h ⊢
      exact units_le_nearest hprecision hnum hden rfl h
    · exact habove.trans (units_le_nearest hprecision hnum hden rfl hbelow)

/-- A number of the format is rounded to itself. -/
theorem nearest_eq (hprecision : 0 < f.precision) (hden : 0 < den) (hm : m ≤ pow2 f.precision)
    (he : f.minExponent ≤ e) (h : (num : ℚ) / den = m * 2 ^ e) :
    (f.nearest num den).value = m * 2 ^ e :=
  le_antisymm (nearest_le hprecision hden hm he h.le) (le_nearest hprecision hden hm he h.ge)

end Format

end RowFilter.Number
