import RowFilter.Proofs.Literal.Kind
import RowFilter.Proofs.Literal.Order

/-!
# Values of one kind are ranked

The order of two literals of one kind, floating-point numbers apart, is transitive, and so is the
order for sorting among such literals and absent ones. Values of several kinds are another matter:
those without an order count as equal to all others.
-/

namespace RowFilter

open Number (Decimal)
open Civil (Date Time DateTime Instant)

theorem transCmp_comap {α β : Type} (f : α → β) (cmp : β → β → Ordering) [Std.TransCmp cmp] :
    Std.TransCmp fun a b => cmp (f a) (f b) where
  eq_swap := Std.OrientedCmp.eq_swap
  isLE_trans := Std.TransCmp.isLE_trans

instance : Std.TransCmp Uuid.order := transCmp_comap (fun u : Uuid => u.bits.toNat) compare

instance : Std.TransCmp Date.order := transCmp_comap Date.days compare

instance : Std.TransCmp Time.order :=
  inferInstanceAs (Std.TransCmp (compareLex (compareOn fun t : Time => t.second.val)
    (compareOn fun t : Time => t.nanos.val)))

instance : Std.TransCmp DateTime.order :=
  have := transCmp_comap DateTime.date Date.order
  have := transCmp_comap DateTime.time Time.order
  inferInstanceAs (Std.TransCmp (compareLex (fun a b : DateTime => a.date.order b.date)
    fun a b => a.time.order b.time))

instance : Std.TransCmp Instant.order := transCmp_comap Instant.utc DateTime.order

namespace Number

theorem Decimal.coefficientAt_of_le (x : Decimal) {m scale : Nat} (hx : x.scale ≤ m)
    (hm : m ≤ scale) : x.coefficientAt scale = x.coefficientAt m * pow10 (scale - m) := by
  have hexponent : scale - x.scale = m - x.scale + (scale - m) := by omega
  simp only [coefficientAt, pow10, Nat.pow_eq, hexponent, Nat.pow_add, Int.natCast_mul,
    Int.mul_assoc]

theorem compare_mul_right (m n : Int) {k : Int} (hk : 0 < k) :
    compare (m * k) (n * k) = compare m n := by
  rcases Int.lt_trichotomy m n with h | rfl | h
  · rw [Int.compare_eq_lt.2 h, Int.compare_eq_lt.2 (Int.mul_lt_mul_of_pos_right h hk)]
  · simp
  · rw [Int.compare_eq_gt.2 h, Int.compare_eq_gt.2 (Int.mul_lt_mul_of_pos_right h hk)]

/-- The order of two decimals is that of their coefficients over any scale that both fit. -/
theorem Decimal.order_eq (x y : Decimal) {scale : Nat} (hx : x.scale ≤ scale)
    (hy : y.scale ≤ scale) :
    x.order y = compare (x.coefficientAt scale) (y.coefficientAt scale) := by
  have hscale : max x.scale y.scale ≤ scale := Nat.max_le.2 ⟨hx, hy⟩
  have hpower : (0 : Int) < pow10 (scale - max x.scale y.scale) := by
    exact Int.natCast_pos.2 (Nat.pow_pos (by decide))
  rw [x.coefficientAt_of_le (Nat.le_max_left _ _) hscale,
    y.coefficientAt_of_le (Nat.le_max_right _ _) hscale, compare_mul_right _ _ hpower]
  rfl

instance : Std.TransCmp Decimal.order := by
  have heq : Decimal.order = fun x y => compare (x.coefficientAt 28) (y.coefficientAt 28) := by
    funext x y
    exact Decimal.order_eq x y x.scale_le y.scale_le
  rw [heq]
  exact transCmp_comap (fun x : Decimal => x.coefficientAt 28) compare

end Number

namespace Literal

variable {a b c : Literal} {kind : ScalarKind}

theorem some_ne_gt_trans {α : Type} {cmp : α → α → Ordering} [Std.TransCmp cmp] {x y z : α}
    (hxy : some (cmp x y) ≠ some .gt) (hyz : some (cmp y z) ≠ some .gt) :
    some (cmp x z) ≠ some .gt := by
  simp only [ne_eq, Option.some.injEq, ← Ordering.isLE_iff_ne_gt] at *
  exact Std.TransCmp.isLE_trans hxy hyz

theorem collate_trans (hkind : kind.isOrdered = true) (ha : a.kind? = some kind)
    (hb : b.kind? = some kind) (hc : c.kind? = some kind) (hab : a.collate b ≠ some .gt)
    (hbc : b.collate c ≠ some .gt) : a.collate c ≠ some .gt := by
  cases a <;> cases ha <;> cases hkind <;> cases b <;> cases hb <;> cases c <;> cases hc <;>
    exact some_ne_gt_trans hab hbc

theorem sortOrder_ne_gt_of_present (h : b.isNull = false) :
    a.sortOrder b ≠ .gt ↔ a.isNull = false ∧ a.collate b ≠ some .gt := by
  unfold sortOrder
  rw [h]
  cases a.isNull <;> cases a.collate b <;> simp

/-- Among absent values and values of one kind that has an order, the order for sorting is
transitive. -/
theorem sortOrder_trans (hkind : kind.isOrdered = true) (ha : a.Fits kind) (hb : b.Fits kind)
    (hc : c.Fits kind) (hab : a.sortOrder b ≠ .gt) (hbc : b.sortOrder c ≠ .gt) :
    a.sortOrder c ≠ .gt := by
  cases hnull : c.isNull with
  | true =>
    -- everything comes before an absent value
    unfold sortOrder
    rw [hnull]
    cases a.isNull <;> simp
  | false =>
    obtain ⟨hbpresent, hbc⟩ := (sortOrder_ne_gt_of_present hnull).1 hbc
    obtain ⟨hapresent, hab⟩ := (sortOrder_ne_gt_of_present hbpresent).1 hab
    refine (sortOrder_ne_gt_of_present hnull).2 ⟨hapresent, ?_⟩
    exact collate_trans hkind (ha.kind_of_not_null hapresent) (hb.kind_of_not_null hbpresent)
      (hc.kind_of_not_null hnull) hab hbc

end Literal

end RowFilter
