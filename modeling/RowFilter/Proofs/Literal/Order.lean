import RowFilter.Literal.Collation

/-!
# The order of literals

Exchanging two literals turns their order around, for all pairs of kinds. Whether the order for
sorting is transitive is another question: a value without an order counts as equal to all others.
-/

namespace RowFilter

open Number (BinaryFloat Decimal)
open Civil (Date Time DateTime Instant)

theorem compare_swap {α : Type} [Ord α] [Std.OrientedOrd α] (a b : α) :
    compare b a = (compare a b).swap :=
  Std.OrientedCmp.eq_swap

theorem Number.BinaryFloat.compare?_swap (x y : BinaryFloat) :
    y.compare? x = (x.compare? y).map Ordering.swap := by
  cases x with
  | nan => cases y <;> rfl
  | infinite negative =>
    cases y with
    | nan => rfl
    | infinite other => exact congrArg some (compare_swap _ _)
    | finite other e => cases negative <;> rfl
  | finite negative d =>
    cases y with
    | nan => rfl
    | infinite other => cases other <;> rfl
    | finite other e =>
      have hunit : min e.exponent d.exponent = min d.exponent e.exponent := Int.min_comm _ _
      simp only [compare?, Option.map_some, hunit]
      exact congrArg some (compare_swap _ _)

theorem Number.Decimal.order_swap (x y : Decimal) : y.order x = (x.order y).swap := by
  unfold order
  rw [Nat.max_comm]
  exact compare_swap _ _

theorem Civil.Date.order_swap (a b : Date) : b.order a = (a.order b).swap := compare_swap _ _

theorem Civil.Time.order_swap (a b : Time) : b.order a = (a.order b).swap := by
  unfold order
  rw [Ordering.swap_then, compare_swap a.second.val, compare_swap a.nanos.val]

theorem Civil.DateTime.order_swap (a b : DateTime) : b.order a = (a.order b).swap := by
  unfold order
  rw [Ordering.swap_then, Date.order_swap a.date, Time.order_swap a.time]

namespace Numeric

variable {x y : Numeric}

theorem compareDecimals?_of_fits {d e : Decimal} (hx : x.toDecimal? = some d)
    (hy : y.toDecimal? = some e) : x.compareDecimals? y = some (d.order e) := by
  rw [compareDecimals?, hx, hy]

theorem compareDecimals?_of_not_fits (h : x.toDecimal? = none ∨ y.toDecimal? = none) :
    x.compareDecimals? y = x.compareDoubles? y := by
  unfold compareDecimals?
  split
  · next hx hy => simp [hx, hy] at h
  · rfl

theorem compareDoubles?_swap (x y : Numeric) :
    y.compareDoubles? x = (x.compareDoubles? y).map Ordering.swap :=
  BinaryFloat.compare?_swap _ _

theorem compareDecimals?_swap (x y : Numeric) :
    y.compareDecimals? x = (x.compareDecimals? y).map Ordering.swap := by
  cases hx : x.toDecimal? with
  | none =>
    rw [compareDecimals?_of_not_fits (.inl hx), compareDecimals?_of_not_fits (.inr hx)]
    exact compareDoubles?_swap x y
  | some d =>
    cases hy : y.toDecimal? with
    | none =>
      rw [compareDecimals?_of_not_fits (.inr hy), compareDecimals?_of_not_fits (.inl hy)]
      exact compareDoubles?_swap x y
    | some e =>
      rw [compareDecimals?_of_fits hx hy, compareDecimals?_of_fits hy hx]
      exact congrArg some (Decimal.order_swap d e)

theorem compare?_swap (x y : Numeric) : y.compare? x = (x.compare? y).map Ordering.swap := by
  have hdoubles := compareDoubles?_swap x y
  have hdecimals := compareDecimals?_swap x y
  cases x with
  | float a => cases y <;> exact hdoubles
  | int a | big a =>
    cases y with
    | float b => exact hdoubles
    | int b | big b => exact congrArg some (compare_swap _ _)
    | decimal b => exact hdecimals
  | decimal a =>
    cases y with
    | float b => exact hdoubles
    | int b | big b | decimal b => exact hdecimals

end Numeric

namespace Literal

theorem collateAcrossKinds_swap (a b : Literal) :
    collateAcrossKinds b a = (collateAcrossKinds a b).map Ordering.swap := by
  unfold collateAcrossKinds
  cases Numeric.ofLiteral? a <;> cases Numeric.ofLiteral? b <;>
    cases a.characters? <;> cases b.characters? <;> cases a.instant? <;> cases b.instant? <;>
      first
      | rfl
      | exact Numeric.compare?_swap _ _
      | exact congrArg some (compare_swap _ _)
      | exact congrArg some (DateTime.order_swap _ _)

/-- Exchanging two literals turns their order around. -/
theorem collate_swap (a b : Literal) : b.collate a = (a.collate b).map Ordering.swap := by
  have hacross := collateAcrossKinds_swap a b
  cases a <;> cases b <;>
    first
    | rfl
    | exact hacross
    | exact congrArg some (compare_swap _ _)
    | exact congrArg some (Date.order_swap _ _)
    | exact congrArg some (Time.order_swap _ _)
    | exact congrArg some (DateTime.order_swap _ _)

/-- An absent value has no order with any other. -/
theorem collate_eq_none {a b : Literal} (h : a.isNull = true ∨ b.isNull = true) :
    a.collate b = none := by
  rcases h with h | h
  · cases a <;> cases h
    rfl
  · cases b <;> cases h
    cases a <;> rfl

theorem sortOrder_swap (a b : Literal) : b.sortOrder a = (a.sortOrder b).swap := by
  unfold sortOrder
  rw [collate_swap a b]
  cases a.isNull <;> cases b.isNull <;> cases a.collate b <;> rfl

end Literal

end RowFilter
