import RowFilter.Proofs.Literal.SortOrder
import RowFilter.Proofs.Query.Evaluation
import RowFilter.Proofs.Store.RowOrder

/-!
# Exchanged sides

Exchanging two values turns their order around, whatever branch of the comparison finds it: a date
beside a date-time, a decimal beside an integer, a number beside a floating-point one. So an order
in which every column is turned around runs backwards, and a comparison keeps its truth when its
sides are exchanged and its operator is turned around with them.
-/

namespace RowFilter

/-! ## Columns turned around -/

/-- The column in the other direction. -/
def OrderItem.reversed (item : OrderItem) : OrderItem :=
  { item with
    direction :=
      match item.direction with
      | .ascending => .descending
      | .descending => .ascending }

theorem Row.compareColumn_reversed (item : OrderItem) (a b : Row) :
    compareColumn item.reversed a b = (compareColumn item a b).swap := by
  rw [← compareColumn_swap]
  unfold compareColumn OrderItem.reversed
  cases item.direction <;> rfl

/-- An order in which every column is turned around runs backwards. -/
theorem Row.compareColumns_reversed (items : List OrderItem) (a b : Row) :
    compareColumns (items.map OrderItem.reversed) a b = (compareColumns items a b).swap := by
  induction items with
  | nil => rfl
  | cons item rest ih =>
    rw [List.map_cons, compareColumns, compareColumns, compareColumn_reversed, ih,
      Ordering.swap_then]

/-! ## Comparisons turned around -/

namespace Comparison

/-- The operator for exchanged sides. -/
def mirrored : Comparison → Comparison
  | greaterThan => lessThan
  | greaterThanOrEqual => lessThanOrEqual
  | lessThan => greaterThan
  | lessThanOrEqual => greaterThanOrEqual
  | operator => operator

theorem holds_mirrored (operator : Comparison) (o : Ordering) :
    operator.mirrored.holds o.swap = operator.holds o := by
  cases operator <;> cases o <;> rfl

theorem mirrored_ne_isIn {operator : Comparison} (h : operator ≠ isIn) :
    operator.mirrored ≠ isIn := by
  cases operator with
  | isIn => exact h
  | _ => exact nofun

end Comparison

namespace Predicate

/-- The predicate with the sides of its comparisons exchanged. The list of a membership test stays
on the right. -/
def exchanged : Predicate → Predicate
  | compare left .isIn right => compare left .isIn right
  | compare left operator right => compare right operator.mirrored left
  | and left right => and left.exchanged right.exchanged
  | or left right => or left.exchanged right.exchanged
  | not inner => not inner.exchanged
  | p => p

variable {R : Type} [Filterable R] {b : Binding R} {operator : Comparison}

theorem toOption_collateOrMismatch (l r : Literal) :
    (collateOrMismatch l r).toOption = l.collate r := by
  unfold collateOrMismatch
  cases l.collate r <;> rfl

/-- The truth of a comparison, if both sides have a value. -/
theorem toOption_evaluate_compare (hoperator : operator ≠ .isIn) (left right : Expr) :
    ((compare left operator right).evaluate b).toOption =
      (left.evaluate b).toOption.bind fun l => (right.evaluate b).toOption.bind fun r =>
        if l.isNull || r.isNull then some none else (l.collate r).map (some ∘ operator.holds) := by
  rw [evaluate_compare hoperator, toOption_bind]
  congr 1
  funext l
  rw [toOption_bind]
  congr 1
  funext r
  rw [apply_ite Except.toOption, toOption_bind, toOption_collateOrMismatch]
  cases l.collate r <;> rfl

theorem toOption_evaluate_mirrored (hoperator : operator ≠ .isIn) (left right : Expr) :
    ((compare right operator.mirrored left).evaluate b).toOption =
      ((compare left operator right).evaluate b).toOption := by
  rw [toOption_evaluate_compare (Comparison.mirrored_ne_isIn hoperator),
    toOption_evaluate_compare hoperator, Option.bind_comm]
  congr 1
  funext l
  congr 1
  funext r
  rw [Bool.or_comm, Literal.collate_swap l r, Option.map_map]
  congr 2
  funext o
  exact congrArg some (operator.holds_mirrored o)

/-- A predicate keeps its truth when the sides of its comparisons are exchanged. -/
theorem toOption_evaluate_exchanged (p : Predicate) :
    (p.exchanged.evaluate b).toOption = (p.evaluate b).toOption := by
  induction p with
  | compare left operator right =>
    by_cases hoperator : operator = .isIn
    · rw [hoperator, exchanged]
    · rw [exchanged, toOption_evaluate_mirrored hoperator]
      exact hoperator
  | and left right ihleft ihright =>
    refine toOption_bind_congr ihleft fun l => ?_
    split
    · rfl
    · exact toOption_bind_congr ihright fun _ => rfl
  | or left right ihleft ihright =>
    refine toOption_bind_congr ihleft fun l => ?_
    split
    · rfl
    · exact toOption_bind_congr ihright fun _ => rfl
  | not inner ih => exact toOption_bind_congr ih fun _ => rfl
  | like | between | isNull | true | false => rfl

theorem toOption_isTrueUnderSome_exchanged (p : Predicate) (bindings : List (Binding R)) :
    (p.exchanged.isTrueUnderSome bindings).toOption = (p.isTrueUnderSome bindings).toOption := by
  induction bindings with
  | nil => rfl
  | cons b rest ih =>
    refine toOption_bind_congr (toOption_evaluate_exchanged p) fun t => ?_
    split
    · rfl
    · exact ih

/-- A record passes a predicate whichever way around its comparisons are written. -/
theorem toOption_passes_exchanged (record : R) (p : Predicate) (joins : List Join) :
    (p.exchanged.passes record joins).toOption = (p.passes record joins).toOption :=
  toOption_bind_congr rfl (toOption_isTrueUnderSome_exchanged p)

end Predicate

/-- **Exchanging two values turns their order around**, of whatever kinds they are, and they have an
order just if they are of one family. So rows are compared backwards when every column of their
order is turned around, and a row passes a predicate, or cannot be decided, whichever way around its
comparisons are written. -/
theorem Literal.collate_exchanged :
    (∀ a b : Literal,
      b.collate a = (a.collate b).map Ordering.swap ∧
        (b.collate a = none ↔ a.collate b = none) ∧ (a.collate b ≠ none ↔ a.OfOneFamily b)) ∧
      (∀ (items : List OrderItem) (x y : Row),
        Row.compareColumns (items.map OrderItem.reversed) x y =
          (Row.compareColumns items x y).swap) ∧
      ∀ (row : Row) (p : Predicate) (joins : List Join),
        (p.exchanged.passes row joins).toOption = (p.passes row joins).toOption := by
  refine ⟨fun a b => ⟨collate_swap a b, ?_, collate_ne_none_iff⟩, Row.compareColumns_reversed,
    Predicate.toOption_passes_exchanged⟩
  rw [collate_swap a b, Option.map_eq_none_iff]

end RowFilter
