import RowFilter.Literal.Basic

/-!
# Collation

The order in which values compare. Numbers of all kinds compare with each other, texts with each
other, points in time with each other, and dates with date-times; values of other pairs of kinds,
and absent values, have no order. `sortOrder` extends this to every pair of values for sorting.
-/

namespace RowFilter

open Number (BinaryFloat Decimal)
open Civil (DateTime)

/-- A number that a literal stands for. -/
inductive Numeric where
  /-- An integer of at most 64 bits. -/
  | int (n : Int)
  | big (n : Int)
  | decimal (d : Decimal)
  | float (x : BinaryFloat)
  deriving Repr, DecidableEq

namespace Numeric

/-- The number of a literal. -/
def ofLiteral? : Literal → Option Numeric
  | .i8 n => some (int n.toInt)
  | .i16 n => some (int n.toInt)
  | .i32 n => some (int n.toInt)
  | .i64 n => some (int n.toInt)
  | .bigInt n => some (big n)
  | .decimal d => some (decimal d)
  | .f32 x => some (float x)
  | .f64 x => some (float x)
  | _ => none

/-- The double nearest to a number. -/
def toDouble : Numeric → BinaryFloat
  | int n => .ofInt .double n
  | big n => .ofInt .double n
  | decimal d => d.toDouble
  | float x => x

/-- The order of the nearest doubles. -/
def compareDoubles? (a b : Numeric) : Option Ordering := a.toDouble.compare? b.toDouble

/-- The decimal of the same value, if there is one. A floating-point number is never taken for a
decimal. -/
def toDecimal? : Numeric → Option Decimal
  | int n => Decimal.ofInt? n
  | big n => Decimal.ofInt? n
  | decimal d => some d
  | float _ => none

/-- The order of the decimals of the same values, or that of the nearest doubles where a number fits
no decimal. -/
def compareDecimals? (a b : Numeric) : Option Ordering :=
  match a.toDecimal?, b.toDecimal? with
  | some d, some e => some (d.order e)
  | _, _ => compareDoubles? a b

/-- The order of two numbers. A comparison with a floating-point number goes by doubles, and one
with a decimal by decimals. -/
def compare? : Numeric → Numeric → Option Ordering
  | float x, b => compareDoubles? (float x) b
  | a, float y => compareDoubles? a (float y)
  | int a, int b | int a, big b | big a, int b | big a, big b => some (compare a b)
  | a, b => compareDecimals? a b

end Numeric

namespace Literal

/-- The order of two literals through the numbers, texts or points in time they stand for. -/
def collateAcrossKinds (a b : Literal) : Option Ordering :=
  match Numeric.ofLiteral? a, Numeric.ofLiteral? b with
  | some x, some y => x.compare? y
  | _, _ =>
    match a.characters?, b.characters? with
    | some s, some t => some (compare s t)
    | _, _ =>
      match a.instant?, b.instant? with
      | some i, some j => some (i.order j)
      | _, _ => none

/-- The order of two literals, if they have one. -/
def collate : Literal → Literal → Option Ordering
  | null, _ => none
  | _, null => none
  | bool a, bool b => some (compare a b)
  | uuid a, uuid b => some (a.order b)
  | date a, date b => some (a.order b)
  | time a, time b => some (a.order b)
  | dateTime a, dateTime b => some (a.order b)
  | date a, dateTime b => some ((DateTime.startOf a).order b)
  | dateTime a, date b => some (a.order (.startOf b))
  | a, b => collateAcrossKinds a b

/-- The order for sorting: absent values come last, and values without an order count as equal. -/
def sortOrder (a b : Literal) : Ordering :=
  match a.isNull, b.isNull with
  | true, true => .eq
  | true, false => .gt
  | false, true => .lt
  | false, false => (collate a b).getD .eq

end Literal

/-- One end of a range. -/
inductive RangeBound where
  | included (l : Literal)
  | excluded (l : Literal)
  | unbounded
  deriving Repr, DecidableEq

namespace RangeBound

/-- Whether a value is not below a lower end. -/
def admitsAbove (v : Literal) : RangeBound → Option Bool
  | unbounded => some true
  | included l => (v.collate l).map (· != .lt)
  | excluded l => (v.collate l).map (· == .gt)

/-- Whether a value is not above an upper end. -/
def admitsBelow (v : Literal) : RangeBound → Option Bool
  | unbounded => some true
  | included l => (v.collate l).map (· != .gt)
  | excluded l => (v.collate l).map (· == .lt)

end RangeBound

/-- Whether a value lies between two ends, unless a comparison has no answer. -/
def Literal.inRange? (v : Literal) (lower upper : RangeBound) : Option Bool := do
  let above ← lower.admitsAbove v
  let below ← upper.admitsBelow v
  some (above && below)

end RowFilter
