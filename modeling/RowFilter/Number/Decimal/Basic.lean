import RowFilter.Number.Digits
import RowFilter.Number.BinaryFloat.Basic

/-!
# Fixed-point decimals

A decimal is a whole coefficient of at most 96 bits over a power of ten of at most 28. The power
is part of how the decimal is written (`10.50` keeps its last zero) but not of its value.
-/

namespace RowFilter.Number

/-- The number `coefficient / 10 ^ scale`. The coefficient has at most 96 bits. -/
structure Decimal where
  coefficient : Int
  scale : Nat
  coefficient_lt : coefficient.natAbs < 79228162514264337593543950336
  scale_le : scale ≤ 28
  deriving Repr, DecidableEq

namespace Decimal

/-- The decimal with this coefficient and scale, if both are in range. -/
def make? (coefficient : Int) (scale : Nat) : Option Decimal :=
  if h : coefficient.natAbs < 79228162514264337593543950336 ∧ scale ≤ 28 then
    some ⟨coefficient, scale, h.1, h.2⟩
  else
    none

/-- A whole number as a decimal, if it is in range. -/
def ofInt? (i : Int) : Option Decimal := make? i 0

/-- The coefficient over another scale that is not smaller. -/
def coefficientAt (d : Decimal) (scale : Nat) : Int := d.coefficient * pow10 (scale - d.scale)

/-- The order of the values. -/
def order (x y : Decimal) : Ordering :=
  let scale := max x.scale y.scale
  compare (x.coefficientAt scale) (y.coefficientAt scale)

/-- Equality of values: `1.0` equals `1.00`. -/
def equal (x y : Decimal) : Bool := order x y == .eq

/-- The double that stands for a decimal in comparisons with floating-point numbers. The whole part
and the fraction are rounded on their own; their sum is then rounded back to as many places as the
decimal has. -/
def toDouble (d : Decimal) : BinaryFloat :=
  let f := Format.double
  let negative : Bool := d.coefficient < 0
  let magnitude := d.coefficient.natAbs
  let round (x : Nat × Nat) : Dyadic := f.nearest x.1 x.2
  if d.scale = 0 then
    .finite negative (round (magnitude, 1))
  else
    let power := round (pow10 d.scale, 1)
    let whole := round (magnitude / pow10 d.scale, 1)
    let part := round (magnitude % pow10 d.scale, 1)
    let fraction := round (part.num * power.den, part.den * power.num)
    if fraction.mantissa = 0 then
      .finite negative whole
    else
      let sum := round (whole.num * fraction.den + fraction.num * whole.den,
        whole.den * fraction.den)
      let shifted := round (sum.num * power.num, sum.den * power.den)
      let places := round (shifted.roundHalfUp, 1)
      .finite negative (round (places.num * power.den, places.den * power.num))

/-- The digits of the whole part and of the fraction. -/
def digits (d : Decimal) : List Char :=
  let all := natDigits d.coefficient.natAbs
  let padded := List.replicate (d.scale + 1 - all.length) '0' ++ all
  let whole := padded.take (padded.length - d.scale)
  let fraction := padded.drop (padded.length - d.scale)
  if d.scale = 0 then all else whole ++ '.' :: fraction

/-- The text of a decimal with as many places as its scale says. -/
def text (d : Decimal) : String :=
  String.ofList (if d.coefficient < 0 then '-' :: d.digits else d.digits)

end Decimal

end RowFilter.Number
