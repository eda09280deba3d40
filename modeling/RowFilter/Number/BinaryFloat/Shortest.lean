import RowFilter.Number.Digits
import RowFilter.Number.BinaryFloat.Basic

/-!
# The fewest digits that read back

A finite floating-point number is written with the fewest significant digits that read back as
itself, and of those with the digits nearest to its value. For each count of digits, starting from
one, the two decimals around the value on that grid are tested against the interval of reals that
round to the number; the first grid with a hit wins.
-/

namespace RowFilter.Number

/-- The decimal `0.d₁d₂… · 10 ^ point`. -/
structure DecimalDigits where
  digits : List Char
  point : Int
  deriving Repr, DecidableEq

/-- What to do when the value lies halfway between two decimals that both read back. -/
inductive Tie where
  | toEven
  | up
  deriving Repr, DecidableEq

namespace Shortest

/-- The value and the ends of the interval that rounds to it, as whole numbers over
`4 · 10 ^ scale`, and whether the ends belong to the interval. -/
structure Interval where
  low : Nat
  value : Nat
  high : Nat
  scale : Nat
  closed : Bool
  deriving Repr, DecidableEq

/-- The interval of a magnitude. Below a power of two the neighbour is half as far away. -/
def interval (f : Format) (d : Dyadic) : Interval :=
  let scale := (-d.exponent).toNat
  let factor := pow2 d.exponent.toNat * Nat.pow 5 scale
  let below :=
    if d.mantissa = pow2 (f.precision - 1) ∧ f.minExponent < d.exponent then 1 else 2
  { low := (4 * d.mantissa - below) * factor
    value := 4 * d.mantissa * factor
    high := (4 * d.mantissa + 2) * factor
    scale := scale
    closed := d.mantissa % 2 = 0 }

/-- Whether a point lies in the interval. -/
def Interval.holds (i : Interval) (x : Nat) : Bool :=
  if i.closed then i.low ≤ x && x ≤ i.high else i.low < x && x < i.high

/-- The multiple of `unit` that reads back, if there is one; of two the nearer. -/
def Interval.hit? (i : Interval) (tie : Tie) (unit : Nat) : Option Nat :=
  let c := i.value / unit
  let down := c * unit
  let up := down + unit
  match i.holds down, i.holds up with
  | true, false => some c
  | false, true => some (c + 1)
  | false, false => none
  | true, true =>
    match compare (i.value - down) (up - i.value) with
    | .lt => some c
    | .gt => some (c + 1)
    | .eq =>
      match tie with
      | .up => some (c + 1)
      | .toEven => some (if c % 2 = 0 then c else c + 1)

/-- The digits of a number without the zeros at its end. -/
def significant (n : Nat) : List Char :=
  ((natDigits n).reverse.dropWhile (· = '0')).reverse

/-- The shortest digits of a magnitude other than zero. -/
def digits (f : Format) (tie : Tie) (d : Dyadic) : DecimalDigits :=
  let i := interval f d
  let exact := i.value / 4
  let size := (natDigits exact).length
  let attempt (dropped : Nat) : Option DecimalDigits :=
    (i.hit? tie (4 * pow10 dropped)).map fun c =>
      { digits := significant c
        point := ((natDigits c).length : Int) + dropped - i.scale }
  (((List.range size).reverse).findSome? attempt).getD
    { digits := significant exact, point := (size : Int) - i.scale }

end Shortest

namespace DecimalDigits

/-- Positional notation, without a point when there is no fraction. -/
def positional (d : DecimalDigits) : List Char :=
  let size : Int := d.digits.length
  if d.point ≤ 0 then
    '0' :: '.' :: (List.replicate (-d.point).toNat '0' ++ d.digits)
  else if size ≤ d.point then
    d.digits ++ List.replicate (d.point - size).toNat '0'
  else
    d.digits.take d.point.toNat ++ '.' :: d.digits.drop d.point.toNat

/-- Whether the decimal has no fraction. -/
def isWhole (d : DecimalDigits) : Bool := (d.digits.length : Int) ≤ d.point

/-- One digit before the point, and an exponent with its sign. -/
def scientific (d : DecimalDigits) : List Char :=
  let exponent := d.point - 1
  let mark := if exponent < 0 then ['e', '-'] else ['e', '+']
  let fraction := d.digits.drop 1
  d.digits.take 1 ++ (if fraction.isEmpty then [] else '.' :: fraction) ++ mark ++
    natDigits exponent.natAbs

end DecimalDigits

namespace BinaryFloat

/-- The plain text of a number: positional notation whatever its size, with no fraction for a whole
number. -/
def text (f : Format) : BinaryFloat → String
  | nan => "NaN"
  | infinite negative => if negative then "-inf" else "inf"
  | finite negative d =>
    let body := if d.mantissa = 0 then ['0'] else (Shortest.digits f .up d).positional
    String.ofList (if negative then '-' :: body else body)

example : text .double (.finite false ⟨7205759403792794, -56⟩) = "0.1" := by decide +kernel

example : text .single (.finite false ⟨8388608, 1⟩) = "16777216" := by decide +kernel

example : text .double (.finite true ⟨0, -1074⟩) = "-0" := by decide +kernel

end BinaryFloat

end RowFilter.Number
