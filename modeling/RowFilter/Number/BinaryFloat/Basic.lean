import RowFilter.Number.Power

/-!
# Binary floating-point numbers

Floating-point numbers in exact terms: a finite number is a sign and a dyadic magnitude
`mantissa · 2 ^ exponent`, and an operation takes the exact result and rounds it once, to the
nearest number of the format, with ties to the even mantissa. Nothing is approximate, so order and
equality are questions about integers.
-/

namespace RowFilter.Number

/-- The size of a floating-point format: how many bits a mantissa has, and the exponents of the
last bit of the smallest and of the largest numbers. -/
structure Format where
  precision : Nat
  minExponent : Int
  maxExponent : Int
  deriving Repr, DecidableEq

/-- Numbers of 32 bits. -/
def Format.single : Format := ⟨24, -149, 104⟩

/-- Numbers of 64 bits. -/
def Format.double : Format := ⟨53, -1074, 971⟩

/-- The magnitude `mantissa · 2 ^ exponent`. -/
structure Dyadic where
  mantissa : Nat
  exponent : Int
  deriving Repr, DecidableEq

namespace Dyadic

/-- The numerator of the magnitude as a fraction. -/
def num (d : Dyadic) : Nat := d.mantissa * pow2 d.exponent.toNat

/-- The denominator of the magnitude as a fraction. -/
def den (d : Dyadic) : Nat := pow2 (-d.exponent).toNat

/-- The nearest whole number, with ties away from zero. -/
def roundHalfUp (d : Dyadic) : Nat := (2 * d.num + d.den) / (2 * d.den)

end Dyadic

/-- The quotient of two natural numbers, rounded to the nearest with ties to the even one. -/
def divNearestEven (num den : Nat) : Nat :=
  let quotient := num / den
  let twice := 2 * (num % den)
  if twice < den ∨ (twice = den ∧ quotient % 2 = 0) then quotient else quotient + 1

namespace Format

/-- The exponent at which the mantissa of `num / den` has exactly the bits of the format, or the
least exponent of the format when that is larger. -/
def exponentOf (f : Format) (num den : Nat) : Int :=
  let k : Int := (num.log2 : Int) - (den.log2 : Int)
  let reaches := den * pow2 k.toNat ≤ num * pow2 (-k).toNat
  let exact := if reaches then k - f.precision + 1 else k - f.precision
  max exact f.minExponent

/-- The magnitude of the format that is nearest to `num / den`, were its exponents unbounded
above. -/
def nearest (f : Format) (num den : Nat) : Dyadic :=
  if num = 0 then
    ⟨0, f.minExponent⟩
  else
    let e := f.exponentOf num den
    let m := divNearestEven (num * pow2 (-e).toNat) (den * pow2 e.toNat)
    if m = pow2 f.precision then ⟨pow2 (f.precision - 1), e + 1⟩ else ⟨m, e⟩

end Format

/-- A floating-point number of some format. -/
inductive BinaryFloat where
  | nan
  | infinite (negative : Bool)
  | finite (negative : Bool) (magnitude : Dyadic)
  deriving Repr, DecidableEq

namespace BinaryFloat

/-- The number of a format nearest to a fraction; beyond the largest number it is infinite. -/
def ofRatio (f : Format) (negative : Bool) (num den : Nat) : BinaryFloat :=
  let d := f.nearest num den
  if d.exponent > f.maxExponent then infinite negative else finite negative d

/-- The number of a format nearest to an integer. -/
def ofInt (f : Format) (i : Int) : BinaryFloat := ofRatio f (i < 0) i.natAbs 1

/-- The value of a finite number in units of `2 ^ unit`, where `unit` is not above its exponent. -/
def scaled (negative : Bool) (d : Dyadic) (unit : Int) : Int :=
  let n : Int := d.mantissa * pow2 (d.exponent - unit).toNat
  if negative then -n else n

/-- The order of two numbers; there is none when one of them is not a number. The two zeros are
equal. -/
def compare? : BinaryFloat → BinaryFloat → Option Ordering
  | nan, _ => none
  | _, nan => none
  | infinite x, infinite y => some (compare (!x) (!y))
  | infinite x, finite _ _ => some (if x then .lt else .gt)
  | finite _ _, infinite y => some (if y then .gt else .lt)
  | finite x d, finite y e =>
    let unit := min d.exponent e.exponent
    some (compare (scaled x d unit) (scaled y e unit))

/-- Numeric equality: a number that is none equals nothing, and the two zeros are equal. -/
def equal (x y : BinaryFloat) : Bool := compare? x y == some .eq

end BinaryFloat

end RowFilter.Number
