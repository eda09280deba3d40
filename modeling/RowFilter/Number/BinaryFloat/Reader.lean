import RowFilter.Number.Digits
import RowFilter.Number.BinaryFloat.Basic

/-!
# Reading floating-point numbers

The decimal notation of floating-point numbers: a sign, digits with at most one point, an exponent,
or one of the words for infinity and not-a-number. The number read is the one nearest to the exact
decimal value.
-/

namespace RowFilter.Number

/-- A decimal number `± digits · 10 ^ exponent`. -/
structure Scientific where
  negative : Bool
  digits : Nat
  exponent : Int
  deriving Repr, DecidableEq

namespace Scientific

/-- Read the digits of the exponent after its mark. -/
def readExponent? (cs : List Char) : Option Int := readInt? cs

/-- Read what may follow the digits: nothing, or a mark and an exponent. -/
def readTail? : List Char → Option Int
  | [] => some 0
  | c :: rest => if c = 'e' ∨ c = 'E' then readExponent? rest else none

/-- Read digits with at most one point among them and an exponent behind them. -/
def read? (cs : List Char) : Option Scientific :=
  let (negative, body) := takeSign cs
  let whole := body.takeWhile Char.isDigit
  let (fraction, rest) :=
    match body.dropWhile Char.isDigit with
    | '.' :: after => (after.takeWhile Char.isDigit, after.dropWhile Char.isDigit)
    | after => ([], after)
  if whole.isEmpty ∧ fraction.isEmpty then
    none
  else
    (readTail? rest).map fun e =>
      ⟨negative, ofDigits (whole ++ fraction), e - fraction.length⟩

/-- The nearest floating-point number. Numbers whose leading digit stands far outside every format
are settled before any power of ten is formed. -/
def toBinary (f : Format) (x : Scientific) : BinaryFloat :=
  let leading : Int := (natDigits x.digits).length + x.exponent
  if x.digits = 0 ∨ leading < -400 then
    .finite x.negative ⟨0, f.minExponent⟩
  else if 400 < leading then
    .infinite x.negative
  else
    .ofRatio f x.negative (x.digits * pow10 x.exponent.toNat) (pow10 (-x.exponent).toNat)

end Scientific

namespace BinaryFloat

/-- Read one of the words for a number that has no digits, in any case. -/
def readWord? (cs : List Char) : Option BinaryFloat :=
  let (negative, body) := takeSign cs
  let word := String.ofList (body.map Char.toLower)
  if word = "inf" ∨ word = "infinity" then some (.infinite negative)
  else if word = "nan" then some .nan
  else none

/-- Read a floating-point number of a format. -/
def read? (f : Format) (cs : List Char) : Option BinaryFloat :=
  match Scientific.read? cs with
  | some x => some (x.toBinary f)
  | none => readWord? cs

example : read? .double "0.1".toList =
    some (.finite false ⟨7205759403792794, -56⟩) := by decide +kernel

example : read? .single "16777217".toList =
    some (.finite false ⟨8388608, 1⟩) := by decide +kernel

example : read? .double "1e400".toList = some (.infinite false) := by decide +kernel

example : read? .double "1e".toList = none := by decide +kernel

end BinaryFloat

end RowFilter.Number
