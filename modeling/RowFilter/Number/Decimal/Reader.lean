import RowFilter.Number.Decimal.Basic

/-!
# Reading decimals

A decimal is read digit by digit: a sign, digits with at most one point, and underscores after the
first digit. Digits are kept as long as they fit the coefficient and the greatest scale. The first
digit that does not fit rounds the last one kept, if it stands behind the point; in the whole part
it makes the number too large. The digits behind the one that rounds have no weight, but they must
be digits: any other text there makes the whole no decimal. A number may also be given with an
exponent, and then the part before the mark is read, and rounded, on its own.
-/

namespace RowFilter.Number.Decimal

/-- The first coefficient that is too large. -/
def coefficientLimit : Nat := 79228162514264337593543950336

/-- The greatest number of places. -/
def maxScale : Nat := 28

/-- What has been read: the coefficient, the places behind the point, whether the point and whether
a digit has been met. -/
structure Progress where
  coefficient : Nat
  scale : Nat
  pointed : Bool
  started : Bool
  deriving Repr, DecidableEq

/-- The decimal that has been read. -/
def Progress.finish (negative : Bool) (p : Progress) : Option Decimal :=
  if p.started then make? (withSign negative p.coefficient) p.scale else none

/-- Round by the first digit that does not fit: up from a five on. When rounding fills the
coefficient, its last place is given up. -/
def Progress.roundBy (negative : Bool) (p : Progress) (digit : Nat) : Option Decimal :=
  if digit < 5 then
    p.finish negative
  else if p.coefficient + 1 < coefficientLimit then
    { p with coefficient := p.coefficient + 1 }.finish negative
  else if p.scale = 0 then
    none
  else
    { p with coefficient := (p.coefficient + 5) / 10, scale := p.scale - 1 }.finish negative

/-- Whether a character may stand behind the digit that rounds. -/
def isWeightless (c : Char) : Bool := c.isDigit || c = '_'

/-- Read on behind the sign. -/
def readDigitsFrom (negative : Bool) (p : Progress) : List Char → Option Decimal
  | [] => p.finish negative
  | c :: rest =>
    if c.isDigit then
      let digit := c.toNat - '0'.toNat
      let coefficient := 10 * p.coefficient + digit
      if coefficient < coefficientLimit ∧ p.scale < maxScale then
        readDigitsFrom negative
          { coefficient
            scale := if p.pointed then p.scale + 1 else p.scale
            pointed := p.pointed
            started := true } rest
      else if p.pointed ∧ rest.all isWeightless then
        p.roundBy negative digit
      else
        none
    else if c = '.' ∧ !p.pointed then
      readDigitsFrom negative { p with pointed := true } rest
    else if c = '_' ∧ p.started then
      readDigitsFrom negative p rest
    else
      none

/-- Read a decimal without an exponent. -/
def readPlain? (cs : List Char) : Option Decimal :=
  let (negative, body) := takeSign cs
  readDigitsFrom negative ⟨0, 0, false, false⟩ body

/-- A coefficient over a smaller scale, rounded half up. -/
def dropPlaces (coefficient : Int) (places : Nat) : Int :=
  let magnitude := coefficient.natAbs
  let rounded :=
    if places = 0 then magnitude
    else (magnitude / pow10 (places - 1) + 5) / 10
  withSign (coefficient < 0) rounded

/-- A decimal times `10 ^ -exponent`. -/
def shiftDown? (d : Decimal) (exponent : Nat) : Option Decimal :=
  if maxScale < exponent then
    none
  else if d.scale + exponent ≤ maxScale then
    make? d.coefficient (d.scale + exponent)
  else
    make? (dropPlaces d.coefficient (d.scale + exponent - maxScale)) maxScale

/-- A decimal times `10 ^ exponent`. -/
def shiftUp? (d : Decimal) (exponent : Nat) : Option Decimal :=
  if exponent ≤ d.scale then
    make? d.coefficient (d.scale - exponent)
  else if maxScale < exponent then
    none
  else
    make? (d.coefficient * pow10 (exponent - d.scale)) 0

/-- The part before the mark of the exponent and the part behind it. -/
def splitAtMark : List Char → Option (List Char × List Char)
  | [] => none
  | c :: rest =>
    if c = 'e' ∨ c = 'E' then
      some ([], rest)
    else
      (splitAtMark rest).map fun (before, after) => (c :: before, after)

/-- An exponent must fit 32 bits. -/
def readExponent? (cs : List Char) : Option Nat := (readNat? cs).filter (· < 4294967296)

/-- Read a decimal with an exponent. -/
def readScientific? (cs : List Char) : Option Decimal := do
  let (base, exponent) ← splitAtMark cs
  let d ← readPlain? base
  match exponent with
  | '-' :: digits => d.shiftDown? (← readExponent? digits)
  | digits => d.shiftUp? (← readExponent? digits)

/-- Read a decimal, with or without an exponent. -/
def read? (cs : List Char) : Option Decimal :=
  match readPlain? cs with
  | some d => some d
  | none => readScientific? cs

example : (read? "1_000.5".toList).map text = some "1000.5" := by decide +kernel

example : (read? "9.9999999999999999999999999999999".toList).map text =
    some "10.000000000000000000000000000" := by decide +kernel

end RowFilter.Number.Decimal
