/-!
# Digits

Whole numbers as runs of decimal digits, with an optional sign in front when they are read and a
leading minus when they are written.
-/

namespace RowFilter.Number

/-- The decimal digits of a number, without leading zeros. -/
def natDigits (n : Nat) : List Char := Nat.toDigits 10 n

/-- The number that a run of decimal digits stands for. -/
def ofDigits (digits : List Char) : Nat := Nat.ofDigitChars 10 digits 0

/-- A non-empty run of ASCII digits. -/
def isDigits (cs : List Char) : Bool := !cs.isEmpty && cs.all Char.isDigit

/-- Read digits alone. -/
def readDigits? (cs : List Char) : Option Nat :=
  if isDigits cs then some (ofDigits cs) else none

/-- A leading sign, if there is one: whether it is a minus, and the rest. -/
def takeSign : List Char → Bool × List Char
  | '-' :: rest => (true, rest)
  | '+' :: rest => (false, rest)
  | cs => (false, cs)

/-- The number with its sign. -/
def withSign (negative : Bool) (n : Nat) : Int := if negative then -(n : Int) else n

/-- Read digits after at most one sign. -/
def readInt? (cs : List Char) : Option Int :=
  let (negative, rest) := takeSign cs
  (readDigits? rest).map (withSign negative)

/-- Read digits after at most one plus. -/
def readNat? : List Char → Option Nat
  | '+' :: rest => readDigits? rest
  | cs => readDigits? cs

/-- Digits with a leading minus for a number below zero. -/
def intDigits (i : Int) : List Char :=
  if i < 0 then '-' :: natDigits i.natAbs else natDigits i.natAbs

/-- A natural number as text. -/
def natText (n : Nat) : String := String.ofList (natDigits n)

/-- An integer as text. -/
def intText (i : Int) : String := String.ofList (intDigits i)

/-- The integers of 64 bits with sign. -/
def fitsInt64 (i : Int) : Bool := -9223372036854775808 ≤ i && i ≤ 9223372036854775807

/-- Read an integer that must fit 64 bits with sign. -/
def readInt64? (cs : List Char) : Option Int := (readInt? cs).filter fitsInt64

/-- Read a natural number that must fit 64 bits. -/
def readNat64? (cs : List Char) : Option Nat := (readNat? cs).filter (· < 18446744073709551616)

/-- Read an integer of any size, in which underscores may follow the first digit. -/
def readBigInt? (cs : List Char) : Option Int :=
  let (negative, rest) := takeSign cs
  match rest with
  | [] => none
  | first :: _ =>
    if first = '_' then none
    else (readDigits? (rest.filter (· ≠ '_'))).map (withSign negative)

theorem isDigit_of_mem_natDigits {n : Nat} {c : Char} (h : c ∈ natDigits n) : c.isDigit = true :=
  Nat.isDigit_of_mem_toDigits (by decide) (by decide) h

theorem ofDigits_natDigits (n : Nat) : ofDigits (natDigits n) = n := by
  simp [ofDigits, natDigits, Nat.ofDigitChars_ten_toDigits]

end RowFilter.Number
