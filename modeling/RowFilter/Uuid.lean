import RowFilter.Text.Basic

/-!
# Universally unique identifiers

An identifier is 128 bits. It is written as five groups of hexadecimal digits and read in that form,
without its hyphens, in braces, or as a name.
-/

namespace RowFilter

/-- An identifier of 128 bits. -/
structure Uuid where
  bits : BitVec 128
  deriving Repr, DecidableEq

namespace Uuid

/-- The smaller number comes first. -/
def order (a b : Uuid) : Ordering := compare a.bits.toNat b.bits.toNat

/-- The value of a hexadecimal digit. -/
def hexValue? (c : Char) : Option Nat :=
  if c.isDigit then some (c.toNat - '0'.toNat)
  else if 'a' ≤ c ∧ c ≤ 'f' then some (c.toNat - 'a'.toNat + 10)
  else if 'A' ≤ c ∧ c ≤ 'F' then some (c.toNat - 'A'.toNat + 10)
  else none

/-- The number that a run of hexadecimal digits stands for, read on from `n`. -/
def ofHexFrom (n : Nat) : List Char → Option Nat
  | [] => some n
  | c :: rest => (hexValue? c).bind fun d => ofHexFrom (16 * n + d) rest

/-- Read thirty-two hexadecimal digits. -/
def readSimple? (cs : List Char) : Option Uuid :=
  if cs.length = 32 then (ofHexFrom 0 cs).map fun n => ⟨BitVec.ofNat 128 n⟩ else none

/-- Read five groups of digits with hyphens between them. -/
def readHyphenated? (cs : List Char) : Option Uuid :=
  match Text.splitChars '-' cs with
  | [a, b, c, d, e] =>
    if a.length = 8 ∧ b.length = 4 ∧ c.length = 4 ∧ d.length = 4 ∧ e.length = 12 then
      readSimple? (a ++ b ++ c ++ d ++ e)
    else
      none
  | _ => none

/-- Read five groups in braces. -/
def readBraced? : List Char → Option Uuid
  | '\x7b' :: rest =>
    if rest.getLast? = some '\x7d' then readHyphenated? rest.dropLast else none
  | _ => none

/-- Read five groups behind the words for a name, in any case. -/
def readNamed? (cs : List Char) : Option Uuid :=
  if (cs.take 9).map Char.toLower = "urn:uuid:".toList then readHyphenated? (cs.drop 9) else none

/-- Read an identifier in any of its forms. -/
def read? (cs : List Char) : Option Uuid :=
  (readSimple? cs).or ((readHyphenated? cs).or ((readBraced? cs).or (readNamed? cs)))

/-- The thirty-two hexadecimal digits. -/
def hexDigits (u : Uuid) : List Char := Text.padLeft 32 '0' (Nat.toDigits 16 u.bits.toNat)

/-- The five groups of digits with hyphens between them. -/
def chars (u : Uuid) : List Char :=
  let cs := u.hexDigits
  cs.take 8 ++ '-' :: (cs.drop 8).take 4 ++ '-' :: (cs.drop 12).take 4 ++
    '-' :: (cs.drop 16).take 4 ++ '-' :: cs.drop 20

/-- The text of an identifier. -/
def text (u : Uuid) : String := String.ofList u.chars

example : (read? "\x7b67E55044-10b1-426f-9247-bb680e5fe0c8\x7d".toList).map text =
    some "67e55044-10b1-426f-9247-bb680e5fe0c8" := by decide +kernel

end Uuid

end RowFilter
