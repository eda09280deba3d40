import RowFilter.Text.PropertyTable

/-!
# Character properties

The Unicode properties that the library asks of a character, read off the property tables.
-/

namespace RowFilter.Text

/-- White space, as trimming and blank tests understand it. -/
def isBlank (c : Char) : Bool := inSpans blankSpans c.toNat

/-- A letter or a number of any script. -/
def isAlphanumeric (c : Char) : Bool := inSpans alphanumericSpans c.toNat

/-- A decimal digit of any script. -/
def isDecimalDigit (c : Char) : Bool := inSpans decimalDigitSpans c.toNat

/-- An upper-case character. -/
def isUppercase (c : Char) : Bool := inSpans uppercaseSpans c.toNat

/-- A character that has case. -/
def isCased (c : Char) : Bool := inSpans casedSpans c.toNat

/-- A character that does not end a word for the purpose of case mapping. -/
def isCaseIgnorable (c : Char) : Bool := inSpans caseIgnorableSpans c.toNat

/-- A character that shows as itself when a text is quoted. -/
def isPrintable (c : Char) : Bool := !inSpans unprintableSpans c.toNat

example : isBlank ' ' ∧ isBlank '\u00a0' ∧ isBlank '\u3000' ∧ ¬ isBlank 'x' := by decide

example : isAlphanumeric 'é' ∧ isAlphanumeric '٣' ∧ ¬ isAlphanumeric '_' := by decide

end RowFilter.Text
