import RowFilter.Json.Basic
import RowFilter.Number.BinaryFloat.Shortest
import RowFilter.Text.Basic

/-!
# Compact JSON text

A value is written without any blanks, with the fields of an object in their order. Strings escape
what JSON requires and nothing else. A double is written with the fewest digits that read back:
in positional notation from `0.00001` up to below `10 ^ 16`, else with an exponent.
-/

namespace RowFilter

namespace JsonNumber

/-- Positional notation, with a fraction even where it is zero. -/
def positional (d : Number.DecimalDigits) : List Char :=
  if d.isWhole then d.positional ++ ['.', '0'] else d.positional

/-- The text of a double other than zero, without its sign. -/
def digitsText (d : Number.DecimalDigits) : List Char :=
  if -5 < d.point ∧ d.point ≤ 16 then positional d else d.scientific

/-- The text of a number. -/
def text : JsonNumber → String
  | int n => Number.intText n
  | real (.finite negative d) =>
    let body :=
      if d.mantissa = 0 then ['0', '.', '0']
      else digitsText (Number.Shortest.digits .double .toEven d)
    String.ofList (if negative then '-' :: body else body)
  | real _ => "null"

end JsonNumber

namespace Json

/-- How a character is written inside a string. -/
def escapedChar (c : Char) : List Char :=
  match c with
  | '"' => ['\\', '"']
  | '\\' => ['\\', '\\']
  | '\x08' => ['\\', 'b']
  | '\x0c' => ['\\', 'f']
  | '\n' => ['\\', 'n']
  | '\r' => ['\\', 'r']
  | '\t' => ['\\', 't']
  | c =>
    if c.toNat < 32 then ['\\', 'u'] ++ Text.padLeft 4 '0' (Nat.toDigits 16 c.toNat) else [c]

/-- A string with its quotes. -/
def stringText (s : String) : String :=
  String.ofList ('"' :: s.toList.flatMap escapedChar ++ ['"'])

mutual

/-- The compact text of a value. -/
def text : Json → String
  | null => "null"
  | bool b => if b then "true" else "false"
  | num n => n.text
  | str s => stringText s
  | arr items => "[" ++ Text.join "," (itemTexts items) ++ "]"
  | obj fields => "\x7b" ++ Text.join "," (fieldTexts fields) ++ "\x7d"

/-- The texts of the items of an array. -/
def itemTexts : List Json → List String
  | [] => []
  | v :: rest => v.text :: itemTexts rest

/-- The texts of the fields of an object. -/
def fieldTexts : List (String × Json) → List String
  | [] => []
  | (k, v) :: rest => (stringText k ++ ":" ++ v.text) :: fieldTexts rest

end

end Json

end RowFilter
