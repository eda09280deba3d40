import RowFilter.Text.Basic
import RowFilter.Text.Case

/-!
# Field names

Filter keys and sort tokens may come in snake case; the fields of a schema are named in camel case.
-/

namespace RowFilter.Naming

/-- A word with its first character in upper case and the rest in lower case. -/
def capitalised : List Char → List Char
  | [] => []
  | c :: rest => Text.upperChar c ++ Text.lowerChars rest

/-- The characters without the given one at the end. -/
def trimEnd (c : Char) (cs : List Char) : List Char := (cs.reverse.dropWhile (· = c)).reverse

/-- The words between underscores written as one: the first in lower case, the others
capitalised. -/
def joinWords : List (List Char) → List Char
  | [] => []
  | first :: rest => Text.lowerChars first ++ rest.flatMap capitalised

/-- The characters of a name in camel case. -/
def camelChars (cs : List Char) : List Char :=
  if cs.contains '_' then joinWords (Text.splitChars '_' (trimEnd '_' cs)) else cs

/-- A name in camel case. A name without an underscore is kept. -/
def camelCase (name : String) : String := String.ofList (camelChars name.toList)

/-- The characters of a name in snake case, read on behind a word or not. An upper-case character
begins a word. -/
def snakeFrom (behindWord : Bool) : List Char → List Char
  | [] => []
  | c :: rest =>
    if Text.isUppercase c then
      (if behindWord then ['_'] else []) ++ Text.lowerChar c ++ snakeFrom true rest
    else
      c :: snakeFrom (c ≠ '_') rest

/-- A name in snake case. -/
def snakeCase (name : String) : String := String.ofList (snakeFrom false name.toList)

example : camelCase "COL_BIG__DECIMAL_" = "colBigDecimal" := by decide

example : snakeCase "granChildTable" = "gran_child_table" := by decide

end RowFilter.Naming
