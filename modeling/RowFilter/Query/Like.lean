/-!
# Pattern matching

The patterns of `LIKE`: `%` stands for any run of characters, `_` for any one character, and every
other character for itself. The matcher keeps what may be left of the text after the part of the
pattern already read, longest rest first.
-/

namespace RowFilter.Like

/-- Every end piece of a list, from the whole to the empty one. -/
def endings {α : Type} : List α → List (List α)
  | [] => [[]]
  | x :: rest => (x :: rest) :: endings rest

/-- The rests that are left after one more character of the pattern. -/
def advance (rests : List (List Char)) (p : Char) : List (List Char) :=
  if p = '%' then
    match rests with
    | [] => []
    | longest :: _ => endings longest
  else
    rests.filterMap fun
      | [] => none
      | c :: rest => if p = '_' ∨ p = c then some rest else none

/-- Whether characters match a pattern. -/
def matchesChars (text pattern : List Char) : Bool :=
  (pattern.foldl advance [text]).any List.isEmpty

/-- Whether a text matches a pattern. -/
def isMatch (text pattern : String) : Bool := matchesChars text.toList pattern.toList

example : isMatch "HARRY POTTER" "%RY P%" ∧ ¬ isMatch "CART" "C_T" ∧ isMatch "" "%" := by decide

end RowFilter.Like
