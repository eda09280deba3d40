import RowFilter.Text.CaseTable
import RowFilter.Text.Property

/-!
# Full case mappings

Upper and lower case in the full sense: one character may map to several (`ß` to `SS`), and a
capital sigma that ends a word becomes a final sigma. Nothing depends on a language.
-/

namespace RowFilter.Text

/-- The image of a character: its expansion if it has one, else the image under its run, else
the character itself. -/
def mapCase (expansions : List (Nat × List Nat)) (runs : List CaseRun) (c : Char) : List Char :=
  match expansions.lookup c.toNat with
  | some codes => codes.map Char.ofNat
  | none =>
    match runs.findSome? (·.image? c.toNat) with
    | some code => [Char.ofNat code]
    | none => [c]

/-- The upper case of a character. -/
def upperChar (c : Char) : List Char := mapCase upperExpansions upperRuns c

/-- The lower case of a character, read on its own. -/
def lowerChar (c : Char) : List Char := mapCase lowerExpansions lowerRuns c

/-- The upper case of a run of characters. -/
def upperChars (cs : List Char) : List Char := cs.flatMap upperChar

/-- The upper case of a text. -/
def upper (s : String) : String := String.ofList (upperChars s.toList)

/-- Whether the first character that is not case-ignorable has case. -/
def meetsCased (cs : List Char) : Bool :=
  match cs.dropWhile isCaseIgnorable with
  | [] => false
  | c :: _ => isCased c

/-- The lower case of the characters that follow `before`, which is given nearest first. A capital
sigma becomes final when a cased character comes before it and none comes after it. -/
def lowerAfter : List Char → List Char → List Char
  | _, [] => []
  | before, c :: rest =>
    let image :=
      if c = 'Σ' then
        if meetsCased before && !meetsCased rest then ['ς'] else ['σ']
      else
        lowerChar c
    image ++ lowerAfter (c :: before) rest

/-- The lower case of a run of characters. -/
def lowerChars (cs : List Char) : List Char := lowerAfter [] cs

/-- The lower case of a text. -/
def lower (s : String) : String := String.ofList (lowerChars s.toList)

example : upper "straße" = "STRASSE" := by decide

example : lower "ΟΔΟΣ Σ" = "οδος σ" := by decide

end RowFilter.Text
