import RowFilter.Text.Property

/-!
# Trimming, splitting and comparing text

The small operations on text that filter keys, tokens and values are read with. Each works on the
characters of a text in order; the versions on `String` only pack and unpack.
-/

namespace RowFilter.Text

/-- The characters without leading blanks. -/
def trimStartChars (cs : List Char) : List Char := cs.dropWhile isBlank

/-- The characters without leading and trailing blanks. -/
def trimChars (cs : List Char) : List Char :=
  (trimStartChars (trimStartChars cs).reverse).reverse

/-- The text without leading and trailing blanks. -/
def trim (s : String) : String := String.ofList (trimChars s.toList)

/-- The pieces between the occurrences of a separator; a text without one is its own only piece. -/
def splitChars (separator : Char) : List Char → List (List Char)
  | [] => [[]]
  | c :: rest =>
    if c = separator then
      [] :: splitChars separator rest
    else
      match splitChars separator rest with
      | [] => [[c]]
      | piece :: pieces => (c :: piece) :: pieces

/-- The pieces of a text between the occurrences of a separator. -/
def split (separator : Char) (s : String) : List String :=
  (splitChars separator s.toList).map String.ofList

/-- The part before the first separator and the part after it. -/
def splitOnceChars (separator : Char) : List Char → Option (List Char × List Char)
  | [] => none
  | c :: rest =>
    if c = separator then
      some ([], rest)
    else
      (splitOnceChars separator rest).map fun (before, after) => (c :: before, after)

/-- The texts one after another with a separator between neighbours. -/
def join (separator : String) : List String → String
  | [] => ""
  | [s] => s
  | s :: rest => s ++ separator ++ join separator rest

/-- The upper case of an ASCII letter; any other character is kept. -/
def asciiUpper (c : Char) : Char := c.toUpper

/-- Equality of texts up to the case of ASCII letters. -/
def equalIgnoringAsciiCase (s t : String) : Bool :=
  s.toList.map asciiUpper == t.toList.map asciiUpper

/-- The text with every occurrence of a character written twice. -/
def doubled (c : Char) (s : String) : String :=
  String.ofList (s.toList.flatMap fun x => if x = c then [c, c] else [x])

/-- The text with the character `c` before it as often as it takes to reach the width. -/
def padLeft (width : Nat) (c : Char) (cs : List Char) : List Char :=
  List.replicate (width - cs.length) c ++ cs

example : split ',' "a,,b," = ["a", "", "b", ""] := by decide

example : trim " \u00a0a b\n" = "a b" := by decide

end RowFilter.Text
