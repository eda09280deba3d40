import RowFilter.Text.Property

/-!
# Quoted text

Messages show a text between double quotes so that blanks and invisible characters can be seen:
quotes, backslashes and the common control characters have short escapes, and every other
character without a glyph of its own is written by its code point.
-/

namespace RowFilter.Text

/-- How a character is written inside quotes. -/
def quotedChar (c : Char) : List Char :=
  match c with
  | '"' => ['\\', '"']
  | '\\' => ['\\', '\\']
  | '\n' => ['\\', 'n']
  | '\r' => ['\\', 'r']
  | '\t' => ['\\', 't']
  | '\x00' => ['\\', '0']
  | c =>
    if isPrintable c then [c]
    else ['\\', 'u', '\x7b'] ++ Nat.toDigits 16 c.toNat ++ ['\x7d']

/-- A text as it is shown in a message. -/
def quoted (s : String) : String :=
  String.ofList ('"' :: s.toList.flatMap quotedChar ++ ['"'])

example : quoted "a\"b\n\u00a0" = "\"a\\\"b\\n\\u\x7ba0\x7d\"" := by decide +kernel

end RowFilter.Text
