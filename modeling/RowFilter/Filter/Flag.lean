import RowFilter.Filter.Error

/-!
# Control flags

The flags of a range are a text with commas between them, or a list of texts. Blanks around a flag
and the case of its ASCII letters do not matter, and a flag that is given twice counts once.
-/

namespace RowFilter.ControlFlag

/-- The flag that a token names. -/
def ofToken (token : String) : Except FilterError ControlFlag :=
  let word := String.ofList ((Text.trimChars token.toList).map Text.asciiUpper)
  if word = "DATE_TIME_SPLIT" ∨ word = "TIME_OF_DAY" then .ok timeOfDay
  else .error (.unknownFlag token)

/-- The flag that an item of a list names. -/
def ofItem : Json → Except FilterError ControlFlag
  | .str token => ofToken token
  | value => .error (.unknownFlag value.text)

/-- The tokens between commas, without the blank ones. -/
def tokens (s : String) : List String :=
  (Text.split ',' s).filter fun token => Text.trim token ≠ ""

/-- The flags that a value names, each once. -/
def ofValue : Json → Except FilterError (List ControlFlag)
  | .null => .ok []
  | .str s => do
    let flags ← (tokens s).mapM ofToken
    .ok flags.eraseDups
  | .arr items => do
    let flags ← items.mapM ofItem
    .ok flags.eraseDups
  | value => .error (.unknownFlag value.text)

end RowFilter.ControlFlag
