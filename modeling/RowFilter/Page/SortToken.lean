import RowFilter.Filter.Error
import RowFilter.Naming

/-!
# Sort tokens

A sort token is the name of a field, with a `-` before it for the descending order and an optional
`+` for the ascending one.
-/

namespace RowFilter

/-- A field to sort by. -/
structure SortToken where
  field : String
  direction : Direction
  deriving Repr, DecidableEq

namespace SortToken

/-- The direction that a token begins with, and the rest of it. -/
def takeDirection : List Char → Direction × List Char
  | '-' :: rest => (.descending, rest)
  | '+' :: rest => (.ascending, rest)
  | cs => (.ascending, cs)

/-- Whether a character can stand in the name of a field. -/
def isNameChar (c : Char) : Bool := Text.isAlphanumeric c || c == '_'

/-- Whether characters can be the name of a field: an ASCII digit cannot begin it. -/
def isName (cs : List Char) : Bool := !(cs.head?.any Char.isDigit) && cs.all isNameChar

/-- The token that a text stands for. -/
def ofText (token : String) : Except FilterError SortToken :=
  let (direction, rest) := takeDirection (Text.trimChars token.toList)
  let name := Naming.camelChars (Text.trimChars rest)
  if name.isEmpty then .error (.invalidSortToken token .noFieldName)
  else if isName name then .ok ⟨String.ofList name, direction⟩
  else .error (.invalidSortToken token .notFieldName)

/-- The token that an item of a list stands for. -/
def ofItem : Json → Except FilterError SortToken
  | .str token => ofText token
  | value => .error (.invalidSortToken value.text .notString)

/-- The tokens of a text with commas between them, or of a list of texts. -/
def ofValue : Json → Except FilterError (List SortToken)
  | .null => .ok []
  | .str s => (Text.split ',' s).mapM ofText
  | .arr items => items.mapM ofItem
  | value => .error (.invalidSortToken value.text .notStringOrList)

/-- The token as one column of an order. -/
def orderItem (t : SortToken) : OrderItem := ⟨.simple t.field, t.direction⟩

end SortToken

end RowFilter
