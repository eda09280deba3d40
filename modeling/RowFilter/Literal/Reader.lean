import RowFilter.Civil.Recognise
import RowFilter.Literal.Basic
import RowFilter.Number.BinaryFloat.Reader
import RowFilter.Number.Decimal.Reader
import RowFilter.ScalarType

/-!
# Reading literals

A literal can be read back from its kind and its plain text. Beyond the plain texts, `Z` is read for
the offset zero, and a fraction may have any number of digits.
-/

namespace RowFilter.Literal

/-- An integer between two bounds. -/
def readBounded? (least most : Int) (cs : List Char) : Option Int :=
  (Number.readInt? cs).filter fun n => least ≤ n && n ≤ most

/-- The truth value that a word names. -/
def readBool? (s : String) : Option Bool :=
  if s = "true" then some true else if s = "false" then some false else none

/-- A date and a time with an offset. -/
def readZoned? (cs : List Char) : Option Civil.OffsetDateTime :=
  (Civil.Pattern.read? (Civil.Pattern.dateTime ++ [.strictOffset]) cs).bind
    Civil.Fields.offsetDateTime?

/-- The literal of a kind that has this plain text. -/
def read? (kind : ScalarKind) (s : String) : Option Literal :=
  let cs := s.toList
  match kind with
  | .string => some (string s)
  | .char =>
    match cs with
    | [c] => some (char c)
    | _ => none
  | .i8 => (readBounded? (-128) 127 cs).map fun n => i8 (Int8.ofInt n)
  | .i16 => (readBounded? (-32768) 32767 cs).map fun n => i16 (Int16.ofInt n)
  | .i32 => (readBounded? (-2147483648) 2147483647 cs).map fun n => i32 (Int32.ofInt n)
  | .i64 => (Number.readInt64? cs).map fun n => i64 (Int64.ofInt n)
  | .bigInt => (Number.readBigInt? cs).map bigInt
  | .decimal => (Number.Decimal.read? cs).map decimal
  | .f32 => (Number.BinaryFloat.read? .single cs).map f32
  | .f64 => (Number.BinaryFloat.read? .double cs).map f64
  | .bool => (readBool? s).map bool
  | .uuid => (Uuid.read? cs).map uuid
  | .date => (Civil.DateFormat.readIsoDate? cs).map date
  | .time => (Civil.readTime? cs).map time
  | .dateTime => (Civil.DateFormat.readSqlDateTime? cs).map dateTime
  | .instant => (readZoned? cs).map fun o => instant o.instant
  | .offsetDateTime => (readZoned? cs).map offsetDateTime
  | .enum => some (enum s)
  | .other => none

end RowFilter.Literal
