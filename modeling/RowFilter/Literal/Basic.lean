import RowFilter.Civil.DateTime
import RowFilter.Number.BinaryFloat.Shortest
import RowFilter.Number.Decimal.Basic
import RowFilter.Text.Case
import RowFilter.Uuid

/-!
# Literals

A literal is a typed value: what a record stores under a field and what a filter value is cast to.
Each kind of literal has a plain text, and a written form in which texts and dates are quoted.
-/

namespace RowFilter

open Number (BinaryFloat Decimal)
open Civil (Date Time DateTime Instant OffsetDateTime)

/-- A typed value, or the absence of one. -/
inductive Literal where
  | string (s : String)
  | char (c : Char)
  | i8 (n : Int8)
  | i16 (n : Int16)
  | i32 (n : Int32)
  | i64 (n : Int64)
  | bigInt (n : Int)
  | decimal (d : Decimal)
  | f32 (x : BinaryFloat)
  | f64 (x : BinaryFloat)
  | bool (b : Bool)
  | uuid (u : Uuid)
  | date (d : Date)
  | time (t : Time)
  | dateTime (dt : DateTime)
  | instant (i : Instant)
  | offsetDateTime (o : OffsetDateTime)
  /-- A member of an enumerated type, by its declared name. -/
  | enum (member : String)
  | null
  deriving Repr, DecidableEq

namespace Literal

/-- The absence of a value. -/
def isNull : Literal → Bool
  | null => true
  | _ => false

/-- The plain text of a value. -/
def text : Literal → String
  | string s => s
  | char c => String.ofList [c]
  | i8 n => Number.intText n.toInt
  | i16 n => Number.intText n.toInt
  | i32 n => Number.intText n.toInt
  | i64 n => Number.intText n.toInt
  | bigInt n => Number.intText n
  | decimal d => d.text
  | f32 x => x.text .single
  | f64 x => x.text .double
  | bool b => if b then "true" else "false"
  | uuid u => u.text
  | date d => d.text
  | time t => t.text
  | dateTime dt => dt.text
  | instant i => i.text
  | offsetDateTime o => o.text
  | enum member => member
  | null => "NULL"

/-- Whether the written form stands in quotes. -/
def isQuoted : Literal → Bool
  | string _ | char _ | uuid _ | date _ | time _ | dateTime _ | instant _ | offsetDateTime _
  | enum _ => true
  | _ => false

/-- The written form of a string: in single quotes, with those inside it doubled. -/
def stringDisplay (s : String) : String := "\x27" ++ Text.doubled '\x27' s ++ "\x27"

/-- The written form of a value. Only inside strings are quotes doubled. -/
def display : Literal → String
  | string s => stringDisplay s
  | l => if l.isQuoted then "\x27" ++ l.text ++ "\x27" else l.text

/-- The characters of a value that is text. -/
def characters? : Literal → Option String
  | string s => some s
  | enum member => some member
  | char c => some (String.ofList [c])
  | _ => none

/-- The point in time that a value stands for. -/
def instant? : Literal → Option Instant
  | instant i => some i
  | offsetDateTime o => some o.instant
  | _ => none

/-- The time of day of a value that has one, in UTC where the value is a point in time. A date has
the time at which it starts. -/
def timeOfDay? : Literal → Option Time
  | dateTime dt => some dt.time
  | instant i => some i.utc.time
  | offsetDateTime o => some o.instant.utc.time
  | time t => some t
  | date _ => some .midnight
  | _ => none

/-- Strings and characters in upper case; a character becomes a string. Other values are kept. -/
def upper : Literal → Literal
  | string s => string (Text.upper s)
  | char c => string (String.ofList (Text.upperChar c))
  | l => l

/-- Equality of values of one kind: decimals by value, floating-point numbers numerically, points
in time whatever their offsets. Values of different kinds differ. -/
def equal : Literal → Literal → Bool
  | decimal a, decimal b => a.equal b
  | f32 a, f32 b => a.equal b
  | f64 a, f64 b => a.equal b
  | offsetDateTime a, offsetDateTime b => a.instant == b.instant
  | a, b => a == b

end Literal

end RowFilter
