import RowFilter.Text.Basic

/-!
# Scalar types

The declared types of scalar fields, and the few questions that filters ask about a type.
-/

namespace RowFilter

/-- An enumerated type: its name and its members in order. -/
structure EnumType where
  name : String
  members : List String
  deriving Repr, DecidableEq

/-- The member that a text names, up to the case of ASCII letters. -/
def EnumType.member? (e : EnumType) (s : String) : Option String :=
  e.members.find? (Text.equalIgnoringAsciiCase · s)

/-- The declared type of a scalar field. -/
inductive ScalarType where
  | string
  | char
  | i8
  | i16
  | i32
  | i64
  | bigInt
  | decimal
  | f32
  | f64
  | bool
  | uuid
  | date
  | time
  | dateTime
  | instant
  | offsetDateTime
  | enum (type : EnumType)
  /-- A type that the library knows by name only; its values stay text. -/
  | other (name : String)
  deriving Repr, DecidableEq

/-- A scalar type without its details. -/
inductive ScalarKind where
  | string
  | char
  | i8
  | i16
  | i32
  | i64
  | bigInt
  | decimal
  | f32
  | f64
  | bool
  | uuid
  | date
  | time
  | dateTime
  | instant
  | offsetDateTime
  | enum
  | other
  deriving Repr, DecidableEq

namespace ScalarKind

/-- Every kind, in the order of their declaration. -/
def all : List ScalarKind :=
  [string, char, i8, i16, i32, i64, bigInt, decimal, f32, f64, bool, uuid, date, time, dateTime,
    instant, offsetDateTime, enum, other]

/-- The word for a kind. -/
def name : ScalarKind → String
  | string => "String"
  | char => "Char"
  | i8 => "I8"
  | i16 => "I16"
  | i32 => "I32"
  | i64 => "I64"
  | bigInt => "BigInt"
  | decimal => "Decimal"
  | f32 => "F32"
  | f64 => "F64"
  | bool => "Bool"
  | uuid => "Uuid"
  | date => "Date"
  | time => "Time"
  | dateTime => "DateTime"
  | instant => "Instant"
  | offsetDateTime => "OffsetDateTime"
  | enum => "Enum"
  | other => "Other"

end ScalarKind

namespace ScalarType

/-- The kind of a type. -/
def kind : ScalarType → ScalarKind
  | string => .string
  | char => .char
  | i8 => .i8
  | i16 => .i16
  | i32 => .i32
  | i64 => .i64
  | bigInt => .bigInt
  | decimal => .decimal
  | f32 => .f32
  | f64 => .f64
  | bool => .bool
  | uuid => .uuid
  | date => .date
  | time => .time
  | dateTime => .dateTime
  | instant => .instant
  | offsetDateTime => .offsetDateTime
  | enum _ => .enum
  | other _ => .other

/-- Types whose values compare without regard to case. -/
def isText : ScalarType → Bool
  | string | char => true
  | _ => false

/-- The type of truth values. -/
def isBool : ScalarType → Bool
  | bool => true
  | _ => false

/-- The enumerated types. -/
def isEnum : ScalarType → Bool
  | enum _ => true
  | _ => false

/-- Types whose values carry a time of day. -/
def hasTimeOfDay : ScalarType → Bool
  | dateTime | instant | offsetDateTime | time => true
  | _ => false

/-- A type as messages show it. -/
def display : ScalarType → String
  | enum e => "enum " ++ e.name
  | other name => name
  | t => t.kind.name

end ScalarType

end RowFilter
