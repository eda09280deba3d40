import RowFilter.Civil.Recognise
import RowFilter.Json.Printer
import RowFilter.Literal.Basic
import RowFilter.Number.BinaryFloat.Reader
import RowFilter.Number.Decimal.Reader
import RowFilter.ScalarType
import RowFilter.Text.Quoted

/-!
# Casting

Filter values are cast from their text to literals of the field's declared type. A cast can find
nothing, which counts as an absent value; it fails when the text does not fit the type. Kinds
without a caster let the text through as it is.
-/

namespace RowFilter

open Civil (LocalZone Stamp DateFormat)

/-- Why a value cannot be cast. -/
inductive CastError where
  | invalidFormat (value : String) (target : ScalarType)
  /-- The value lies beyond its type: an integer beyond the bounds, which is reported, or a point in
  time beyond the dates that can be read, at which the whole request breaks off. -/
  | numericOverflow (value : String) (target : ScalarType)
  | unidentifiedDate (value : String)
  | empty (target : ScalarType)
  | notScalar (value : String) (target : ScalarType)
  deriving Repr, DecidableEq

/-- The text of the error. -/
def CastError.message : CastError → String
  | invalidFormat value target =>
    "invalid format " ++ Text.quoted value ++ " for type " ++ target.display
  | numericOverflow value target =>
    "numeric overflow: " ++ Text.quoted value ++ " cannot fit in " ++ target.display
  | unidentifiedDate value => "unrecognized date format " ++ Text.quoted value
  | empty target => "empty value cannot be cast to " ++ target.display
  | notScalar value target => value ++ " is not a scalar value for type " ++ target.display

namespace Cast

/-- What was read, or the complaint about the format of the whole text. -/
def orInvalid (target : ScalarType) (raw : String) {α : Type} : Option α → Except CastError α
  | some a => .ok a
  | none => .error (.invalidFormat raw target)

/-- What a date text is converted to, or an overflow where its date cannot be read. -/
def orOverflow (target : ScalarType) (raw : String) {α : Type} : Option α → Except CastError α
  | some a => .ok a
  | none => .error (.numericOverflow raw target)

/-- The integer of 64 bits that a text holds between blanks. -/
def toInt64 (target : ScalarType) (raw : String) : Except CastError Int :=
  orInvalid target raw (Number.readInt64? (Text.trimChars raw.toList))

/-- An integer that must lie between two bounds. -/
def toBounded (target : ScalarType) (least most : Int) (raw : String) : Except CastError Int := do
  let n ← toInt64 target raw
  if least ≤ n ∧ n ≤ most then .ok n else .error (.numericOverflow raw target)

/-- What a date text says. -/
def toStamp (target : ScalarType) (raw : String) : Except CastError Stamp :=
  match DateFormat.identify raw.toList with
  | .unidentified => .error (.unidentifiedDate raw)
  | format => orInvalid target raw (Stamp.ofFormat? format raw.toList)

/-- The literal of a declared type that a text stands for. -/
def toLiteral (zone : LocalZone) (target : ScalarType) (raw : String) :
    Except CastError (Option Literal) :=
  let trimmed := Text.trimChars raw.toList
  match target with
  | .string => .ok (some (.string raw))
  | .char =>
    match raw.toList with
    | [] => .error (.empty target)
    | c :: _ => .ok (some (.char c))
  | .i8 => do
    let n ← toBounded target (-128) 127 raw
    .ok (some (.i8 (Int8.ofInt n)))
  | .i16 => do
    let n ← toBounded target (-32768) 32767 raw
    .ok (some (.i16 (Int16.ofInt n)))
  | .i32 => do
    let n ← toInt64 target raw
    .ok (some (.i32 (Int32.ofInt (max (-2147483648) (min n 2147483647)))))
  | .i64 => do
    let n ← toInt64 target raw
    .ok (some (.i64 (Int64.ofInt n)))
  | .bigInt => do
    let n ← orInvalid target raw (Number.readBigInt? trimmed)
    .ok (some (.bigInt n))
  | .decimal => do
    let d ← orInvalid target raw (Number.Decimal.read? trimmed)
    .ok (some (.decimal d))
  | .f32 => do
    let x ← orInvalid target raw (Number.BinaryFloat.read? .single trimmed)
    .ok (some (.f32 x))
  | .f64 => do
    let x ← orInvalid target raw (Number.BinaryFloat.read? .double trimmed)
    .ok (some (.f64 x))
  | .bool => .ok (some (.bool (Text.equalIgnoringAsciiCase (String.ofList trimmed) "true")))
  | .uuid => do
    let u ← orInvalid target raw (Uuid.read? trimmed)
    .ok (some (.uuid u))
  | .date => do
    let stamp ← toStamp target raw
    let d ← orOverflow target raw (stamp.toDate? zone)
    .ok (some (.date d))
  | .time => do
    let t ← orInvalid target raw (Civil.readTime? raw.toList)
    .ok (some (.time t))
  | .dateTime => do
    let stamp ← toStamp target raw
    let reading ← orOverflow target raw (stamp.toDateTime? zone)
    .ok (some (.dateTime reading))
  | .instant => do
    let stamp ← toStamp target raw
    let i ← orOverflow target raw (stamp.toInstant? zone)
    .ok (some (.instant i))
  | .offsetDateTime => do
    let stamp ← toStamp target raw
    .ok (some (.offsetDateTime stamp.toOffsetDateTime))
  | .enum e => .ok ((e.member? (String.ofList trimmed)).map .enum)
  | .other _ => .ok (some (.string raw))

end Cast

/-- The kinds of scalars that have a caster. -/
structure Casters where
  kinds : List ScalarKind
  deriving Repr, DecidableEq

namespace Casters

/-- A caster for every kind that the library knows. -/
def builtIn : Casters := ⟨ScalarKind.all.filter (· ≠ .other)⟩

/-- No casters at all. -/
def none : Casters := ⟨[]⟩

/-- Whether a kind has a caster. -/
def isRegistered (casters : Casters) (kind : ScalarKind) : Bool := casters.kinds.contains kind

/-- Cast a text. A type without a caster lets the text through. -/
def cast (casters : Casters) (zone : LocalZone) (target : ScalarType) (raw : String) :
    Except CastError (Option Literal) :=
  if casters.isRegistered target.kind then Cast.toLiteral zone target raw
  else .ok (some (.string raw))

/-- Cast the text of a scalar; what is not found is absent. -/
def castText (casters : Casters) (zone : LocalZone) (target : ScalarType) (raw : String) :
    Except CastError Literal := do
  let found ← casters.cast zone target raw
  .ok (found.getD .null)

/-- Cast a JSON scalar by its text. -/
def castValue (casters : Casters) (zone : LocalZone) (target : ScalarType) (value : Json) :
    Except CastError Literal :=
  match value with
  | .null => .ok .null
  | .str s => casters.castText zone target s
  | .num n => casters.castText zone target n.text
  | .bool b => casters.castText zone target (if b then "true" else "false")
  | .arr _ | .obj _ => .error (.notScalar value.text target)

/-- Cast what is not a list. A whole number for a 64-bit field is taken as it is. -/
def castLeaf (casters : Casters) (zone : LocalZone) (target : ScalarType) (value : Json) :
    Except CastError Literal :=
  match target, value with
  | .i64, .num (.int n) =>
    if Number.fitsInt64 n then .ok (.i64 (Int64.ofInt n)) else casters.castValue zone target value
  | _, _ => casters.castValue zone target value

mutual

/-- Cast an item of a list: the literals of a nested list, or one literal. -/
def castItem (casters : Casters) (zone : LocalZone) (target : ScalarType) :
    Json → Except CastError (List Literal)
  | .arr items => castList casters zone target items
  | value => do
    let l ← casters.castLeaf zone target value
    .ok [l]

/-- Cast the items of a list in order, with nested lists flattened. -/
def castList (casters : Casters) (zone : LocalZone) (target : ScalarType) :
    List Json → Except CastError (List Literal)
  | [] => .ok []
  | value :: rest => do
    let first ← castItem casters zone target value
    let others ← castList casters zone target rest
    .ok (first ++ others)

end

end Casters

end RowFilter
