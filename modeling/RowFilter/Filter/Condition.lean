import RowFilter.Filter.Flag

/-!
# Conditions

The condition that an entry states follows from the shape of its value: a text with a wildcard at
either end is a pattern, a list offers candidates, a record of bounds is a range, and any other
scalar is compared for equality. An object that is no range is a nested filter when its field is a
relation, and a bag of candidates when it is a scalar.
-/

namespace RowFilter

namespace Json

mutual

/-- The value with its text, or the texts of a list at any depth, in upper case. -/
def upper : Json → Json
  | str s => str (Text.upper s)
  | arr items => arr (upperItems items)
  | value => value

/-- The items of a list in upper case. -/
def upperItems : List Json → List Json
  | [] => []
  | value :: rest => value.upper :: upperItems rest

end

end Json

/-- The bounds of a range, each included. -/
inductive Bounds (α : Type) where
  | between (low high : α)
  | atLeast (low : α)
  | atMost (high : α)
  deriving Repr

namespace Bounds

/-- The bounds with these ends, where null stands for no bound. -/
def ofEnds? (low high : Json) : Option (Bounds Json) :=
  match low.isNull, high.isNull with
  | false, false => some (between low high)
  | false, true => some (atLeast low)
  | true, false => some (atMost high)
  | true, true => none

/-- The lower bound. -/
def low? {α : Type} : Bounds α → Option α
  | between low _ | atLeast low => some low
  | atMost _ => none

/-- The upper bound. -/
def high? {α : Type} : Bounds α → Option α
  | between _ high | atMost high => some high
  | atLeast _ => none

/-- The bounds with each end converted, the lower one first. -/
def convert {ε α β : Type} (f : α → Except ε β) : Bounds α → Except ε (Bounds β)
  | between low high => do
    let l ← f low
    let h ← f high
    .ok (between l h)
  | atLeast low => do
    let l ← f low
    .ok (atLeast l)
  | atMost high => do
    let h ← f high
    .ok (atMost h)

end Bounds

/-- The condition that an entry of a filter map states. -/
inductive Condition where
  | equals (value : Json)
  | like (pattern : String)
  | isIn (candidates : List Json)
  | range (bounds : Bounds Json) (flags : List ControlFlag)
  /-- A filter on the records that a relation leads to. -/
  | joined (filter : FilterMap)
  deriving Repr

namespace Condition

/-- The operator of a condition. -/
def operator : Condition → Operator
  | equals _ => .equals
  | like _ => .like
  | isIn _ => .isIn
  | range (.between _ _) _ => .between
  | range (.atLeast _) _ => .greaterThan
  | range (.atMost _) _ => .lessThan
  | joined _ => .join

/-- The value of a condition on a single value. -/
def value? : Condition → Option Json
  | equals value => some value
  | like pattern => some (.str pattern)
  | joined filter => some (.obj filter)
  | isIn _ | range _ _ => none

/-- The candidates of a list, or both ends of a range. -/
def values : Condition → List Json
  | isIn candidates => candidates
  | range bounds _ => [bounds.low?.getD .null, bounds.high?.getD .null]
  | equals _ | like _ | joined _ => []

/-- The modifiers of a range. -/
def flags : Condition → List ControlFlag
  | range _ flags => flags
  | equals _ | like _ | isIn _ | joined _ => []

/-- Whether the condition is that the field has no value. -/
def isNullTest : Condition → Bool
  | equals .null => true
  | _ => false

/-- The condition with the texts that it compares with in upper case. The bounds of a range and
nested filters are kept. -/
def upper : Condition → Condition
  | equals value => equals value.upper
  | like pattern => like (Text.upper pattern)
  | isIn candidates => isIn (Json.upperItems candidates)
  | range bounds flags => range bounds flags
  | joined filter => joined filter

/-- How many filters are nested in a condition at most. -/
def depth : Condition → Nat
  | joined filter => Json.depthOfFields filter + 1
  | equals _ | like _ | isIn _ | range _ _ => 0

/-- Whether a text has a wildcard at either end. -/
def isPattern (s : String) : Bool := s.toList.head? == some '%' || s.toList.getLast? == some '%'

/-- Whether an object is a record of bounds: at least one of them, and nothing else but flags. -/
def isRange (fields : FilterMap) : Bool :=
  (fields.contains "from" || fields.contains "to") &&
    fields.keys.all fun key => key == "from" || key == "to" || key == "flags"

/-- The range that a record of bounds states for a field. -/
def ofRange (field : String) (fields : FilterMap) : Except FilterError Condition :=
  match Bounds.ofEnds? ((fields.get? "from").getD .null) ((fields.get? "to").getD .null) with
  | none => .error (.emptyRange field)
  | some bounds => do
    let flags ← ControlFlag.ofValue ((fields.get? "flags").getD .null)
    .ok (range bounds flags)

/-- The condition that a value states for a field of a declared type, as it is written. -/
def ofWritten (type : DeclaredType) (field : String) : Json → Except FilterError Condition
  | .str s => .ok (if isPattern s then like s else equals (.str s))
  | .arr items => .ok (isIn items)
  | .obj fields =>
    if isRange fields then ofRange field fields
    else .ok (if type.isRelation then joined fields else isIn (Keyed.values fields))
  | value => .ok (equals value)

/-- The condition that a value states for a field of a declared type. What is compared with text is
put in upper case. -/
def ofValue (type : DeclaredType) (field : String) (value : Json) :
    Except FilterError Condition := do
  let condition ← ofWritten type field value
  .ok (if type.isText then condition.upper else condition)

end Condition

end RowFilter
