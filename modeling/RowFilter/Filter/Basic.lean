import RowFilter.Json.Basic
import RowFilter.Query.Predicate
import RowFilter.Schema.Resolve

/-!
# The vocabulary of filters

A filter map is a JSON object whose keys name fields. Each of its entries states a condition by an
operator, is negated or not, and is joined to the conditions before it by `AND` or `OR`.
-/

namespace RowFilter

/-- Conditions by key, as a client writes them. -/
abbrev FilterMap := Keyed Json

/-- The operators that the entries of a filter map stand for. -/
inductive Operator where
  | equals
  | like
  | isIn
  | between
  | greaterThan
  | lessThan
  | join
  deriving Repr, DecidableEq

/-- The word for an operator in messages. -/
def Operator.name : Operator → String
  | equals => "EQUALS"
  | like => "LIKE"
  | isIn => "IN"
  | between => "BETWEEN"
  | greaterThan => "GREATER_THAN"
  | lessThan => "LESS_THAN"
  | join => "JOIN"

/-- Operators that bound a value on one side or on both. -/
def Operator.isRange : Operator → Bool
  | between | greaterThan | lessThan => true
  | _ => false

/-- How a condition is joined to those before it. -/
inductive Combinator where
  | and
  | or
  deriving Repr, DecidableEq

/-- Two predicates joined into one. -/
def Combinator.apply : Combinator → Predicate → Predicate → Predicate
  | and, p, q => .and p q
  | or, p, q => .or p q

/-- Whether a condition counts as it stands or negated. -/
inductive Negation where
  | none
  | not
  deriving Repr, DecidableEq

/-- The predicate, negated where that is asked for. -/
def Negation.apply : Negation → Predicate → Predicate
  | none, p => p
  | not, p => .not p

/-- A modifier of a range. -/
inductive ControlFlag where
  /-- The time of day, too, must lie between those of the bounds. -/
  | timeOfDay
  deriving Repr, DecidableEq

/-- What the field of a condition is declared as. -/
inductive DeclaredType where
  | scalar (type : ScalarType)
  /-- A relation, with the type of the field that identifies its target. -/
  | relation (target : String) (cardinality : Cardinality) (identity : Option ScalarType)
  deriving Repr, DecidableEq

namespace DeclaredType

/-- The declared type of a field of a schema. -/
def ofFieldKind : FieldKind → DeclaredType
  | .scalar type => scalar type
  | .relation r => relation r.target r.cardinality (r.identity.map Prod.snd)

/-- The type that values are cast to: for a relation, the one of its target's identity. -/
def valueType? : DeclaredType → Option ScalarType
  | scalar type => some type
  | relation _ _ identity => identity

/-- Whether values compare without regard to case. -/
def isText (t : DeclaredType) : Bool := t.valueType?.any ScalarType.isText

/-- Whether this is a relation. -/
def isRelation : DeclaredType → Bool
  | relation .. => true
  | scalar _ => false

/-- A declared type as messages show it. -/
def display : DeclaredType → String
  | scalar type => type.display
  | relation target .one _ => target
  | relation target .many _ => "collection of " ++ target

end DeclaredType

end RowFilter
