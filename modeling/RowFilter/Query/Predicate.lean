import RowFilter.Literal.Basic
import RowFilter.Query.Path

/-!
# Predicates and selections

A predicate is a condition on a record and on the records that its relations lead to. A selection is
a predicate with the joins that its paths follow, an order and a window of rows.
-/

namespace RowFilter

/-- An expression over the properties of a record. -/
inductive Expr where
  | literal (l : Literal)
  | path (p : Path)
  /-- The upper case of a text. -/
  | upper (inner : Expr)
  /-- The time of day, in UTC, of a value that has one. -/
  | timeOfDay (inner : Expr)
  | list (items : List Expr)
  deriving Repr

/-- The operators of comparisons. -/
inductive Comparison where
  | equal
  | notEqual
  | greaterThan
  | greaterThanOrEqual
  | lessThan
  | lessThanOrEqual
  /-- Being equal to a member of a list. -/
  | isIn
  deriving Repr, DecidableEq

/-- A condition on a record. -/
inductive Predicate where
  | compare (left : Expr) (operator : Comparison) (right : Expr)
  /-- A match with a pattern, in which `%` and `_` are wildcards. -/
  | like (expr : Expr) (pattern : String)
  /-- A range that contains both its ends. -/
  | between (expr low high : Expr)
  | isNull (expr : Expr)
  | and (left right : Predicate)
  | or (left right : Predicate)
  | not (inner : Predicate)
  | true
  | false
  deriving Repr

/-- Whether related records are loaded with their owner or on demand. -/
inductive FetchMode where
  | eager
  | lazy
  deriving Repr, DecidableEq

/-- An inner join that follows a relation of a record that is already joined. -/
structure Join where
  path : Path
  /-- The collection that the relation points into. -/
  collection : String
  /-- The column of the owner. -/
  localKey : String
  /-- The column of the related record. -/
  foreignKey : String
  fetch : FetchMode
  deriving Repr, DecidableEq

/-- A direction of sorting. -/
inductive Direction where
  | ascending
  | descending
  deriving Repr, DecidableEq

/-- One column of an order. -/
structure OrderItem where
  path : Path
  direction : Direction
  deriving Repr, DecidableEq

/-- Which rows to take, in which order, and which window of them. -/
structure Selection where
  predicate : Predicate
  joins : List Join
  orderBy : Option (List OrderItem)
  limit : Option Nat
  offset : Option Nat
  deriving Repr

/-- The selection of all rows that satisfy a predicate. -/
def Selection.ofPredicate (predicate : Predicate) : Selection := ⟨predicate, [], none, none, none⟩

/-- The join with this path. -/
def Selection.findJoin? (s : Selection) (path : Path) : Option Join :=
  s.joins.find? (·.path == path)

namespace Comparison

/-- The sign of an operator. -/
def sign : Comparison → String
  | equal => "="
  | notEqual => "<>"
  | greaterThan => ">"
  | greaterThanOrEqual => ">="
  | lessThan => "<"
  | lessThanOrEqual => "<="
  | isIn => "IN"

/-- Whether an order of the two sides satisfies the operator. Membership is satisfied by
equality. -/
def holds : Comparison → Ordering → Bool
  | equal, o => o == .eq
  | notEqual, o => o != .eq
  | greaterThan, o => o == .gt
  | greaterThanOrEqual, o => o != .lt
  | lessThan, o => o == .lt
  | lessThanOrEqual, o => o != .gt
  | isIn, o => o == .eq

end Comparison

namespace Expr

mutual

/-- An expression as people read it. -/
def display : Expr → String
  | literal l => l.display
  | path p => p.text
  | upper inner => "UPPER(" ++ inner.display ++ ")"
  | timeOfDay inner => "TIME(" ++ inner.display ++ ")"
  | list items => "(" ++ Text.join ", " (displays items) ++ ")"

/-- Several expressions as people read them. -/
def displays : List Expr → List String
  | [] => []
  | e :: rest => e.display :: displays rest

end

end Expr

namespace Predicate

/-- A predicate as people read it. -/
def display : Predicate → String
  | compare left operator right => left.display ++ " " ++ operator.sign ++ " " ++ right.display
  | like expr pattern => expr.display ++ " LIKE " ++ Literal.stringDisplay pattern
  | between expr low high =>
    expr.display ++ " BETWEEN " ++ low.display ++ " AND " ++ high.display
  | isNull expr => expr.display ++ " IS NULL"
  | and left right => left.display ++ " AND " ++ right.display
  | or left right => "(" ++ left.display ++ " OR " ++ right.display ++ ")"
  | not inner => "NOT (" ++ inner.display ++ ")"
  | true => "TRUE"
  | false => "FALSE"

/-- Whether this is the predicate that every record satisfies. -/
def isTrue : Predicate → Bool
  | true => .true
  | _ => .false

end Predicate

end RowFilter
