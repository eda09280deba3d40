import RowFilter.Literal.Collation
import RowFilter.Query.Like
import RowFilter.Query.Predicate

/-!
# Evaluating predicates

Predicates are evaluated under three-valued logic: a comparison with an absent value is unknown, and
a record passes only where the predicate is true. Joins are inner joins: a record passes when some
choice of one related record for every join makes the predicate true.
-/

namespace RowFilter

/-- Why a predicate cannot be evaluated on a record. -/
inductive EvalError where
  /-- The path goes through a relation that is not joined. -/
  | unboundPath (path : Path)
  | relationNotFound (path : Path)
  | typeMismatch (left right : String)
  | invalidArgument (function value : String)
  /-- A list stands where a single value is wanted. -/
  | misplacedList
  /-- A membership test has no list on its right. -/
  | missingList
  deriving Repr, DecidableEq

/-- The text of the error. -/
def EvalError.message : EvalError → String
  | unboundPath path => "path " ++ path.text ++ " refers to a relation that is not joined"
  | relationNotFound path => "relation not found: " ++ path.text
  | typeMismatch left right => "cannot compare " ++ left ++ " with " ++ right
  | invalidArgument function value => function ++ " is not defined for " ++ value
  | misplacedList => "invalid expression: a list is only valid on the right side of IN"
  | missingList => "invalid expression: IN requires a list"

/-- Records that can be filtered. -/
class Filterable (R : Type) where
  /-- The value of a property, if the record has it. -/
  value? : R → String → Option Literal
  /-- The records that a relation leads to, if the record has the relation. -/
  related? : R → String → Option (List R)

/-- A choice of joined records, each by the path of its join. -/
abbrev Binding (R : Type) := List (Path × R)

namespace Binding

variable {R : Type}

/-- The choice before any join: the record itself. -/
def root (record : R) : Binding R := [(Path.root, record)]

/-- The record that was chosen for a path. -/
def get? (b : Binding R) (path : Path) : Option R := b.lookup path

/-- The choice with one more record. -/
def extend (b : Binding R) (path : Path) (record : R) : Binding R := b ++ [(path, record)]

variable [Filterable R]

/-- The ways to choose a record for one more join. -/
def follow (join : Join) (b : Binding R) : Except EvalError (List (Binding R)) :=
  match b.get? join.path.parent with
  | none => .error (.unboundPath join.path)
  | some owner =>
    match Filterable.related? owner join.path.property with
    | none => .error (.relationNotFound join.path)
    | some related => .ok (related.map (b.extend join.path))

/-- The ways to extend each of several choices, in order. -/
def followAll (join : Join) : List (Binding R) → Except EvalError (List (Binding R))
  | [] => .ok []
  | b :: rest => do
    let first ← b.follow join
    let others ← followAll join rest
    .ok (first ++ others)

/-- Every choice of a record for each join, in lexicographic order. -/
def expand (record : R) (joins : List Join) : Except EvalError (List (Binding R)) :=
  joins.foldlM (fun bindings join => followAll join bindings) [root record]

end Binding

/-- A truth value; none stands for unknown. -/
abbrev Truth := Option Bool

namespace Truth

/-- False if either side is, true if both are, else unknown. -/
def and : Truth → Truth → Truth
  | some false, _ => some false
  | _, some false => some false
  | some true, some true => some true
  | _, _ => none

/-- True if either side is, false if both are, else unknown. -/
def or : Truth → Truth → Truth
  | some true, _ => some true
  | _, some true => some true
  | some false, some false => some false
  | _, _ => none

/-- The other truth value; unknown stays unknown. -/
def not (t : Truth) : Truth := t.map (!·)

end Truth

variable {R : Type} [Filterable R]

/-- The value of an expression. -/
def Expr.evaluate (b : Binding R) : Expr → Except EvalError Literal
  | .literal l => .ok l
  | .path p =>
    match b.get? p.parent with
    | none => .error (.unboundPath p)
    | some owner => .ok ((Filterable.value? owner p.property).getD .null)
  | .upper inner => do
    match ← inner.evaluate b with
    | .string s | .enum s => .ok (.string (Text.upper s))
    | .char c => .ok (.string (String.ofList (Text.upperChar c)))
    | .null => .ok .null
    | l => .error (.invalidArgument "UPPER" l.display)
  | .timeOfDay inner => do
    let l ← inner.evaluate b
    match l.timeOfDay? with
    | some t => .ok (.time t)
    | none => if l.isNull then .ok .null else .error (.invalidArgument "TIME" l.display)
  | .list _ => .error .misplacedList

/-- The order of two values, or the complaint that they have none. -/
def collateOrMismatch (left right : Literal) : Except EvalError Ordering :=
  match left.collate right with
  | some o => .ok o
  | none => .error (.typeMismatch left.display right.display)

namespace Predicate

/-- Whether a value equals one of the candidates. An absent candidate leaves the answer unknown,
unless a later candidate is equal. -/
def isMember (b : Binding R) (value : Literal) : List Expr → Except EvalError Truth
  | [] => .ok (some .false)
  | candidate :: rest => do
    let l ← candidate.evaluate b
    if l.isNull then
      let others ← isMember b value rest
      .ok (if others = some .true then some .true else none)
    else
      let o ← collateOrMismatch value l
      if o = .eq then .ok (some .true) else isMember b value rest

/-- Whether a value lies between two others, both ends included. -/
def isBetween (value low high : Literal) : Except EvalError Truth :=
  if value.isNull || low.isNull || high.isNull then
    .ok none
  else
    match value.inRange? (.included low) (.included high) with
    | some inside => .ok (some inside)
    | none => .error (.typeMismatch value.display (low.display ++ " AND " ++ high.display))

/-- The truth of a predicate. The right side of a conjunction or disjunction that the left side has
decided is not evaluated. -/
def evaluate (b : Binding R) : Predicate → Except EvalError Truth
  | compare left .isIn right => do
    let value ← left.evaluate b
    match right with
    | .list candidates => if value.isNull then .ok none else isMember b value candidates
    | _ => .error .missingList
  | compare left operator right => do
    let l ← left.evaluate b
    let r ← right.evaluate b
    if l.isNull || r.isNull then
      .ok none
    else
      let o ← collateOrMismatch l r
      .ok (some (operator.holds o))
  | like expr pattern => do
    let value ← expr.evaluate b
    match value.characters? with
    | some s => .ok (some (Like.isMatch s pattern))
    | none =>
      if value.isNull then .ok none else .error (.invalidArgument "LIKE" value.display)
  | between expr low high => do
    let value ← expr.evaluate b
    let l ← low.evaluate b
    let h ← high.evaluate b
    isBetween value l h
  | isNull expr => do
    let value ← expr.evaluate b
    .ok (some value.isNull)
  | and left right => do
    let l ← left.evaluate b
    if l = some .false then
      .ok (some .false)
    else
      let r ← right.evaluate b
      .ok (Truth.and l r)
  | or left right => do
    let l ← left.evaluate b
    if l = some .true then
      .ok (some .true)
    else
      let r ← right.evaluate b
      .ok (Truth.or l r)
  | not inner => do
    let t ← inner.evaluate b
    .ok (Truth.not t)
  | true => .ok (some .true)
  | false => .ok (some .false)

/-- Whether a predicate is true under one of several choices of joined records. The first choice
that makes it true, or on which it fails, decides. -/
def isTrueUnderSome (p : Predicate) : List (Binding R) → Except EvalError Bool
  | [] => .ok .false
  | b :: rest => do
    let t ← p.evaluate b
    if t = some .true then .ok .true else isTrueUnderSome p rest

/-- Whether a record passes a predicate whose paths go through joins. -/
def passes (record : R) (p : Predicate) (joins : List Join) : Except EvalError Bool := do
  let bindings ← Binding.expand record joins
  p.isTrueUnderSome bindings

end Predicate

/-- What filtering says about a record. -/
inductive Verdict where
  | pass
  | skip
  | failed (error : EvalError)
  deriving Repr, DecidableEq

/-- The verdict on a record. -/
def Verdict.of (record : R) (p : Predicate) (joins : List Join) : Verdict :=
  match p.passes record joins with
  | .ok true => pass
  | .ok false => skip
  | .error e => failed e

end RowFilter
