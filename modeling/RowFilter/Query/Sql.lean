import RowFilter.Query.Predicate

/-!
# SQL statements

A selection is rendered as a list of fragments: text, or a literal that becomes an argument. Only at
the end are the arguments numbered, from the first to the last, so that no literal ever becomes part
of the text. Columns of the root record are qualified by its table once there are joins, and columns
of joined records by the path of the join.
-/

namespace RowFilter

/-- Why a selection has no SQL form. -/
inductive SqlError where
  /-- A list holds something else than literals. -/
  | unsupportedListItem
  /-- A join stands before the join of its parent relation. -/
  | orphanJoin (path : Path)
  | unboundPath (path : Path)
  deriving Repr, DecidableEq

/-- The text of the error. -/
def SqlError.message : SqlError → String
  | unsupportedListItem =>
    "Unsupported expression type: Only literal expressions are supported in IN lists"
  | orphanJoin path =>
    "Join for " ++ path.text ++ " is declared before the join of its parent relation"
  | unboundPath path => "Path " ++ path.text ++ " refers to a relation that is not joined"

/-- A statement with numbered placeholders, and its arguments in that order. -/
structure Statement where
  text : String
  arguments : List Literal
  deriving Repr, DecidableEq

namespace Sql

/-- A piece of a statement. -/
inductive Fragment where
  | text (s : String)
  | argument (l : Literal)
  deriving Repr, DecidableEq

/-- The text of fragments whose first placeholder has this number. -/
def numberedText : Nat → List Fragment → String
  | _, [] => ""
  | n, .text s :: rest => s ++ numberedText n rest
  | n, .argument _ :: rest => "$" ++ Number.natText n ++ numberedText (n + 1) rest

/-- The arguments among fragments. -/
def arguments : List Fragment → List Literal
  | [] => []
  | .text _ :: rest => arguments rest
  | .argument l :: rest => l :: arguments rest

/-- The statement that fragments make up. -/
def assemble (fragments : List Fragment) : Statement :=
  ⟨numberedText 1 fragments, arguments fragments⟩

/-- An identifier in quotes, with those inside it doubled. -/
def identifier (name : String) : String := "\"" ++ Text.doubled '"' name ++ "\""

/-- A column of a named table. -/
def column (table name : String) : String := identifier table ++ "." ++ identifier name

/-- How columns are named: by which table those of the root record are qualified, if by any, and
which joins have been declared. -/
structure Scope where
  root : Option String
  joined : List Path
  deriving Repr, DecidableEq

/-- The column that a path names. -/
def Scope.column (scope : Scope) (path : Path) : Except SqlError String :=
  let owner := path.parent
  if owner.isRoot then
    match scope.root with
    | some table => .ok (Sql.column table path.property)
    | none => .ok (identifier path.property)
  else if scope.joined.contains owner then
    .ok (Sql.column owner.text path.property)
  else
    .error (.unboundPath owner)

/-- A literal as an argument; the absent value is written out. -/
def ofLiteral : Literal → Fragment
  | .null => .text "NULL"
  | l => .argument l

/-- The items of a list with commas between them. Only literals can be items. -/
def ofItems : List Expr → Except SqlError (List Fragment)
  | [] => .ok []
  | [.literal l] => .ok [ofLiteral l]
  | .literal l :: rest => do
    let others ← ofItems rest
    .ok (ofLiteral l :: .text ", " :: others)
  | _ => .error .unsupportedListItem

/-- The fragments of an expression. -/
def ofExpr (scope : Scope) : Expr → Except SqlError (List Fragment)
  | .literal l => .ok [ofLiteral l]
  | .path p => do
    let c ← scope.column p
    .ok [.text c]
  | .upper inner => do
    let fs ← ofExpr scope inner
    .ok (.text "UPPER(" :: fs ++ [.text ")"])
  | .timeOfDay inner => do
    let fs ← ofExpr scope inner
    .ok (.text "CAST((" :: fs ++ [.text " AT TIME ZONE 'UTC') AS TIME)"])
  | .list items => do
    let fs ← ofItems items
    .ok (.text "(" :: fs ++ [.text ")"])

/-- The fragments of a comparison. No value is in an empty list, for which SQL has no notation. -/
def ofComparison (scope : Scope) (left : Expr) (operator : Comparison) (right : Expr) :
    Except SqlError (List Fragment) :=
  match operator, right with
  | .isIn, .list [] => .ok [.text "FALSE"]
  | _, _ => do
    let l ← ofExpr scope left
    let r ← ofExpr scope right
    .ok (l ++ .text (" " ++ operator.sign ++ " ") :: r)

/-- The fragments of a predicate. -/
def ofPredicate (scope : Scope) : Predicate → Except SqlError (List Fragment)
  | .compare left operator right => ofComparison scope left operator right
  | .like expr pattern => do
    let fs ← ofExpr scope expr
    .ok (fs ++ [.text " LIKE ", .argument (.string pattern)])
  | .between expr low high => do
    let e ← ofExpr scope expr
    let l ← ofExpr scope low
    let h ← ofExpr scope high
    .ok (e ++ .text " BETWEEN " :: l ++ .text " AND " :: h)
  | .isNull expr => do
    let fs ← ofExpr scope expr
    .ok (fs ++ [.text " IS NULL"])
  | .and left right => do
    let l ← ofPredicate scope left
    let r ← ofPredicate scope right
    .ok (l ++ .text " AND " :: r)
  | .or left right => do
    let l ← ofPredicate scope left
    let r ← ofPredicate scope right
    .ok (.text "(" :: l ++ .text " OR " :: r ++ [.text ")"])
  | .not inner => do
    let fs ← ofPredicate scope inner
    .ok (.text "NOT (" :: fs ++ [.text ")"])
  | .true => .ok [.text "TRUE"]
  | .false => .ok [.text "FALSE"]

/-- The name by which the owner of a join is known. -/
def ownerAlias (table : String) (joined : List Path) (join : Join) : Except SqlError String :=
  let owner := join.path.parent
  if owner.isRoot then .ok table
  else if joined.contains owner then .ok owner.text
  else .error (.orphanJoin join.path)

/-- The clause of one join. -/
def joinClause (owner : String) (join : Join) : String :=
  " INNER JOIN " ++ identifier join.collection ++ " AS " ++ identifier join.path.text ++ " ON " ++
    column owner join.localKey ++ " = " ++ column join.path.text join.foreignKey

/-- The clauses of joins that follow those already declared. -/
def joinClauses (table : String) (joined : List Path) : List Join → Except SqlError (List Fragment)
  | [] => .ok []
  | join :: rest => do
    let owner ← ownerAlias table joined join
    let others ← joinClauses table (joined ++ [join.path]) rest
    .ok (.text (joinClause owner join) :: others)

/-- The scope of a statement that selects from a table. -/
def scopeOf (table : String) (s : Selection) : Scope := ⟨some table, s.joins.map Join.path⟩

/-- The tables of a selection and its condition. -/
def fromWhere (table : String) (s : Selection) : Except SqlError (List Fragment) := do
  let joins ← joinClauses table [] s.joins
  let condition ← ofPredicate (scopeOf table s) s.predicate
  .ok (.text (" FROM " ++ identifier table) :: joins ++ .text " WHERE " :: condition)

/-- A direction of sorting. -/
def directionText : Direction → String
  | .ascending => " ASC"
  | .descending => " DESC"

/-- The columns of an order. -/
def orderColumns (scope : Scope) : List OrderItem → Except SqlError (List String)
  | [] => .ok []
  | item :: rest => do
    let c ← scope.column item.path
    let others ← orderColumns scope rest
    .ok ((c ++ directionText item.direction) :: others)

/-- The order of a selection. -/
def orderClause (scope : Scope) (items : List OrderItem) : Except SqlError (List Fragment) :=
  match items with
  | [] => .ok []
  | items => do
    let columns ← orderColumns scope items
    .ok [.text (" ORDER BY " ++ Text.join ", " columns)]

/-- A window clause with its number, if there is one. -/
def windowClause (word : String) : Option Nat → List Fragment
  | none => []
  | some n => [.text (" " ++ word ++ " " ++ Number.natText n)]

/-- The condition of a predicate alone, in which columns of the root record are not qualified. -/
def whereClause (p : Predicate) : Except SqlError Statement := do
  let fs ← ofPredicate ⟨none, []⟩ p
  .ok (assemble fs)

/-- The statement for the rows of a selection. With joins a row could occur more than once, so the
rows are made distinct. -/
def select (table : String) (s : Selection) : Except SqlError Statement := do
  let rows ← fromWhere table s
  let order ← orderClause (scopeOf table s) (s.orderBy.getD [])
  let distinct := if s.joins.isEmpty then "" else "DISTINCT "
  .ok (assemble (.text ("SELECT " ++ distinct ++ identifier table ++ ".*") :: rows ++ order ++
    windowClause "LIMIT" s.limit ++ windowClause "OFFSET" s.offset))

/-- The statement for the number of rows of a selection, whatever its order and window. -/
def count (table : String) (s : Selection) : Except SqlError Statement := do
  let rows ← fromWhere table s
  .ok (assemble (.text ("SELECT COUNT(*) FROM (SELECT DISTINCT " ++ identifier table ++ ".*") ::
    rows ++ [.text ") AS \"matches\""]))

end Sql

end RowFilter
