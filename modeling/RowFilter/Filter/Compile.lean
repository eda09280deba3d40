import RowFilter.Filter.Node
import RowFilter.StableSort

/-!
# Compiling filters

Filter nodes become one predicate and the joins that its paths go through. The first node begins the
predicate and every later one is joined to it by its own combinator. Text is compared in upper case
on both sides. A filter on a relation joins the related records and is compiled below the path of
the join; a condition on the members of a to-many relation goes through a join to their identity.
-/

namespace RowFilter

/-- A predicate and the joins that its paths go through, owners before what they own. -/
structure Compiled where
  predicate : Predicate
  joins : List Join
  deriving Repr

namespace Compiled

/-- What every record satisfies, without any join. -/
def everything : Compiled := ⟨.true, []⟩

/-- The predicate of several conditions, each with the combinator that joins it to those before. -/
def combinedPredicate : List (Combinator × Predicate) → Predicate
  | [] => .true
  | (_, first) :: rest => rest.foldl (fun p part => part.1.apply p part.2) first

/-- Several conditions as one. -/
def combine (parts : List (Combinator × Compiled)) : Compiled :=
  ⟨combinedPredicate (parts.map fun part => (part.1, part.2.predicate)),
    parts.flatMap fun part => part.2.joins⟩

/-- The negation of a condition, where that is asked for; its joins stay. -/
def negated (negation : Negation) (c : Compiled) : Compiled :=
  ⟨negation.apply c.predicate, c.joins⟩

/-- The joins without those whose path has been joined before. -/
def distinctJoins : List Join → List Join
  | [] => []
  | join :: rest => join :: (distinctJoins rest).filter (·.path ≠ join.path)

end Compiled

/-- What filters are compiled with. -/
structure FilterContext where
  catalog : Catalog
  /-- The key of a filter map that holds the page and no condition. -/
  pageKey : String
  casters : Casters
  /-- The zone of dates and times that carry none. -/
  zone : Civil.LocalZone
  deriving Repr

namespace FilterNode

/-- Whether a condition on single values has a meaning for a type. -/
def suits (type : ScalarType) (condition : Condition) : Bool :=
  (match condition with
    | .equals _ | .joined _ => true
    | .like _ => type.isText
    | .isIn _ => !type.isBool
    | .range _ _ => !type.isBool && !type.isEnum) &&
    (!condition.flags.contains .timeOfDay || type.hasTimeOfDay)

/-- Whether the operator has a meaning for the type of the field. A relation whose target has no
identity can only be tested for being null. -/
def isSupported (n : FilterNode) : Bool :=
  match n.condition, n.type.valueType? with
  | .joined _, _ => true
  | condition, none => condition.isNullTest
  | condition, some type => suits type condition

end FilterNode

namespace FilterContext

/-- The expression for a column: text is compared in upper case. -/
def column (type : ScalarType) (path : Path) : Expr :=
  if type.isText then .upper (.path path) else .path path

/-- The literal that a value stands for. -/
def literal (c : FilterContext) (type : ScalarType) (value : Json) :
    Except FilterError Literal := do
  let l ← (c.casters.castValue c.zone type value).mapError .unparseable
  .ok (if type.isText then l.upper else l)

/-- The literals that the items of a list stand for. -/
def candidates (c : FilterContext) (type : ScalarType) (values : List Json) :
    Except FilterError (List Literal) := do
  let ls ← (c.casters.castList c.zone type values).mapError .unparseable
  .ok (if type.isText then ls.map Literal.upper else ls)

/-- The condition that a column lies within bounds. -/
def boundsPredicate (column : Expr) : Bounds Literal → Predicate
  | .between low high => .between column (.literal low) (.literal high)
  | .atLeast low => .compare column .greaterThanOrEqual (.literal low)
  | .atMost high => .compare column .lessThanOrEqual (.literal high)

/-- The conditions that the time of day lies between those of the bounds. -/
def timePredicates (path : Path) (bounds : Bounds Literal) : List Predicate :=
  let bound (operator : Comparison) (l : Option Literal) : List Predicate :=
    match l.bind Literal.timeOfDay? with
    | some t => [.compare (.timeOfDay (.path path)) operator (.literal (.time t))]
    | none => []
  bound .greaterThanOrEqual bounds.low? ++ bound .lessThanOrEqual bounds.high?

/-- The predicate of a condition on the values of a column. -/
def compileValue (c : FilterContext) (n : FilterNode) (type : ScalarType) (path : Path) :
    Except FilterError Predicate :=
  let column := FilterContext.column type path
  match n.condition with
  | .equals .null => .ok (.isNull (.path path))
  | .equals value => do
    let l ← c.literal type value
    .ok (.compare column .equal (.literal l))
  | .like pattern => .ok (.like column (Text.upper pattern))
  | .isIn values => do
    let ls ← c.candidates type values
    .ok (.compare column .isIn (.list (ls.map .literal)))
  | .range bounds flags => do
    let ends ← bounds.convert (c.literal type)
    let times := if flags.contains .timeOfDay then timePredicates path ends else []
    .ok (times.foldl .and (boundsPredicate column ends))
  | .joined _ => .error n.unsupported

/-- The schema of the records that a relation leads to. A target that the catalog does not know has
no fields. -/
def target (c : FilterContext) (r : Relation) : FieldSchema :=
  (c.catalog.resolve r.target).getD (.empty r.target)

/-- The join that follows a relation. -/
def joinOf (c : FilterContext) (r : Relation) (path : Path) (fetch : FetchMode) : Join :=
  ⟨path, (c.target r).collection, r.localKey, r.foreignKey, fetch⟩

/-- The nodes of a nested filter in the order in which the target declares their fields. Names that
the target does not declare are dropped. -/
def children (c : FilterContext) (target : FieldSchema) (combinator : Combinator)
    (filter : FilterMap) : Except FilterError (List FilterNode) := do
  let reading ← FilterReading.ofMap target c.pageKey combinator filter
  let position (n : FilterNode) : Nat := (target.index? n.field).getD 0
  .ok (StableSort.sort (fun m n => position m < position n) reading.nodes)

/-- Compile a node of the records at a path, given how the nodes of related records are compiled. -/
def compileNode (c : FilterContext)
    (nested : FieldSchema → Path → List FilterNode → Except FilterError Compiled)
    (schema : FieldSchema) (root : Path) (n : FilterNode) : Except FilterError Compiled :=
  let path := root.child n.field
  if n.isSupported then
    match n.type, schema.get? n.field with
    | .scalar type, _ => do
      let p ← c.compileValue n type path
      .ok ⟨p, []⟩
    | .relation _ cardinality identity, some (.relation r) =>
      match n.condition with
      | .joined filter => do
        let nodes ← c.children (c.target r) n.combinator filter
        let inner ← nested (c.target r) path nodes
        .ok ⟨inner.predicate, c.joinOf r path r.fetch :: inner.joins⟩
      | .equals .null => .ok ⟨.isNull (.path path), []⟩
      | _ =>
        match identity, r.identity, cardinality with
        | some type, some _, .one => do
          let p ← c.compileValue n type path
          .ok ⟨p, []⟩
        | some type, some (field, _), .many => do
          let p ← c.compileValue n type (path.child field)
          .ok ⟨p, [c.joinOf r path .lazy]⟩
        | _, _, _ => .error n.unsupported
    | .relation _ _ _, _ => .error n.unsupported
  else
    .error n.unsupported

/-- Compile the nodes of the records at a path. The fuel is spent on nested filters. -/
def compileLevel (c : FilterContext) :
    Nat → FieldSchema → Path → List FilterNode → Except FilterError Compiled
  | 0, _, _, _ => .ok .everything
  | fuel + 1, schema, root, nodes => do
    let parts ← nodes.mapM fun n => do
      let part ← c.compileNode (c.compileLevel fuel) schema root n
      .ok (n.combinator, part.negated n.negation)
    .ok (.combine parts)

/-- How many filters are nested in nodes at most. -/
def depth (nodes : List FilterNode) : Nat :=
  nodes.foldr (fun n deepest => max n.condition.depth deepest) 0

/-- Compile nodes. Without nodes every record passes. -/
def compile (c : FilterContext) (schema : FieldSchema) (nodes : List FilterNode) :
    Except FilterError Compiled := do
  let compiled ← c.compileLevel (depth nodes + 1) schema .root nodes
  .ok ⟨compiled.predicate, Compiled.distinctJoins compiled.joins⟩

end FilterContext

end RowFilter
