import RowFilter.Filter.Condition

/-!
# Filter nodes

A filter map is read into nodes, one typed condition for each of its entries. The entry under the
page key is no condition, and the entries of the map under `NOT` are negated. Names that the schema
does not declare are set aside, in order.
-/

namespace RowFilter

/-- A condition on a field, and how it is joined to the conditions before it. -/
structure FilterNode where
  field : String
  type : DeclaredType
  condition : Condition
  combinator : Combinator
  negation : Negation
  deriving Repr

namespace FilterNode

/-- The operator of the condition. -/
def operator (n : FilterNode) : Operator := n.condition.operator

/-- The first of the values, unless it is null: the lower bound of a range. -/
def low? (n : FilterNode) : Option Json := n.condition.values[0]?.filter (!·.isNull)

/-- The second of the values, unless it is null: the upper bound of a range. -/
def high? (n : FilterNode) : Option Json := n.condition.values[1]?.filter (!·.isNull)

/-- Whether the condition has this modifier. -/
def hasFlag (n : FilterNode) (flag : ControlFlag) : Bool := n.condition.flags.contains flag

/-- The complaint that the operator has no meaning for the type of the field. -/
def unsupported (n : FilterNode) : FilterError := .unsupportedOperation n.operator n.type n.field

end FilterNode

/-- An entry of a filter map that states a condition. -/
structure FilterEntry where
  negation : Negation
  key : String
  value : Json
  deriving Repr

namespace FilterEntry

/-- The key whose entries are negated, in any case. -/
def isNotKey (key : String) : Bool := Text.equalIgnoringAsciiCase key "NOT"

/-- The conditions that one entry of a filter map contains. A `NOT` entry without a map contains
none. -/
def ofEntry (pageKey : String) (entry : String × Json) : List FilterEntry :=
  if entry.1 = pageKey then []
  else if isNotKey entry.1 then
    match entry.2 with
    | .obj negated => negated.map fun inner => ⟨.not, inner.1, inner.2⟩
    | _ => []
  else [⟨.none, entry.1, entry.2⟩]

/-- The conditions that a filter map contains, in order. -/
def ofMap (pageKey : String) (filter : FilterMap) : List FilterEntry :=
  filter.flatMap (ofEntry pageKey)

/-- The name of the field that the key stands for. -/
def field (e : FilterEntry) : String := Naming.camelCase e.key

end FilterEntry

/-- What an entry is read as. -/
inductive Reading where
  | node (n : FilterNode)
  /-- A name that the schema does not declare. -/
  | unknown (field : String)
  deriving Repr

namespace Reading

/-- What an entry stands for in a schema. -/
def ofEntry (schema : FieldSchema) (combinator : Combinator) (e : FilterEntry) :
    Except FilterError Reading :=
  match schema.get? e.field with
  | none => .ok (unknown e.field)
  | some kind => do
    let type := DeclaredType.ofFieldKind kind
    let condition ← Condition.ofValue type e.field e.value
    .ok (node ⟨e.field, type, condition, combinator, e.negation⟩)

/-- The node, if there is one. -/
def node? : Reading → Option FilterNode
  | node n => some n
  | unknown _ => none

/-- The unknown name, if there is one. -/
def unknown? : Reading → Option String
  | node _ => none
  | unknown field => some field

end Reading

/-- The nodes of a filter map, and the names that the schema does not declare. -/
structure FilterReading where
  nodes : List FilterNode
  unknown : List String
  deriving Repr

namespace FilterReading

/-- What a filter map says about records of a schema. -/
def ofMap (schema : FieldSchema) (pageKey : String) (combinator : Combinator)
    (filter : FilterMap) : Except FilterError FilterReading := do
  let readings ← (FilterEntry.ofMap pageKey filter).mapM (Reading.ofEntry schema combinator)
  .ok ⟨readings.filterMap Reading.node?, readings.filterMap Reading.unknown?⟩

/-- The nodes, or the complaint about every unknown name. -/
def known (r : FilterReading) (entity : String) : Except FilterError (List FilterNode) :=
  if r.unknown.isEmpty then .ok r.nodes else .error (.unknownFields entity r.unknown)

end FilterReading

/-- The nodes of a filter map all of whose names the schema declares. -/
def FilterNode.ofMap (schema : FieldSchema) (pageKey : String) (combinator : Combinator)
    (filter : FilterMap) : Except FilterError (List FilterNode) := do
  let reading ← FilterReading.ofMap schema pageKey combinator filter
  reading.known schema.entity

end RowFilter
