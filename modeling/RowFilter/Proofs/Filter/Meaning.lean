import RowFilter.Filter.Compile
import RowFilter.Proofs.Cast
import RowFilter.Proofs.Query.Truth
import RowFilter.Store.Memory

/-!
# The direct meaning of filter maps

What a filter map says about a row, without nodes, predicates and joins. A related row is chosen for
every relation that the map opens. Under a choice the map is the conjunction or disjunction of its
entries, each of which compares the value of a field with what its own value stands for.
-/

namespace RowFilter

/-! ## Combinators -/

/-- The truth of conditions that are joined into one. Without conditions it is true. -/
def Combinator.truth : Combinator → List Truth → Truth
  | _, [] => some true
  | and, ts => Truth.all ts
  | or, ts => Truth.any ts

/-- The truth of a condition that counts as it stands or negated. -/
def Negation.truth : Negation → Truth → Truth
  | none, t => t
  | not, t => Truth.not t

/-! ## Conditions on a value -/

namespace FilterContext

/-- The value as the type compares it: texts are compared in upper case. -/
def folded (type : ScalarType) (l : Literal) : Literal := if type.isText then l.folded else l

/-- The value of a filter as the type takes it: texts are taken in upper case. -/
def taken (type : ScalarType) (value : Json) : Json := if type.isText then value.upper else value

/-- What is compared with the values of a type, if the cast succeeds. -/
def comparand (type : ScalarType) (cast : Except CastError Literal) : Literal :=
  folded type (cast.toOption.getD .null)

/-- The literals that a list of JSON values stands for, nested lists included. -/
def candidatesOf (c : FilterContext) (type : ScalarType) (values : List Json) : List Literal :=
  (Json.leavesOfItems values).map fun value =>
    comparand type (c.casters.castLeaf c.zone type (taken type value))

/-- The bounds that a range states, each with its comparison. -/
def boundsOf (c : FilterContext) (type : ScalarType) (fields : FilterMap) :
    List (Comparison × Literal) :=
  let bound (operator : Comparison) (value : Json) : List (Comparison × Literal) :=
    if value.isNull then []
    else [(operator, comparand type (c.casters.castValue c.zone type value))]
  bound .greaterThanOrEqual ((fields.get? "from").getD .null) ++
    bound .lessThanOrEqual ((fields.get? "to").getD .null)

/-- Whether a range also bounds the time of day. -/
def boundsTimeOfDay (fields : FilterMap) : Bool :=
  match ControlFlag.ofValue ((fields.get? "flags").getD .null) with
  | .ok flags => flags.contains .timeOfDay
  | .error _ => false

/-- The truth of what a range states about a value. -/
def rangeTruth (c : FilterContext) (type : ScalarType) (l : Literal) (fields : FilterMap) : Truth :=
  let bounds := c.boundsOf type fields
  let times := if boundsTimeOfDay fields then
      bounds.filterMap fun bound => bound.2.timeOfDay?.map fun t =>
        l.clock.compareTruth bound.1 (.time t)
    else
      []
  Truth.all ((bounds.map fun bound => (folded type l).compareTruth bound.1 bound.2) ++ times)

/-- The truth of what a JSON value states about a value of a type: a null tests for absence, a text
with a wildcard at either end is a pattern, a list and an object offer candidates unless the object
is a range, and any other value is compared for equality. -/
def valueTruth (c : FilterContext) (type : ScalarType) (l : Literal) : Json → Truth
  | .null => some l.isNull
  | .str s =>
    if Condition.isPattern s then (folded type l).likeTruth (Text.upper s)
    else (folded type l).compareTruth .equal
      (comparand type (c.casters.castValue c.zone type (taken type (.str s))))
  | .arr items => (folded type l).memberTruth (c.candidatesOf type items)
  | .obj fields =>
    if Condition.isRange fields then c.rangeTruth type l fields
    else (folded type l).memberTruth (c.candidatesOf type (Keyed.values fields))
  | value => (folded type l).compareTruth .equal
      (comparand type (c.casters.castValue c.zone type value))

/-! ## Filter maps -/

/-- The truth of what a JSON value states about the identity of a related row: of the linked row,
read as the key of a relation to one, or of the chosen row of a relation to many. -/
def identityTruth (c : FilterContext) (choice : Path → Row) (r : Relation) (path : Path)
    (field : String) (value : Json) : Truth :=
  match r.identity, r.cardinality with
  | some (_, type), .one => c.valueTruth type ((choice path).valueOrNull field) value
  | some (identity, type), .many =>
    c.valueTruth type ((choice (path.child field)).valueOrNull identity) value
  | none, _ => none

mutual

/-- The truth of what a JSON value states about a field of the row that is chosen for a path. An
object that is no range is a filter map on the row that is chosen for a relation. -/
def fieldTruth (c : FilterContext) (combinator : Combinator) (choice : Path → Row) :
    FieldKind → Path → String → Json → Truth
  | .scalar type, path, field, value => c.valueTruth type ((choice path).valueOrNull field) value
  | .relation _, path, field, .null => some ((choice path).valueOrNull field).isNull
  | .relation r, path, field, .obj fields =>
    if Condition.isRange fields then c.identityTruth choice r path field (.obj fields)
    else combinator.truth (entryTruths c combinator choice (c.target r) (path.child field) fields)
  | .relation r, path, field, value => c.identityTruth choice r path field value

/-- The truth of each entry of a filter map on the row that is chosen for a path. The page and names
that are no fields say nothing, and the entries of a map under `NOT` count negated. -/
def entryTruths (c : FilterContext) (combinator : Combinator) (choice : Path → Row) :
    FieldSchema → Path → FilterMap → List Truth
  | _, _, [] => []
  | schema, path, (key, value) :: rest =>
    (if key = c.pageKey then []
      else if FilterEntry.isNotKey key then negatedTruths c combinator choice schema path value
      else (schema.get? (Naming.camelCase key)).toList.map fun kind =>
        fieldTruth c combinator choice kind path (Naming.camelCase key) value) ++
      entryTruths c combinator choice schema path rest

/-- The truth of each entry of a map under `NOT`. What is no map says nothing. -/
def negatedTruths (c : FilterContext) (combinator : Combinator) (choice : Path → Row) :
    FieldSchema → Path → Json → List Truth
  | schema, path, .obj entries =>
    (plainTruths c combinator choice schema path entries).map Truth.not
  | _, _, _ => []

/-- The truth of each entry of a map in which all keys name fields. -/
def plainTruths (c : FilterContext) (combinator : Combinator) (choice : Path → Row) :
    FieldSchema → Path → FilterMap → List Truth
  | _, _, [] => []
  | schema, path, (key, value) :: rest =>
    (schema.get? (Naming.camelCase key)).toList.map (fun kind =>
      fieldTruth c combinator choice kind path (Naming.camelCase key) value) ++
      plainTruths c combinator choice schema path rest

end

/-! ## Related rows -/

/-- Whether a filter map, or a map under `NOT` in it, has an entry with this key and value. -/
inductive States (pageKey : String) (filter : FilterMap) : String → Json → Prop where
  | plain {key : String} {value : Json} (h : (key, value) ∈ filter) (hpage : key ≠ pageKey)
      (hnot : FilterEntry.isNotKey key = false) : States pageKey filter key value
  | negated {notKey key : String} {entries : FilterMap} {value : Json}
      (h : (notKey, .obj entries) ∈ filter) (hpage : notKey ≠ pageKey)
      (hnot : FilterEntry.isNotKey notKey = true) (hentry : (key, value) ∈ entries) :
      States pageKey filter key value

/-- Whether a filter map on the row at a path opens a relation of the row at the same path or at one
below it: the relation is given a filter map, or it leads to many rows and is given anything else
but a null. -/
inductive Opens (c : FilterContext) : FieldSchema → Path → FilterMap → Path → String → Prop where
  | nested {schema : FieldSchema} {path : Path} {filter fields : FilterMap} {key : String}
      {r : Relation} (h : States c.pageKey filter key (.obj fields))
      (hr : schema.get? (Naming.camelCase key) = some (.relation r))
      (hrange : Condition.isRange fields = false) :
      Opens c schema path filter path (Naming.camelCase key)
  | deeper {schema : FieldSchema} {path p : Path} {filter fields : FilterMap} {key name : String}
      {r : Relation} (h : States c.pageKey filter key (.obj fields))
      (hr : schema.get? (Naming.camelCase key) = some (.relation r))
      (hrange : Condition.isRange fields = false)
      (hdeeper : Opens c (c.target r) (path.child (Naming.camelCase key)) fields p name) :
      Opens c schema path filter p name
  | member {schema : FieldSchema} {path : Path} {filter : FilterMap} {key : String} {value : Json}
      {r : Relation} (h : States c.pageKey filter key value)
      (hr : schema.get? (Naming.camelCase key) = some (.relation r)) (hmany : r.cardinality = .many)
      (hpresent : value.isNull = false)
      (hsingle : ∀ fields, value = .obj fields → Condition.isRange fields = true) :
      Opens c schema path filter path (Naming.camelCase key)

end FilterContext

/-- Whether a relation of a row links to another row. -/
def Row.LinksTo (row : Row) (name : String) (related : Row) : Prop :=
  ∃ links key record, row.record.links? name = some links ∧ key ∈ links.keys ∧
    row.store.find? links.collection key = some record ∧ related = ⟨row.store, record⟩

/-- Whether a filter map holds of a row: there is a choice of one linked row for each relation that
the map opens, shared by all entries below its path, under which the map is true. -/
def FilterContext.Holds (c : FilterContext) (combinator : Combinator) (schema : FieldSchema)
    (filter : FilterMap) (row : Row) : Prop :=
  ∃ choice : Path → Row, choice .root = row ∧
    (∀ p name, c.Opens schema .root filter p name →
      (choice p).LinksTo name (choice (p.child name))) ∧
    combinator.truth (c.entryTruths combinator choice schema .root filter) = some true

end RowFilter
