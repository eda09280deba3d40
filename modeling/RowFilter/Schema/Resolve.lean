import RowFilter.Naming
import RowFilter.Schema.Entity

/-!
# Field schemas

The schema of an entity holds every field that a filter may name: those that the entity declares and
those that it inherits, in the order of their first declaration from the most basic entity on, each
as its most derived declaration says. Relations get the columns that join them by convention where
none are declared.
-/

namespace RowFilter

/-- Whether a relation leads to at most one record or to many. -/
inductive Cardinality where
  | one
  | many
  deriving Repr, DecidableEq

/-- A relation of a resolved schema. -/
structure Relation where
  target : String
  kind : RelationKind
  fetch : FetchMode
  /-- The column of the owner. -/
  localKey : String
  /-- The column of the target. -/
  foreignKey : String
  /-- The field that identifies the target, and its type. -/
  identity : Option (String × ScalarType)
  deriving Repr, DecidableEq

/-- How many records a relation leads to. -/
def Relation.cardinality (r : Relation) : Cardinality :=
  match r.kind with
  | .collection => .many
  | .entity | .record => .one

/-- A field of a resolved schema. -/
inductive FieldKind where
  | scalar (type : ScalarType)
  | relation (r : Relation)
  deriving Repr, DecidableEq

/-- The fields of an entity, its own and the inherited ones. -/
structure FieldSchema where
  entity : String
  /-- The collection in which the records are stored. -/
  collection : String
  /-- The field that identifies a record. -/
  identity : Option String
  fields : Keyed FieldKind
  deriving Repr, DecidableEq

namespace Catalog

/-- The entity with a name and those that it extends, the most derived first. An entity that has
been visited leaves the catalog, so the walk ends at an unknown or a repeated name. The fuel is the
number of entities. -/
def lineageFrom : Nat → Catalog → String → List Entity
  | 0, _, _ => []
  | fuel + 1, c, name =>
    match c.get? name with
    | none => []
    | some e =>
      match e.base with
      | none => [e]
      | some base => e :: lineageFrom fuel ⟨c.entities.erase name⟩ base

/-- The entity with a name and those that it extends, the most derived first. -/
def lineage (c : Catalog) (name : String) : List Entity := c.lineageFrom c.entities.length name

/-- The scalar type that an entity itself declares for a field. -/
def scalarOf? (field : String) (e : Entity) : Option ScalarType :=
  match e.fields.get? field with
  | some (.scalar type) => some type
  | _ => none

/-- The field that identifies an entity, by its most derived declaration, and its type. -/
def identityOf? (c : Catalog) (name : String) : Option (String × ScalarType) := do
  let entities := c.lineage name
  let field ← entities.findSome? Entity.identity
  let type ← entities.findSome? (scalarOf? field)
  some (field, type)

/-- The column named after an owner or a field. -/
def keyColumn (name : String) : String := Naming.snakeCase name ++ "_id"

/-- A relation with its columns. To many records it goes from the owner's identity to a column named
after the owner; to one record, from a column named after the field to the target's identity. -/
def resolveRelation (c : Catalog) (owner : Entity) (field : String) (decl : RelationDecl) :
    Relation :=
  let identity := c.identityOf? decl.target
  let (localKey, foreignKey) :=
    match decl.kind with
    | .collection =>
      (((c.identityOf? owner.name).map Prod.fst).getD "id", keyColumn owner.name)
    | .entity | .record => (keyColumn field, (identity.map Prod.fst).getD "id")
  { target := decl.target
    kind := decl.kind
    fetch := decl.fetch
    localKey := decl.localKey.getD localKey
    foreignKey := decl.foreignKey.getD foreignKey
    identity := identity }

/-- A declared field as a field of the owner's schema. -/
def resolveField (c : Catalog) (owner : Entity) (field : String) : FieldDecl → FieldKind
  | .scalar type => .scalar type
  | .relation decl => .relation (c.resolveRelation owner field decl)

/-- The schema of an entity, if there is such an entity. -/
def resolve (c : Catalog) (name : String) : Option FieldSchema :=
  match c.lineage name with
  | [] => none
  | owner :: bases =>
    let declared := ((owner :: bases).reverse).flatMap Entity.fields
    some
      { entity := name
        collection := owner.collectionName
        identity := (owner :: bases).findSome? Entity.identity
        fields := Keyed.ofList (declared.map fun (field, decl) =>
          (field, c.resolveField owner field decl)) }

end Catalog

namespace FieldSchema

/-- The schema without fields, in which every key is unknown. -/
def empty (entity : String) : FieldSchema := ⟨entity, entity, none, []⟩

/-- The field with this name. -/
def get? (s : FieldSchema) (field : String) : Option FieldKind := s.fields.get? field

/-- Whether there is a field with this name. -/
def contains (s : FieldSchema) (field : String) : Bool := s.fields.contains field

/-- The position of a field. -/
def index? (s : FieldSchema) (field : String) : Option Nat := s.fields.index? field

/-- The type of the identifying field, if it is a scalar of the schema. -/
def identityType? (s : FieldSchema) : Option ScalarType :=
  match s.identity.bind s.get? with
  | some (.scalar type) => some type
  | _ => none

end FieldSchema

end RowFilter
