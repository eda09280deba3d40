import RowFilter.Keyed
import RowFilter.Query.Predicate
import RowFilter.ScalarType

/-!
# Entities

An entity is described by the fields that it declares itself and by the entity that it extends. A
description is built up by declarations in order; some of them modify the relation declared last.
-/

namespace RowFilter

/-- What a relation leads to. -/
inductive RelationKind where
  /-- One other entity. -/
  | entity
  /-- Many other entities. -/
  | collection
  /-- One embedded record. -/
  | record
  deriving Repr, DecidableEq

/-- A relation as it is declared. -/
structure RelationDecl where
  target : String
  kind : RelationKind
  fetch : FetchMode
  /-- The column of the owner, where it differs from the convention. -/
  localKey : Option String
  /-- The column of the target, where it differs from the convention. -/
  foreignKey : Option String
  deriving Repr, DecidableEq

/-- A field as it is declared. -/
inductive FieldDecl where
  | scalar (type : ScalarType)
  | relation (decl : RelationDecl)
  deriving Repr, DecidableEq

/-- The description of an entity. -/
structure Entity where
  name : String
  /-- The collection of its records, where it differs from the name. -/
  collection : Option String
  /-- The entity that it extends. -/
  base : Option String
  /-- The field that identifies a record. -/
  identity : Option String
  fields : Keyed FieldDecl
  deriving Repr, DecidableEq

/-- The collection in which the records of an entity are stored. -/
def Entity.collectionName (e : Entity) : String := e.collection.getD e.name

/-- One declaration of an entity's description. -/
inductive Declaration where
  | base (name : String)
  | storedIn (collection : String)
  | identity (field : String)
  | scalar (field : String) (type : ScalarType)
  | relation (field : String) (kind : RelationKind) (target : String)
  /-- How the relation declared last is fetched. -/
  | fetch (mode : FetchMode)
  /-- The columns that join the relation declared last. -/
  | joinOn (localKey foreignKey : String)
  deriving Repr, DecidableEq

/-- A description in the making, and the field of the relation declared last. -/
structure EntityDraft where
  entity : Entity
  lastRelation : Option String
  deriving Repr, DecidableEq

namespace EntityDraft

/-- The description that declares nothing yet. -/
def start (name : String) : EntityDraft := ⟨⟨name, none, none, none, []⟩, none⟩

/-- Change the relation declared last. Nothing happens where there is none, or where its field has
been declared again as a scalar. -/
def modifyLast (draft : EntityDraft) (change : RelationDecl → RelationDecl) : EntityDraft :=
  match draft.lastRelation with
  | none => draft
  | some field =>
    match draft.entity.fields.get? field with
    | some (.relation decl) =>
      let fields := draft.entity.fields.insert field (.relation (change decl))
      { draft with entity := { draft.entity with fields := fields } }
    | _ => draft

/-- Add a declaration. -/
def declare (draft : EntityDraft) : Declaration → EntityDraft
  | .base name => { draft with entity := { draft.entity with base := some name } }
  | .storedIn collection =>
    { draft with entity := { draft.entity with collection := some collection } }
  | .identity field => { draft with entity := { draft.entity with identity := some field } }
  | .scalar field type =>
    let fields := draft.entity.fields.insert field (.scalar type)
    { draft with entity := { draft.entity with fields := fields } }
  | .relation field kind target =>
    let decl : RelationDecl := ⟨target, kind, .eager, none, none⟩
    let fields := draft.entity.fields.insert field (.relation decl)
    { entity := { draft.entity with fields := fields }, lastRelation := some field }
  | .fetch mode => draft.modifyLast fun decl => { decl with fetch := mode }
  | .joinOn localKey foreignKey =>
    draft.modifyLast fun decl =>
      { decl with localKey := some localKey, foreignKey := some foreignKey }

end EntityDraft

/-- The entity that declarations describe. -/
def Entity.ofDeclarations (name : String) (declarations : List Declaration) : Entity :=
  (declarations.foldl EntityDraft.declare (.start name)).entity

/-- Entities by name. -/
structure Catalog where
  entities : Keyed Entity
  deriving Repr, DecidableEq

namespace Catalog

/-- The catalog without entities. -/
def empty : Catalog := ⟨[]⟩

/-- Add an entity in place of any other of its name. -/
def insert (c : Catalog) (e : Entity) : Catalog := ⟨c.entities.insert e.name e⟩

/-- The catalog of several entities, added in order. -/
def ofList (entities : List Entity) : Catalog := entities.foldl insert empty

/-- The entity with this name. -/
def get? (c : Catalog) (name : String) : Option Entity := c.entities.get? name

end Catalog

end RowFilter
