import RowFilter.Proofs.Schema.Identity

/-!
# What a relation records about its target

A relation records the identity of its target, and the schema of the target has one. Both come from
one line of entities and from the same field. The schema takes the field from its most derived
declaration, and the relation from the most derived one that is a scalar. So the two differ just
where a relation has been declared in place of the inherited scalar: there the schema has no type
for its identity, and the relation still records the old one.
-/

namespace RowFilter

namespace Catalog

variable {c : Catalog} {entity name identity : String} {schema : FieldSchema} {r : Relation}
  {type : ScalarType}

/-- The identity of the schema of an entity, with its type. -/
def schemaIdentity? (c : Catalog) (entity : String) : Option (String × ScalarType) := do
  let schema ← c.resolve entity
  let identity ← schema.identity
  let type ← schema.identityType?
  some (identity, type)

/-- Whether the field that identifies an entity is declared as a relation in place of a scalar that
the entity inherits. -/
def MasksIdentity (c : Catalog) (entity : String) : Prop :=
  ∃ identity decl type, (c.lineage entity).findSome? Entity.identity = some identity ∧
    (c.lineage entity).findSome? (·.fields.get? identity) = some (.relation decl) ∧
    (c.lineage entity).findSome? (scalarOf? identity) = some type

/-! ## The two walks along a line -/

/-- Where a line has an identity, there is a schema with that identity. -/
theorem exists_resolve (h : (c.lineage entity).findSome? Entity.identity = some identity) :
    ∃ schema, c.resolve entity = some schema ∧ schema.identity = some identity := by
  unfold resolve
  cases hlineage : c.lineage entity with
  | nil =>
    rw [hlineage] at h
    cases h
  | cons owner bases =>
    rw [hlineage] at h
    exact ⟨_, rfl, h⟩

theorem findSome?_scalarOf?_eq_none {entities : List Entity} {field : String}
    (h : entities.findSome? (·.fields.get? field) = none) :
    entities.findSome? (scalarOf? field) = none := by
  rw [List.findSome?_eq_none_iff] at h ⊢
  intro e he
  rw [scalarOf?, h e he]

theorem schemaIdentity?_eq_some :
    c.schemaIdentity? entity = some (identity, type) ↔
      ∃ schema, c.resolve entity = some schema ∧ schema.identity = some identity ∧
        schema.identityType? = some type := by
  simp [schemaIdentity?, Option.bind_eq_some_iff]

theorem schemaIdentity?_eq_none :
    c.schemaIdentity? entity = none ↔ c.resolve entity = none ∨
      ∃ schema, c.resolve entity = some schema ∧
        (schema.identity = none ∨ schema.identityType? = none) := by
  cases hschema : c.resolve entity with
  | none => simp [schemaIdentity?, hschema]
  | some schema =>
    cases hidentity : schema.identity <;> cases htype : schema.identityType? <;>
      simp [schemaIdentity?, hschema, hidentity, htype]

/-- What the schema of an entity has for an identity is recorded for it. -/
theorem identityOf?_of_schemaIdentity? (hcatalog : c.DeclaresOnce)
    (h : c.schemaIdentity? entity = some (identity, type)) :
    c.identityOf? entity = some (identity, type) := by
  obtain ⟨schema, hschema, hidentity, htype⟩ := schemaIdentity?_eq_some.1 h
  exact identityOf?_of_resolve hcatalog hschema hidentity htype

/-- What is recorded for an entity is the identity of its schema, unless that masks it. -/
theorem schemaIdentity?_of_identityOf? (hcatalog : c.DeclaresOnce)
    (hmasks : ¬ c.MasksIdentity entity) (h : c.identityOf? entity = some (identity, type)) :
    c.schemaIdentity? entity = some (identity, type) := by
  obtain ⟨hfield, hscalar⟩ := identityOf?_eq_some.1 h
  obtain ⟨schema, hschema, hidentity⟩ := exists_resolve hfield
  refine schemaIdentity?_eq_some.2 ⟨schema, hschema, hidentity, ?_⟩
  rw [identityType?_of_resolve hcatalog hschema hidentity]
  cases hdecl : (c.lineage entity).findSome? (·.fields.get? identity) with
  | none =>
    rw [findSome?_scalarOf?_eq_none hdecl] at hscalar
    cases hscalar
  | some decl =>
    cases decl with
    | scalar other =>
      rw [findSome?_scalarOf? hdecl] at hscalar
      cases hscalar
      rfl
    | relation decl => exact absurd ⟨identity, decl, type, hfield, hdecl, hscalar⟩ hmasks

theorem identityOf?_eq_schemaIdentity? (hcatalog : c.DeclaresOnce)
    (hmasks : ¬ c.MasksIdentity entity) : c.identityOf? entity = c.schemaIdentity? entity :=
  Option.ext fun _ =>
    ⟨schemaIdentity?_of_identityOf? hcatalog hmasks, identityOf?_of_schemaIdentity? hcatalog⟩

/-- Of a masked identity the schema has no type, and the inherited scalar is recorded. -/
theorem identityOf?_of_masksIdentity (hcatalog : c.DeclaresOnce) (hmasks : c.MasksIdentity entity) :
    ∃ schema identity type, c.resolve entity = some schema ∧ schema.identity = some identity ∧
      schema.identityType? = none ∧ c.identityOf? entity = some (identity, type) := by
  obtain ⟨identity, decl, type, hfield, hdecl, hscalar⟩ := hmasks
  obtain ⟨schema, hschema, hidentity⟩ := exists_resolve hfield
  refine ⟨schema, identity, type, hschema, hidentity, ?_, identityOf?_eq_some.2 ⟨hfield, hscalar⟩⟩
  rw [Option.eq_none_iff_forall_ne_some]
  intro other hother
  rw [identityType?_of_resolve hcatalog hschema hidentity, hdecl] at hother
  cases hother

/-! ## Relations -/

/-- **A relation records the identity that the schema of its target has**, and none just where the
target has no schema or its schema no identity or no type for it. The exception is a target that
masks its identity: its schema has no type for it, and the relation records one. -/
theorem relation_identity_iff (hcatalog : c.DeclaresOnce) (hschema : c.resolve entity = some schema)
    (hr : schema.get? name = some (.relation r)) :
    (¬ c.MasksIdentity r.target →
      (∀ identity type, r.identity = some (identity, type) ↔
        ∃ target, c.resolve r.target = some target ∧ target.identity = some identity ∧
          target.identityType? = some type) ∧
      (r.identity = none ↔ c.resolve r.target = none ∨
        ∃ target, c.resolve r.target = some target ∧
          (target.identity = none ∨ target.identityType? = none))) ∧
    (c.MasksIdentity r.target →
      ∃ target identity type, c.resolve r.target = some target ∧ target.identity = some identity ∧
        target.identityType? = none ∧ r.identity = some (identity, type)) := by
  rw [relation_identity hcatalog hschema hr]
  refine ⟨fun hmasks => ?_, identityOf?_of_masksIdentity hcatalog⟩
  rw [identityOf?_eq_schemaIdentity? hcatalog hmasks]
  exact ⟨fun _ _ => schemaIdentity?_eq_some, schemaIdentity?_eq_none⟩

/-- Notes with a tag, which takes its identity from a base. -/
def notes : Catalog :=
  .ofList [
    .ofDeclarations "base" [.identity "id", .scalar "id" .i64],
    .ofDeclarations "tag" [.base "base"],
    .ofDeclarations "note" [.identity "key", .scalar "key" .i64, .relation "tag" .entity "tag"]]

/-- Notes with a tag, which declares a relation in place of its base's identity. -/
def maskedNotes : Catalog :=
  .ofList [
    .ofDeclarations "base" [.identity "id", .scalar "id" .i64],
    .ofDeclarations "tag" [.base "base", .relation "id" .entity "base"],
    .ofDeclarations "note" [.identity "key", .scalar "key" .i64, .relation "tag" .entity "tag"]]

/-- The relation of a note to its tag. -/
def noteTag : Relation := ⟨"tag", .entity, .eager, "tag_id", "id", some ("id", .i64)⟩

theorem notes_declaresOnce : notes.DeclaresOnce := by
  refine declaresOnce_ofList ?_
  simp only [List.forall_mem_cons]
  exact ⟨⟨_, _, rfl⟩, ⟨_, _, rfl⟩, ⟨_, _, rfl⟩, nofun⟩

/-- A note records the identity that its tag inherits. -/
theorem relation_identity_iff_notes :
    notes.DeclaresOnce ∧
      (∃ schema, notes.resolve "note" = some schema ∧
        schema.get? "tag" = some (.relation noteTag)) ∧
      ¬ notes.MasksIdentity "tag" ∧
      ∃ target, notes.resolve "tag" = some target ∧ target.identity = some "id" ∧
        target.identityType? = some .i64 := by
  have hmasks : ¬ notes.MasksIdentity "tag" := by
    rintro ⟨identity, decl, type, hidentity, hdecl, -⟩
    cases hidentity
    cases hdecl
  obtain ⟨schema, hschema, htag⟩ : ∃ schema, notes.resolve "note" = some schema ∧
      schema.get? "tag" = some (.relation noteTag) := ⟨_, rfl, rfl⟩
  have hrecorded := (relation_identity_iff notes_declaresOnce hschema htag).1 hmasks
  exact ⟨notes_declaresOnce, ⟨schema, hschema, htag⟩, hmasks, (hrecorded.1 "id" .i64).1 rfl⟩

/-- A note records an identity of its tag, and the schema of the tag has no type for it. -/
theorem relation_identity_masked :
    (∃ schema, maskedNotes.resolve "note" = some schema ∧
      schema.get? "tag" = some (.relation noteTag)) ∧
    noteTag.identity = some ("id", .i64) ∧
    ∃ target, maskedNotes.resolve "tag" = some target ∧ target.identity = some "id" ∧
      target.identityType? = none :=
  ⟨⟨_, rfl, rfl⟩, rfl, _, rfl, rfl, rfl⟩

end Catalog

end RowFilter
