import RowFilter.Proofs.Cast
import RowFilter.Schema.Resolve
import RowFilter.Store.Memory

/-!
# Conformance

A store conforms to a catalog if its records hold what the schemas of their entities declare: values
of the declared kinds, and links to records of the entities that the relations lead to.
-/

namespace RowFilter

/-- Whether a record of a store holds what a schema declares. -/
structure Record.Conforms (catalog : Catalog) (store : MemoryStore) (schema : FieldSchema)
    (record : Record) : Prop where
  /-- A scalar field is absent, null or a value of the declared kind. -/
  scalar : ∀ field type, schema.get? field = some (.scalar type) →
    ∀ l, record.value? field = some l → l.Fits type.kind
  /-- No scalar is stored under the name of a relation. -/
  relation : ∀ name r, schema.get? name = some (.relation r) → record.get? name = none
  /-- A relation links into the collection of its target. -/
  collection : ∀ name r links target, schema.get? name = some (.relation r) →
    record.links? name = some links → catalog.resolve r.target = some target →
    links.collection = target.collection
  /-- Keys are of the kind of the target's identity, and equal to the identity of the records that
  they lead to. -/
  keys : ∀ name r links field type, schema.get? name = some (.relation r) →
    record.links? name = some links → r.identity = some (field, type) →
    ∀ key ∈ links.keys, key.kind? = some type.kind ∧
      ∀ related, store.find? links.collection key = some related →
        ∃ l, related.value? field = some l ∧ l.equal key = true

/-- Whether the records in the collection of each entity of a catalog hold what its schema
declares. -/
def MemoryStore.Conforms (store : MemoryStore) (catalog : Catalog) : Prop :=
  ∀ entity schema, catalog.resolve entity = some schema →
    ∀ record ∈ store.records schema.collection, record.Conforms catalog store schema

/-- Only the entities of a catalog have schemas. -/
theorem Catalog.mem_of_resolve {catalog : Catalog} {name : String} {schema : FieldSchema}
    (h : catalog.resolve name = some schema) : name ∈ catalog.entities.keys := by
  unfold resolve lineage at h
  cases hget : catalog.get? name with
  | none =>
    cases hlength : catalog.entities.length with
    | zero =>
      rw [hlength, lineageFrom] at h
      cases h
    | succ n =>
      rw [hlength, lineageFrom, hget] at h
      cases h
  | some e => exact List.mem_map.2 ⟨_, Keyed.mem_of_get? hget, rfl⟩

variable {catalog : Catalog} {store : MemoryStore} {schema : FieldSchema} {record : Record}

/-- Without declared fields there is nothing to hold. -/
theorem Record.conforms_empty (entity : String) :
    record.Conforms catalog store (.empty entity) := by
  have hnone : ∀ (field : String) (kind : FieldKind),
      (FieldSchema.empty entity).get? field ≠ some kind :=
    fun field kind h => Option.some_ne_none kind h.symm
  exact ⟨fun field type h => absurd h (hnone field _), fun name r h => absurd h (hnone name _),
    fun name r _ _ h => absurd h (hnone name _), fun name r _ _ _ h => absurd h (hnone name _)⟩

theorem MemoryStore.mem_records_of_find? {collection : String} {key : Literal}
    (h : store.find? collection key = some record) : record ∈ store.records collection :=
  List.mem_of_find?_eq_some h

/-- Whether a row is one of a relation's target: it conforms to the target's schema, and the
target's identity reads as a value of its kind. -/
structure Row.IsTarget (catalog : Catalog) (store : MemoryStore) (r : Relation) (row : Row) :
    Prop where
  store_eq : row.store = store
  conforms : row.record.Conforms catalog store ((catalog.resolve r.target).getD (.empty r.target))
  identity : ∀ field type, r.identity = some (field, type) →
    ∃ l, row.record.value? field = some l ∧ l.kind? = some type.kind

theorem Row.fits_valueOrNull {row : Row} {name : String} {kind : ScalarKind}
    (h : ∀ l, row.record.value? name = some l → l.Fits kind) :
    (row.valueOrNull name).Fits kind := by
  unfold Row.valueOrNull
  cases hl : row.record.value? name with
  | none => exact Literal.fits_null
  | some l => exact h l hl

/-- In a conforming store a relation leads to rows of its target. -/
theorem Record.Conforms.exists_related (h : record.Conforms catalog store schema)
    (hstore : store.Conforms catalog) {name : String} {r : Relation}
    (hr : schema.get? name = some (.relation r)) :
    ∃ rows, Row.related? ⟨store, record⟩ name = some rows ∧
      ∀ row ∈ rows, row.IsTarget catalog store r := by
  unfold Row.related?
  cases hlinks : record.links? name with
  | none =>
    refine ⟨[], ?_, List.forall_mem_nil _⟩
    dsimp only
    rw [h.relation name r hr]
    rfl
  | some links =>
    refine ⟨_, rfl, fun row hrow => ?_⟩
    obtain ⟨key, hkey, hrow⟩ := List.mem_filterMap.1 hrow
    obtain ⟨related, hrelated, rfl⟩ := Option.map_eq_some_iff.1 hrow
    refine ⟨rfl, ?_, fun field type hidentity => ?_⟩
    · cases htarget : catalog.resolve r.target with
      | none => exact conforms_empty _
      | some target =>
        refine hstore r.target target htarget related ?_
        rw [← h.collection name r links target hr hlinks htarget]
        exact MemoryStore.mem_records_of_find? hrelated
    · obtain ⟨hkind, hequal⟩ := h.keys name r links field type hr hlinks hidentity key hkey
      obtain ⟨l, hl, hequal⟩ := hequal related hrelated
      exact ⟨l, hl, (Literal.kind_eq_of_equal hequal).trans hkind⟩

/-- The key of a relation reads as a value of the kind of the target's identity. -/
theorem Record.Conforms.fits_key (h : record.Conforms catalog store schema) {name field : String}
    {r : Relation} {type : ScalarType} (hr : schema.get? name = some (.relation r))
    (hidentity : r.identity = some (field, type)) {l : Literal} (hl : record.value? name = some l) :
    l.Fits type.kind := by
  unfold value? at hl
  rw [h.relation name r hr] at hl
  obtain ⟨links, hlinks, rfl⟩ := Option.map_eq_some_iff.1 hl
  unfold Links.firstKey
  cases hkeys : links.keys with
  | nil => exact Literal.fits_null
  | cons key rest =>
    have hkey : key ∈ links.keys := hkeys ▸ List.mem_cons_self
    exact .inr (h.keys name r links field type hr hlinks hidentity key hkey).1

end RowFilter
