import Mathlib.Data.List.Induction
import Mathlib.Data.List.Nodup
import RowFilter.Schema.Resolve

/-!
# The identity of a relation's target

The schema of an entity takes each field from the most derived entity that declares it. A relation
records the identity of its target on its own, from the same line of entities; where no entity
declares a field twice, the type that it records is the one that the schema of the target has.
-/

namespace RowFilter

/-! ## Keyed lists -/

namespace Keyed

variable {α β : Type} {m : Keyed α} {key : String} {value : α}

theorem get?_append (m m' : Keyed α) (key : String) :
    get? (m ++ m') key = (m.get? key).or (m'.get? key) := by
  induction m with
  | nil => rfl
  | cons entry rest ih =>
    obtain ⟨k, v⟩ := entry
    rw [List.cons_append, get?_cons, get?_cons, ih]
    split <;> rfl

/-- Of several entries with one key the last one is kept. -/
theorem get?_ofList (entries : List (String × α)) (key : String) :
    (ofList entries).get? key = get? entries.reverse key := by
  -- from the end, where the entry that decides was written
  induction entries using List.reverseRecOn with
  | nil => rfl
  | append_singleton entries entry ih =>
    obtain ⟨k, v⟩ := entry
    rw [ofList, List.foldl_append, List.reverse_append]
    change (insert (ofList entries) k v).get? key = get? ((k, v) :: entries.reverse) key
    rw [get?_cons]
    split
    · next h => rw [← h, get?_insert_self]
    · next h => rw [get?_insert_of_ne _ _ h, ih]

theorem get?_map (f : String → α → β) (m : Keyed α) (key : String) :
    get? (m.map fun (k, v) => (k, f k v)) key = (m.get? key).map (f key) := by
  induction m with
  | nil => rfl
  | cons entry rest ih =>
    obtain ⟨k, v⟩ := entry
    rw [List.map_cons, get?_cons, get?_cons, ih]
    split
    · next h =>
      rw [h]
      rfl
    · rfl

theorem keys_map (f : String → α → β) (m : Keyed α) :
    keys (m.map fun (k, v) => (k, f k v)) = m.keys := by
  rw [keys, List.map_map]
  rfl

theorem get?_eq_none : m.get? key = none ↔ key ∉ m.keys := by
  rw [← contains_iff, contains, Option.not_isSome_iff_eq_none]

theorem get?_reverse (h : m.keys.Nodup) (key : String) : get? m.reverse key = m.get? key := by
  induction m with
  | nil => rfl
  | cons entry rest ih =>
    obtain ⟨k, v⟩ := entry
    obtain ⟨hfirst, hrest⟩ := List.nodup_cons.1 h
    rw [List.reverse_cons, get?_append, ih hrest, get?_cons, get?_cons]
    split
    · next hk =>
      rw [get?_eq_none.2 (hk ▸ hfirst)]
      rfl
    · exact Option.or_none

/-- Of several lists of entries, written one after the other, the last one with a key decides. -/
theorem get?_reverse_flatMap {l : List β} {f : β → Keyed α} (h : ∀ b ∈ l, (f b).keys.Nodup)
    (key : String) :
    get? (l.reverse.flatMap f).reverse key = l.findSome? fun b => (f b).get? key := by
  induction l with
  | nil => rfl
  | cons b l ih =>
    obtain ⟨hb, hl⟩ := List.forall_mem_cons.1 h
    rw [List.reverse_cons, List.flatMap_append, List.flatMap_singleton, List.reverse_append,
      get?_append, get?_reverse hb, ih hl, List.findSome?_cons]
    cases (f b).get? key <;> rfl

theorem keys_insert (m : Keyed α) (key : String) (value : α) :
    (m.insert key value).keys = if key ∈ m.keys then m.keys else m.keys ++ [key] := by
  induction m with
  | nil => rfl
  | cons entry rest ih =>
    obtain ⟨k, v⟩ := entry
    by_cases hk : k = key
    · simp [insert, keys, hk]
    · have hmem : key ∈ keys ((k, v) :: rest) ↔ key ∈ keys rest :=
        List.mem_cons.trans (or_iff_right (Ne.symm hk))
      have hinsert : (insert ((k, v) :: rest) key value).keys =
          k :: (insert rest key value).keys := by
        rw [insert, if_neg hk]
        rfl
      rw [hinsert, ih]
      simp only [hmem]
      split <;> rfl

theorem nodup_insert (h : m.keys.Nodup) (key : String) (value : α) :
    (m.insert key value).keys.Nodup := by
  rw [keys_insert]
  split
  · exact h
  · next hkey => exact List.nodup_append_comm.1 (List.nodup_cons.2 ⟨hkey, h⟩)

theorem mem_values_of_get? (h : m.get? key = some value) : value ∈ m.values :=
  List.mem_map_of_mem (mem_of_get? h)

theorem mem_values_insert {other : α} (h : other ∈ (m.insert key value).values) :
    other = value ∨ other ∈ m.values := by
  induction m with
  | nil => exact .inl (List.mem_singleton.1 h)
  | cons entry rest ih =>
    obtain ⟨k, v⟩ := entry
    rw [insert] at h
    split at h
    · rcases List.mem_cons.1 h with h | h
      · exact .inl h
      · exact .inr (List.mem_cons_of_mem _ h)
    · rcases List.mem_cons.1 h with h | h
      · exact .inr (List.mem_cons.2 (.inl h))
      · exact (ih h).imp_right (List.mem_cons_of_mem _)

theorem values_erase_subset (m : Keyed α) (key : String) : (m.erase key).values ⊆ m.values := by
  induction m with
  | nil => exact List.Subset.refl _
  | cons entry rest ih =>
    obtain ⟨k, v⟩ := entry
    rw [erase]
    split
    · exact List.subset_cons_of_subset _ ih
    · exact List.cons_subset_cons _ ih

end Keyed

/-! ## Catalogs -/

/-- Whether no entity of a catalog declares a field twice. -/
def Catalog.DeclaresOnce (c : Catalog) : Prop := ∀ e ∈ c.entities.values, e.fields.keys.Nodup

namespace EntityDraft

variable {draft : EntityDraft}

theorem nodup_modifyLast (h : draft.entity.fields.keys.Nodup)
    (change : RelationDecl → RelationDecl) :
    (draft.modifyLast change).entity.fields.keys.Nodup := by
  unfold modifyLast
  split
  · exact h
  · split
    · exact Keyed.nodup_insert h _ _
    · exact h

theorem nodup_declare (h : draft.entity.fields.keys.Nodup) (declaration : Declaration) :
    (draft.declare declaration).entity.fields.keys.Nodup := by
  cases declaration with
  | base | storedIn | identity => exact h
  | scalar | relation => exact Keyed.nodup_insert h _ _
  | fetch | joinOn => exact nodup_modifyLast h _

end EntityDraft

theorem Entity.nodup_ofDeclarations (name : String) (declarations : List Declaration) :
    (ofDeclarations name declarations).fields.keys.Nodup := by
  have hfold : ∀ draft : EntityDraft, draft.entity.fields.keys.Nodup →
      (declarations.foldl EntityDraft.declare draft).entity.fields.keys.Nodup := by
    induction declarations with
    | nil => exact fun _ h => h
    | cons declaration rest ih => exact fun draft h => ih _ (draft.nodup_declare h declaration)
  exact hfold (.start name) List.nodup_nil

namespace Catalog

variable {c : Catalog} {entity name identity : String} {schema target : FieldSchema}
  {r : Relation} {type : ScalarType}

theorem DeclaresOnce.insert {e : Entity} (h : c.DeclaresOnce) (he : e.fields.keys.Nodup) :
    (c.insert e).DeclaresOnce := by
  intro other hother
  rcases Keyed.mem_values_insert hother with rfl | hother
  · exact he
  · exact h other hother

/-- Catalogs that are built from declarations declare each field once. -/
theorem declaresOnce_ofList {entities : List Entity}
    (h : ∀ e ∈ entities, ∃ name declarations, e = .ofDeclarations name declarations) :
    (ofList entities).DeclaresOnce := by
  have hfold : ∀ start : Catalog, start.DeclaresOnce →
      (entities.foldl Catalog.insert start).DeclaresOnce := by
    induction entities with
    | nil => exact fun _ hstart => hstart
    | cons e rest ih =>
      obtain ⟨⟨name, declarations, rfl⟩, hrest⟩ := List.forall_mem_cons.1 h
      exact fun start hstart =>
        ih hrest _ (hstart.insert (Entity.nodup_ofDeclarations name declarations))
  exact hfold empty (List.forall_mem_nil _)

theorem lineageFrom_subset {fuel : Nat} : c.lineageFrom fuel name ⊆ c.entities.values := by
  induction fuel generalizing c name with
  | zero => exact List.nil_subset _
  | succ fuel ih =>
    unfold lineageFrom
    split
    · exact List.nil_subset _
    · next e he =>
      have hmem : e ∈ c.entities.values := Keyed.mem_values_of_get? he
      split
      · exact List.cons_subset.2 ⟨hmem, List.nil_subset _⟩
      · exact List.cons_subset.2 ⟨hmem, List.Subset.trans ih (Keyed.values_erase_subset _ _)⟩

theorem resolve_eq_some (h : c.resolve entity = some schema) :
    ∃ owner, schema.identity = (c.lineage entity).findSome? Entity.identity ∧
      schema.fields = Keyed.ofList (((c.lineage entity).reverse.flatMap Entity.fields).map
        fun (field, decl) => (field, c.resolveField owner field decl)) ∧
      (c.lineage entity).head? = some owner ∧ schema.entity = entity ∧
      schema.collection = owner.collectionName := by
  unfold resolve at h
  split at h
  · cases h
  · next owner bases hlineage =>
    cases h
    rw [hlineage]
    exact ⟨owner, rfl, rfl, rfl, rfl, rfl⟩

/-- A field of a schema is declared by some entity, the most derived one that declares it. -/
theorem get?_resolve (hcatalog : c.DeclaresOnce) (h : c.resolve entity = some schema) :
    ∃ owner, ∀ field, schema.get? field =
      ((c.lineage entity).findSome? (·.fields.get? field)).map (c.resolveField owner field) := by
  obtain ⟨owner, -, hfields, -⟩ := resolve_eq_some h
  refine ⟨owner, fun field => ?_⟩
  have honce : ∀ e ∈ c.lineage entity, e.fields.keys.Nodup :=
    fun e he => hcatalog e (lineageFrom_subset he)
  rw [FieldSchema.get?, hfields, Keyed.get?_ofList, ← List.map_reverse,
    Keyed.get?_map (c.resolveField owner), Keyed.get?_reverse_flatMap honce]

/-- What the most derived declaration of a field says, if that is a scalar type, is what the most
derived declaration of it as a scalar says. -/
theorem findSome?_scalarOf? {entities : List Entity} {field : String}
    (h : entities.findSome? (·.fields.get? field) = some (.scalar type)) :
    entities.findSome? (scalarOf? field) = some type := by
  induction entities with
  | nil => cases h
  | cons e rest ih =>
    rw [List.findSome?_cons] at h ⊢
    unfold scalarOf?
    cases hfield : e.fields.get? field with
    | none =>
      rw [hfield] at h
      exact ih h
    | some decl =>
      rw [hfield] at h
      cases h
      rfl

theorem identityOf?_eq_some :
    c.identityOf? entity = some (identity, type) ↔
      (c.lineage entity).findSome? Entity.identity = some identity ∧
        (c.lineage entity).findSome? (scalarOf? identity) = some type := by
  simp only [identityOf?, Option.bind_eq_bind, Option.bind_eq_some_iff, Option.some.injEq,
    Prod.mk.injEq]
  constructor
  · rintro ⟨_, hfield, _, hscalar, rfl, rfl⟩
    exact ⟨hfield, hscalar⟩
  · rintro ⟨hfield, hscalar⟩
    exact ⟨_, hfield, _, hscalar, rfl, rfl⟩

/-- The type of an identity is that of its most derived declaration, if that is a scalar. -/
theorem identityType?_of_resolve (hcatalog : c.DeclaresOnce) (h : c.resolve entity = some schema)
    (hidentity : schema.identity = some identity) :
    schema.identityType? = some type ↔
      (c.lineage entity).findSome? (·.fields.get? identity) = some (.scalar type) := by
  obtain ⟨owner, hget⟩ := get?_resolve hcatalog h
  rw [FieldSchema.identityType?, hidentity, Option.bind_some, hget]
  cases (c.lineage entity).findSome? (·.fields.get? identity) with
  | none => simp
  | some decl => cases decl <;> simp [resolveField]

/-- What the schema of an entity has for an identity is recorded for it. -/
theorem identityOf?_of_resolve (hcatalog : c.DeclaresOnce) (h : c.resolve name = some target)
    (hidentity : target.identity = some identity) (htype : target.identityType? = some type) :
    c.identityOf? name = some (identity, type) := by
  obtain ⟨_, hfield, _⟩ := resolve_eq_some h
  rw [identityType?_of_resolve hcatalog h hidentity] at htype
  exact identityOf?_eq_some.2 ⟨hfield ▸ hidentity, findSome?_scalarOf? htype⟩

/-- A relation records what is found along the line of its target. -/
theorem relation_identity (hcatalog : c.DeclaresOnce) (hschema : c.resolve entity = some schema)
    (hr : schema.get? name = some (.relation r)) : r.identity = c.identityOf? r.target := by
  obtain ⟨owner, hget⟩ := get?_resolve hcatalog hschema
  rw [hget] at hr
  obtain ⟨decl, _, hresolved⟩ := Option.map_eq_some_iff.1 hr
  cases decl with
  | scalar => cases hresolved
  | relation decl =>
    cases hresolved
    rfl

/-- A relation records the identity that the schema of its target has. -/
theorem identity_of_relation (hcatalog : c.DeclaresOnce) (hschema : c.resolve entity = some schema)
    (hr : schema.get? name = some (.relation r)) (htarget : c.resolve r.target = some target)
    (hidentity : target.identity = some identity)
    (htype : target.get? identity = some (.scalar type)) : r.identity = some (identity, type) := by
  have hscalar : target.identityType? = some type := by
    rw [FieldSchema.identityType?, hidentity, Option.bind_some, htype]
  rw [relation_identity hcatalog hschema hr]
  exact identityOf?_of_resolve hcatalog htarget hidentity hscalar

end Catalog

end RowFilter
