import Mathlib.Data.List.Nodup
import RowFilter.Proofs.Schema.Identity

/-!
# Schemas flatten lines of inheritance

The entities that an entity extends form a line. It is walked from the entity on, and ends behind an
entity that extends none and in front of a name that is unknown or that the walk has met, so that it
ends in every catalog. The schema of the entity has the fields that the line declares: each once, in
the order of their first declarations from the far end of the line, and as the nearest entity that
declares it says.
-/

namespace RowFilter

/-! ## Positions in keyed lists -/

namespace Keyed

variable {α β : Type} {m : Keyed α} {entries : List (String × α)} {key : String} {value : α}

theorem keys_append (m m' : Keyed α) : keys (m ++ m') = m.keys ++ m'.keys := List.map_append

theorem keys_ofList_append (entries : List (String × α)) (key : String) (value : α) :
    (ofList (entries ++ [(key, value)])).keys =
      if key ∈ (ofList entries).keys then (ofList entries).keys
      else (ofList entries).keys ++ [key] := by
  rw [ofList, List.foldl_append]
  exact keys_insert (ofList entries) key value

theorem mem_keys_ofList : key ∈ (ofList entries).keys ↔ key ∈ keys entries := by
  rw [← contains_iff, contains, get?_ofList, ← contains, contains_iff, keys, keys, List.map_reverse,
    List.mem_reverse]

/-- The keys are in the order in which they were first written. -/
theorem pairwise_keys_ofList (entries : List (String × α)) :
    (ofList entries).keys.Pairwise fun a b => (keys entries).idxOf a < (keys entries).idxOf b := by
  induction entries using List.reverseRecOn with
  | nil => exact .nil
  | append_singleton entries entry ih =>
    obtain ⟨key, value⟩ := entry
    have hfirst : ∀ a ∈ (ofList entries).keys,
        (keys (entries ++ [(key, value)])).idxOf a = (keys entries).idxOf a := by
      intro a ha
      rw [keys_append]
      exact List.idxOf_append_of_mem (mem_keys_ofList.1 ha)
    have hold : (ofList entries).keys.Pairwise fun a b =>
        (keys (entries ++ [(key, value)])).idxOf a <
          (keys (entries ++ [(key, value)])).idxOf b := by
      refine ih.imp_of_mem fun ha hb h => ?_
      rwa [hfirst _ ha, hfirst _ hb]
    rw [keys_ofList_append]
    split
    · exact hold
    · next hnew =>
      refine List.pairwise_append.2 ⟨hold, List.pairwise_singleton _ _, fun a ha b hb => ?_⟩
      obtain rfl := List.mem_singleton.1 hb
      have hlast : b ∉ keys entries := fun h => hnew (mem_keys_ofList.2 h)
      have hbehind : (keys entries).length ≤ (keys (entries ++ [(b, value)])).idxOf b := by
        rw [keys_append, List.idxOf_append_of_notMem hlast]
        exact Nat.le_add_right _ _
      rw [hfirst a ha]
      exact Nat.lt_of_lt_of_le (List.idxOf_lt_length_of_mem (mem_keys_ofList.1 ha)) hbehind

theorem nodup_keys_ofList (entries : List (String × α)) : (ofList entries).keys.Nodup := by
  refine (pairwise_keys_ofList entries).imp fun {a b} h => ?_
  rintro rfl
  exact Nat.lt_irrefl _ h

/-- Where each key stands once, an entry is found by its key at its position. -/
theorem getElem?_eq_some_iff (h : m.keys.Nodup) {i : Nat} :
    m[i]? = some (key, value) ↔ m.index? key = some i ∧ m.get? key = some value := by
  induction m generalizing i with
  | nil => simp
  | cons entry rest ih =>
    obtain ⟨k, v⟩ := entry
    obtain ⟨hfirst, hrest⟩ := List.nodup_cons.1 h
    have hindex : index? ((k, v) :: rest) key =
        if k = key then some 0 else (index? rest key).map (· + 1) := by
      simp [index?, keys, List.findIdx?_cons]
    rw [hindex, get?_cons]
    by_cases hk : k = key
    · subst hk
      rw [if_pos rfl, if_pos rfl]
      cases i with
      | zero => simp
      | succ i =>
        refine iff_of_false (fun hi => hfirst ?_) (by simp)
        rw [List.getElem?_cons_succ] at hi
        exact List.mem_map.2 ⟨_, List.mem_of_getElem? hi, rfl⟩
    · rw [if_neg hk, if_neg hk]
      cases i with
      | zero => simp [hk]
      | succ i =>
        rw [List.getElem?_cons_succ, ih hrest]
        simp

theorem length_erase_le (m : Keyed α) (key : String) : (m.erase key).length ≤ m.length := by
  induction m with
  | nil => exact Nat.le_refl _
  | cons entry rest ih =>
    rw [erase]
    split
    · exact Nat.le_succ_of_le ih
    · exact Nat.succ_le_succ ih

theorem length_erase_lt (h : m.get? key = some value) : (m.erase key).length < m.length := by
  induction m with
  | nil => cases h
  | cons entry rest ih =>
    rw [get?_cons] at h
    rw [erase]
    split at h
    · next hk =>
      rw [if_pos hk]
      exact Nat.lt_succ_of_le (length_erase_le rest key)
    · next hk =>
      rw [if_neg hk]
      exact Nat.succ_lt_succ (ih h)

end Keyed

namespace Catalog

variable {c c' : Catalog} {seen : List String} {name : String} {e : Entity}
  {line line' : List Entity}

/-! ## Lines -/

/-- Whether a walk from a name, which has met some names before, goes along these entities. -/
inductive IsLine (c : Catalog) : List String → String → List Entity → Prop
  /-- The name has been met, or no entity has it. -/
  | stop {seen : List String} {name : String} (hend : name ∈ seen ∨ c.get? name = none) :
      IsLine c seen name []
  /-- The entity extends none. -/
  | top {seen : List String} {name : String} {e : Entity} (hnew : name ∉ seen)
      (he : c.get? name = some e) (hbase : e.base = none) : IsLine c seen name [e]
  /-- The walk goes on at the base. -/
  | step {seen : List String} {name base : String} {e : Entity} {line : List Entity}
      (hnew : name ∉ seen) (he : c.get? name = some e) (hbase : e.base = some base)
      (hrest : IsLine c (name :: seen) base line) : IsLine c seen name (e :: line)

theorem not_ends (hnew : name ∉ seen) (he : c.get? name = some e) :
    ¬ (name ∈ seen ∨ c.get? name = none) := by
  rintro (hmet | hnone)
  · exact hnew hmet
  · cases hnone.symm.trans he

/-- There is only one way to walk. -/
theorem IsLine.unique (h : c.IsLine seen name line) (h' : c.IsLine seen name line') :
    line = line' := by
  induction h generalizing line' with
  | stop hend =>
    cases h' with
    | stop => rfl
    | top hnew he | step hnew he => exact absurd hend (not_ends hnew he)
  | top hnew he hbase =>
    cases h' with
    | stop hend => exact absurd hend (not_ends hnew he)
    | top _ he' =>
      cases he.symm.trans he'
      rfl
    | step _ he' hbase' =>
      cases he.symm.trans he'
      cases hbase.symm.trans hbase'
  | step hnew he hbase _ ih =>
    cases h' with
    | stop hend => exact absurd hend (not_ends hnew he)
    | top _ he' hbase' =>
      cases he.symm.trans he'
      cases hbase.symm.trans hbase'
    | step _ he' hbase' hrest' =>
      cases he.symm.trans he'
      cases hbase.symm.trans hbase'
      rw [ih hrest']

/-- Whether a catalog is what a walk that has met some names has left. -/
def Leaves (c : Catalog) (seen : List String) (c' : Catalog) : Prop :=
  ∀ other, c'.get? other = if other ∈ seen then none else c.get? other

theorem Leaves.stop (h : c.Leaves seen c') (hnone : c'.get? name = none) :
    c.IsLine seen name [] := by
  rw [h name, ite_eq_left_iff] at hnone
  exact .stop (or_iff_not_imp_left.2 hnone)

theorem Leaves.erase (h : c.Leaves seen c') (name : String) :
    c.Leaves (name :: seen) ⟨c'.entities.erase name⟩ := by
  intro other
  by_cases hother : name = other
  · subst hother
    rw [if_pos List.mem_cons_self]
    exact Keyed.get?_erase_self _ _
  · have hmem : other ∈ name :: seen ↔ other ∈ seen :=
      List.mem_cons.trans (or_iff_right (Ne.symm hother))
    simp only [hmem]
    exact (Keyed.get?_erase_of_ne _ hother).trans (h other)

/-- The walk with fuel goes along the line, in the catalog that it has left, if the fuel suffices for
the entities there. -/
theorem isLine_lineageFrom {fuel : Nat} (hfuel : c'.entities.length ≤ fuel)
    (hleft : c.Leaves seen c') : c.IsLine seen name (c'.lineageFrom fuel name) := by
  induction fuel generalizing c' seen name with
  | zero =>
    have hempty : c'.entities = [] := List.eq_nil_of_length_eq_zero (Nat.le_zero.1 hfuel)
    refine hleft.stop ?_
    rw [get?, hempty]
    rfl
  | succ fuel ih =>
    unfold lineageFrom
    split
    · next hnone => exact hleft.stop hnone
    · next e he =>
      obtain ⟨hnew, hknown⟩ := Option.ite_none_left_eq_some.1 ((hleft name).symm.trans he)
      split
      · next hbase => exact .top hnew hknown hbase
      · next base hbase =>
        have hshorter : (c'.entities.erase name).length ≤ fuel :=
          Nat.le_of_lt_succ (Nat.lt_of_lt_of_le (Keyed.length_erase_lt he) hfuel)
        exact .step hnew hknown hbase (ih hshorter (hleft.erase name))

theorem isLine_lineage (c : Catalog) (name : String) : c.IsLine [] name (c.lineage name) :=
  isLine_lineageFrom (Nat.le_refl _) fun _ => (if_neg List.not_mem_nil).symm

/-- A line is empty exactly if the entity is unknown; otherwise it begins with the entity. -/
theorem IsLine.head?_eq (h : c.IsLine [] name line) : line.head? = c.get? name := by
  cases h with
  | stop hend => exact (hend.resolve_left List.not_mem_nil).symm
  | top _ he | step _ he => exact he.symm

end Catalog

/-! ## Schemas -/

/-- Whether a schema is what a line of entities, the most derived first, declares for an owner. -/
structure FieldSchema.Flattens (schema : FieldSchema) (c : Catalog) (owner : Entity)
    (line : List Entity) : Prop where
  /-- The fields are those that some entity of the line declares. -/
  fields : ∀ field, field ∈ schema.fields.keys ↔ ∃ e ∈ line, field ∈ e.fields.keys
  /-- Each is there once. -/
  once : schema.fields.keys.Nodup
  /-- They stand in the order of their first declarations, from the most basic entity on. -/
  order : schema.fields.keys.Pairwise fun a b =>
    (line.reverse.flatMap (·.fields.keys)).idxOf a < (line.reverse.flatMap (·.fields.keys)).idxOf b
  /-- Each is as the most derived entity that declares it says. -/
  kind : ∀ field,
    schema.get? field = (line.findSome? (·.fields.get? field)).map (c.resolveField owner field)
  /-- So is the identity. -/
  identity : schema.identity = line.findSome? Entity.identity
  /-- The field at a position is the one that is found by its name, and there. -/
  position : ∀ i field kind, schema.fields[i]? = some (field, kind) ↔
    schema.index? field = some i ∧ schema.get? field = some kind

namespace Catalog

variable {c : Catalog} {name : String} {schema : FieldSchema} {line : List Entity}

theorem resolve_eq_none : c.resolve name = none ↔ c.get? name = none := by
  rw [← (c.isLine_lineage name).head?_eq]
  unfold resolve
  cases c.lineage name with
  | nil => exact iff_of_true rfl rfl
  | cons owner bases => exact iff_of_false nofun nofun

theorem flattens_of_resolve (hcatalog : c.DeclaresOnce) (h : c.resolve name = some schema) :
    ∃ owner, c.get? name = some owner ∧ schema.entity = name ∧
      schema.collection = owner.collectionName ∧ schema.Flattens c owner (c.lineage name) := by
  obtain ⟨owner, hidentity, hfields, hhead, hname, hcollection⟩ := resolve_eq_some h
  have honce : ∀ e ∈ c.lineage name, e.fields.keys.Nodup :=
    fun e he => hcatalog e (lineageFrom_subset he)
  have hnames : Keyed.keys ((c.lineage name).reverse.flatMap Entity.fields) =
      (c.lineage name).reverse.flatMap (·.fields.keys) := List.map_flatMap
  have hunique : schema.fields.keys.Nodup := hfields ▸ Keyed.nodup_keys_ofList _
  refine ⟨owner, (c.isLine_lineage name).head?_eq.symm.trans hhead, hname, hcollection, ?_⟩
  refine ⟨fun field => ?_, hunique, ?_, fun field => ?_, hidentity,
    fun i field kind => Keyed.getElem?_eq_some_iff hunique⟩
  · rw [hfields, Keyed.mem_keys_ofList, Keyed.keys_map (c.resolveField owner), hnames,
      List.mem_flatMap]
    simp only [List.mem_reverse]
  · rw [hfields, ← hnames, ← Keyed.keys_map (c.resolveField owner)]
    exact Keyed.pairwise_keys_ofList _
  · rw [FieldSchema.get?, hfields, Keyed.get?_ofList, ← List.map_reverse,
      Keyed.get?_map (c.resolveField owner), Keyed.get?_reverse_flatMap honce]

/-- **Resolving flattens every line of inheritance.** From every name there is exactly one line of
entities, cycles and unknown bases or not. There is a schema exactly if the name is that of an
entity, and it is what the line declares for that entity. -/
theorem resolve_flattens (hcatalog : c.DeclaresOnce) (name : String) :
    ∃ line, (∀ entities, c.IsLine [] name entities ↔ entities = line) ∧
      (c.resolve name = none ↔ c.get? name = none) ∧
      ∀ schema, c.resolve name = some schema → ∃ owner, c.get? name = some owner ∧
        schema.entity = name ∧ schema.collection = owner.collectionName ∧
        schema.Flattens c owner line := by
  refine ⟨c.lineage name, fun entities => ⟨fun h => h.unique (c.isLine_lineage name), ?_⟩,
    resolve_eq_none, fun schema h => flattens_of_resolve hcatalog h⟩
  rintro rfl
  exact c.isLine_lineage name

/-- Shapes in a circle: each extends the next one, and the last one the first. A square declares the
name that a shape has again, as one character. -/
def shapes : Catalog :=
  .ofList [
    .ofDeclarations "shape"
      [.base "square", .identity "id", .scalar "id" .i64, .scalar "name" .string],
    .ofDeclarations "rectangle" [.base "shape", .scalar "width" .f64],
    .ofDeclarations "square" [.base "rectangle", .identity "name", .scalar "name" .char]]

/-- The circle is walked once: the fields of a square begin with those of a shape, and the name is
the square's. -/
theorem resolve_flattens_shapes :
    shapes.DeclaresOnce ∧ ∃ line, line.map Entity.name = ["square", "rectangle", "shape"] ∧
      shapes.IsLine [] "square" line ∧
      ∃ schema owner, shapes.resolve "square" = some schema ∧ schema.Flattens shapes owner line ∧
        schema.fields.keys = ["id", "name", "width"] ∧
        schema.get? "name" = some (.scalar .char) ∧ schema.identity = some "name" := by
  have honce : shapes.DeclaresOnce := by
    refine declaresOnce_ofList ?_
    simp only [List.forall_mem_cons]
    exact ⟨⟨_, _, rfl⟩, ⟨_, _, rfl⟩, ⟨_, _, rfl⟩, nofun⟩
  obtain ⟨line, hline, -, hschema⟩ := resolve_flattens honce "square"
  obtain ⟨schema, hresolve⟩ : ∃ schema, shapes.resolve "square" = some schema := ⟨_, rfl⟩
  obtain ⟨owner, -, -, -, hflattens⟩ := hschema schema hresolve
  have hwalk : line = shapes.lineage "square" := ((hline _).1 (shapes.isLine_lineage _)).symm
  cases hresolve
  exact ⟨honce, line, hwalk ▸ rfl, (hline line).2 rfl, _, owner, rfl, hflattens, rfl, rfl, rfl⟩

end Catalog

end RowFilter
