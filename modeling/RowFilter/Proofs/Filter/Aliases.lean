import RowFilter.Proofs.Filter.StoredColumns
import RowFilter.Proofs.Schema.Identity
import RowFilter.Proofs.Text.Split

/-!
# The names in a FROM clause

The root table goes by the name of its collection and each join by the dotted text of its path. Where
no name has a dot, different paths have different texts, so two joins are never confused; but a
relation of the root records may have the name of their collection, and then the columns of its join
are written like those of the root table.
-/

namespace RowFilter

/-! ## Dotted texts -/

/-- Whether no step of a path has a dot in it. -/
def Path.IsDotFree (p : Path) : Prop := ∀ step ∈ p.steps, '.' ∉ step.toList

theorem Path.text_inj {p q : Path} (hp : p.IsDotFree) (hq : q.IsDotFree) (hp' : p ≠ .root)
    (hq' : q ≠ .root) (h : p.text = q.text) : p = q := by
  have hsplit : ∀ {r : Path}, r.IsDotFree → r ≠ .root →
      Text.splitChars '.' r.text.toList = r.steps.map String.toList :=
    fun hr hr' => Text.splitChars_join (fun hnil => hr' (congrArg Path.mk hnil)) hr
  have hsteps : p.steps.map String.toList = q.steps.map String.toList := by
    rw [← hsplit hp hp', h, hsplit hq hq']
  exact congrArg Path.mk (List.map_injective_iff.2 (fun _ _ => String.toList_inj.1) hsteps)

/-! ## Names of fields and collections -/

/-- Whether no field and no collection of a catalog has a dot in its name. -/
def Catalog.IsDotFree (c : Catalog) : Prop :=
  ∀ e ∈ c.entities.values, ∀ name ∈ e.collectionName :: e.fields.keys, '.' ∉ name.toList

instance (c : Catalog) : Decidable c.IsDotFree :=
  inferInstanceAs (Decidable (∀ e ∈ c.entities.values,
    ∀ name ∈ e.collectionName :: e.fields.keys, '.' ∉ name.toList))

/-- Whether no field of a schema has a dot in its name. -/
def FieldSchema.IsDotFree (s : FieldSchema) : Prop :=
  ∀ field kind, s.get? field = some kind → '.' ∉ field.toList

theorem Catalog.mem_collections_of_resolve {c : Catalog} {entity : String} {schema : FieldSchema}
    (h : c.resolve entity = some schema) :
    ∃ e ∈ c.entities.values, schema.collection = e.collectionName := by
  unfold resolve at h
  split at h
  · cases h
  · next owner bases hlineage =>
    cases h
    exact ⟨owner, lineageFrom_subset (hlineage ▸ List.mem_cons_self), rfl⟩

theorem Catalog.mem_fields_of_resolve {c : Catalog} {entity field : String} {schema : FieldSchema}
    {kind : FieldKind} (h : c.resolve entity = some schema) (hfield : schema.get? field = some kind) :
    ∃ e ∈ c.entities.values, field ∈ e.fields.keys := by
  obtain ⟨owner, -, hfields, -⟩ := resolve_eq_some h
  rw [FieldSchema.get?, hfields, Keyed.get?_ofList] at hfield
  obtain ⟨⟨name, decl⟩, hdecl, hentry⟩ :=
    List.mem_map.1 (List.mem_reverse.1 (Keyed.mem_of_get? hfield))
  obtain ⟨rfl, -⟩ := Prod.mk.inj hentry
  obtain ⟨e, he, hmem⟩ := List.mem_flatMap.1 hdecl
  exact ⟨e, lineageFrom_subset (List.mem_reverse.1 he), List.mem_map_of_mem hmem⟩

namespace Catalog.IsDotFree

variable {c : Catalog} {entity : String} {s : FieldSchema}

theorem collection (hc : c.IsDotFree) (h : c.resolve entity = some s) :
    '.' ∉ s.collection.toList := by
  obtain ⟨e, he, hcollection⟩ := mem_collections_of_resolve h
  rw [hcollection]
  exact hc e he _ List.mem_cons_self

theorem schema (hc : c.IsDotFree) (h : c.resolve entity = some s) : s.IsDotFree := by
  intro field kind hfield
  obtain ⟨e, he, hkey⟩ := mem_fields_of_resolve h hfield
  exact hc e he _ (List.mem_cons_of_mem _ hkey)

end Catalog.IsDotFree

/-! ## Names in the FROM clause -/

namespace Sql

/-- The names in the FROM clause of a statement: that of the root table, then those of the joins. -/
def fromNames (table : String) (joins : List Join) : List String :=
  table :: joins.map fun join => join.path.text

variable {table : String} {joined : List Path} {joins : List Join} {fs : List Fragment}

theorem mem_fromNames_of_ownerAlias {join : Join} {owner : String}
    (h : ownerAlias table joined join = .ok owner) :
    owner = table ∨ owner ∈ joined.map Path.text := by
  unfold ownerAlias at h
  dsimp only at h
  split at h
  · exact .inl (Except.ok.inj h).symm
  · split at h
    · next hmem =>
      rw [← Except.ok.inj h]
      exact .inr (List.mem_map_of_mem (List.contains_iff_mem.1 hmem))
    · cases h

/-- Each join is declared under its own name, and from a name that is declared as well. -/
theorem forall₂_of_joinClauses (h : joinClauses table joined joins = .ok fs) :
    List.Forall₂ (fun join clause => ∃ owner ∈ table :: (joined ++ joins.map Join.path).map Path.text,
      clause = .text (joinClause owner join)) joins fs := by
  induction joins generalizing joined fs with
  | nil =>
    cases h
    exact .nil
  | cons join rest ih =>
    rw [joinClauses] at h
    obtain ⟨owner, howner, h⟩ := bind_eq_ok.1 h
    obtain ⟨others, hothers, h⟩ := bind_eq_ok.1 h
    cases h
    have hrest := ih hothers
    rw [List.append_assoc, List.singleton_append] at hrest
    refine .cons ⟨owner, ?_, rfl⟩ hrest
    rcases mem_fromNames_of_ownerAlias howner with rfl | hmem
    · exact List.mem_cons_self
    · rw [List.map_append]
      exact List.mem_cons_of_mem _ (List.mem_append_left _ hmem)

theorem exists_of_fromWhere {s : Selection} (h : fromWhere table s = .ok fs) :
    ∃ clauses condition,
      fs = .text (" FROM " ++ identifier table) :: clauses ++ .text " WHERE " :: condition ∧
      List.Forall₂ (fun join clause => ∃ owner ∈ fromNames table s.joins,
        clause = .text (joinClause owner join)) s.joins clauses ∧
      ofPredicate (scopeOf table s) s.predicate = .ok condition := by
  obtain ⟨clauses, hclauses, h⟩ := bind_eq_ok.1 h
  obtain ⟨condition, hcondition, h⟩ := bind_eq_ok.1 h
  have hnames := forall₂_of_joinClauses hclauses
  rw [List.nil_append, List.map_map] at hnames
  exact ⟨clauses, condition, (Except.ok.inj h).symm, hnames, hcondition⟩

/-- A column is qualified by one of the names in the FROM clause. -/
theorem mem_fromNames_of_column {s : Selection} {q : Path} {text : String}
    (h : (scopeOf table s).column q = .ok text) :
    ∃ name ∈ fromNames table s.joins, text = Sql.column name q.property := by
  unfold Scope.column at h
  by_cases hroot : q.parent.isRoot = true
  · rw [if_pos hroot] at h
    exact ⟨table, List.mem_cons_self, (Except.ok.inj h).symm⟩
  · rw [if_neg hroot] at h
    by_cases hmem : (scopeOf table s).joined.contains q.parent = true
    · rw [if_pos hmem] at h
      obtain ⟨join, hjoin, hpath⟩ := List.mem_map.1 (List.contains_iff_mem.1 hmem)
      refine ⟨q.parent.text, List.mem_cons_of_mem _ ?_, (Except.ok.inj h).symm⟩
      exact hpath ▸ List.mem_map_of_mem hjoin
    · rw [if_neg hmem] at h
      cases h

/-- Where the names of the joins are distinct, a name is that of one table unless it is that of the
root table and of a join. -/
theorem count_fromNames {name : String} (hnodup : (joins.map fun join => join.path.text).Nodup)
    (hname : name ∈ fromNames table joins) :
    (fromNames table joins).count name = 1 ↔
      (name = table → table ∉ joins.map fun join => join.path.text) := by
  rw [fromNames, List.count_cons]
  by_cases htable : name = table
  · subst htable
    simp [List.count_eq_zero]
  · have hmem : name ∈ joins.map fun join => join.path.text :=
      (List.mem_cons.1 hname).resolve_left htable
    simp [List.count_eq_one_of_mem hnodup hmem, htable, Ne.symm htable]

end Sql

/-- Folders that lie in folders. -/
def Catalog.folders : Catalog :=
  .ofList [.ofDeclarations "folder" [.identity "id", .scalar "id" .i64, .scalar "name" .string,
    .relation "folder" .entity "folder"]]

/-- The schema of the folders. -/
def FieldSchema.folder : FieldSchema :=
  ⟨"folder", "folder", some "id",
    [("id", .scalar .i64), ("name", .scalar .string),
      ("folder", .relation ⟨"folder", .entity, .eager, "folder_id", "id", some ("id", .i64)⟩)]⟩

namespace FilterContext

variable {c : FilterContext} {schema start s : FieldSchema} {entity : String} {p : Path}
  {join : Join} {combinator : Combinator} {filter : FilterMap} {nodes : List FilterNode}
  {compiled : Compiled}

theorem isDotFree_target (hdots : c.catalog.IsDotFree) (r : Relation) : (c.target r).IsDotFree := by
  unfold target
  cases hr : c.catalog.resolve r.target with
  | none =>
    intro field kind hfield
    cases hfield
  | some s => exact hdots.schema hr

theorem Leads.isDotFree (hdots : c.catalog.IsDotFree) (hstart : start.IsDotFree)
    (h : c.Leads start p s) : p.IsDotFree ∧ s.IsDotFree := by
  induction h with
  | root => exact ⟨nofun, hstart⟩
  | @step q s name r _ hr ih =>
    refine ⟨fun step hstep => ?_, isDotFree_target hdots r⟩
    rcases List.mem_append.1 hstep with hstep | hstep
    · exact ih.1 step hstep
    · rw [List.mem_singleton.1 hstep]
      exact ih.2 name _ hr

theorem FollowsRelation.isDotFree (hdots : c.catalog.IsDotFree) (hstart : start.IsDotFree)
    (h : c.FollowsRelation start join) : join.path.IsDotFree ∧ join.path ≠ .root := by
  obtain ⟨p, s, name, r, hpath, hs, hr, -⟩ := h
  rw [hpath]
  exact ⟨(hs.step hr |>.isDotFree hdots hstart).1, Path.child_ne_root p name⟩

theorem nodup_texts {joins : List Join}
    (hjoins : ∀ join ∈ joins, join.path.IsDotFree ∧ join.path ≠ .root)
    (hnodup : (joins.map Join.path).Nodup) : (joins.map fun join => join.path.text).Nodup := by
  refine List.Nodup.map_on (fun join hjoin join' hjoin' htext => ?_) hnodup.of_map
  have hpath : join.path = join'.path :=
    Path.text_inj (hjoins join hjoin).1 (hjoins join' hjoin').1 (hjoins join hjoin).2
      (hjoins join' hjoin').2 htext
  exact List.inj_on_of_nodup_map hnodup hjoin hjoin' hpath

theorem mem_texts_iff {joins : List Join} {table : String}
    (hjoins : ∀ join ∈ joins, join.path.IsDotFree ∧ join.path ≠ .root)
    (htable : '.' ∉ table.toList) :
    table ∈ joins.map (fun join => join.path.text) ↔ .simple table ∈ joins.map Join.path := by
  constructor
  · intro h
    obtain ⟨join, hjoin, htext⟩ := List.mem_map.1 h
    have hsimple : (Path.simple table).IsDotFree := by
      intro step hstep
      rwa [List.mem_singleton.1 hstep]
    have hpath : join.path = .simple table :=
      Path.text_inj (hjoins join hjoin).1 hsimple (hjoins join hjoin).2 nofun htext
    exact List.mem_map.2 ⟨join, hjoin, hpath⟩
  · intro h
    obtain ⟨join, hjoin, hpath⟩ := List.mem_map.1 h
    exact List.mem_map.2 ⟨join, hjoin, by rw [hpath]; rfl⟩

/-- **Names in the FROM clause**: in the statements for a filter that compiles, over a catalog without
dots in its names, no two joins have one name, and the columns of the condition and of the order are
qualified by names of the clause. A name stands for two tables only if it is that of the collection
and also that of a relation of the root records which is joined. -/
theorem fromNames_nodup_iff (hdots : c.catalog.IsDotFree)
    (hschema : c.catalog.resolve entity = some schema)
    (hnodes : FilterNode.ofMap schema c.pageKey combinator filter = .ok nodes)
    (hcompile : c.compile schema nodes = .ok compiled) :
    let table := schema.collection
    let names := Sql.fromNames table compiled.joins
    let homonymous := .simple table ∈ compiled.joins.map Join.path
    (names.Nodup ↔ ¬ homonymous) ∧
    ∀ order limit offset,
      let selection : Selection := ⟨compiled.predicate, compiled.joins, order, limit, offset⟩
      let scope := Sql.scopeOf table selection
      (∃ statement, Sql.count table selection = .ok statement) ∧
      ((∀ item ∈ order.getD [], item.path.parent = .root) →
        ∃ statement, Sql.select table selection = .ok statement) ∧
      (∃ clauses condition,
        Sql.fromWhere table selection = .ok (.text (" FROM " ++ Sql.identifier table) :: clauses ++
          .text " WHERE " :: condition) ∧
        List.Forall₂ (fun join clause => ∃ owner ∈ names,
          clause = .text (Sql.joinClause owner join)) compiled.joins clauses ∧
        compiled.predicate.columns.mapM scope.column =
          .ok (condition.filterMap Sql.Fragment.column?)) ∧
      ∀ q text, scope.column q = .ok text →
        ∃ name ∈ names, text = Sql.column name q.property ∧
          (names.count name = 1 ↔ (name = table → ¬ homonymous)) := by
  intro table names homonymous
  obtain ⟨hscoped, hnodup⟩ := scoped_of_compile hnodes hcompile
  have hjoins : ∀ join ∈ compiled.joins, join.path.IsDotFree ∧ join.path ≠ .root :=
    fun join hjoin =>
      (hscoped.relations schema .root join hjoin).isDotFree hdots (hdots.schema hschema)
  have haliases := nodup_texts hjoins hnodup
  have hroot : table ∈ compiled.joins.map (fun join => join.path.text) ↔ homonymous :=
    mem_texts_iff hjoins (hdots.collection hschema)
  have hnames : names.Nodup ↔ ¬ homonymous := by
    change (table :: _).Nodup ↔ _
    rw [List.nodup_cons, hroot]
    exact and_iff_left haliases
  refine ⟨hnames, fun order limit offset => ?_⟩
  let selection : Selection := ⟨compiled.predicate, compiled.joins, order, limit, offset⟩
  obtain ⟨rows, hrows⟩ : ∃ fs, Sql.fromWhere table selection = .ok fs :=
    Sql.fromWhere_of_scoped hscoped.ownersFirst hscoped.reads.1 hscoped.reads.2
  have hselect : (∀ item ∈ order.getD [], item.path.parent = .root) →
      ∃ statement, Sql.select table selection = .ok statement := fun horder =>
    Sql.select_of_scoped hscoped.ownersFirst hscoped.reads.1 hscoped.reads.2 horder
  refine ⟨?_, hselect, ?_, fun q text htext => ?_⟩
  · exact ⟨_, by rw [Sql.count, hrows]; rfl⟩
  · obtain ⟨clauses, condition, hfragments, hclauses, hcondition⟩ := Sql.exists_of_fromWhere hrows
    rw [hfragments] at hrows
    exact ⟨clauses, condition, hrows, hclauses, Sql.columns_ofPredicate hcondition⟩
  · obtain ⟨name, hname, hqualified⟩ := Sql.mem_fromNames_of_column htext
    have hcount := Sql.count_fromNames haliases hname
    rw [hroot] at hcount
    exact ⟨name, hname, hqualified, hcount⟩

/-- Books by an author whose name begins with `le`: the tables go by the names `book` and `author`. -/
theorem fromNames_nodup_iff_library :
    let c : FilterContext := ⟨.library, "page", .builtIn, .utc⟩
    let filter : FilterMap := [("author", .obj [("name", .str "le%")])]
    c.catalog.IsDotFree ∧ c.catalog.resolve "book" = some .book ∧
    ∃ nodes compiled, FilterNode.ofMap .book c.pageKey .and filter = .ok nodes ∧
      c.compile .book nodes = .ok compiled ∧
      Sql.fromNames "book" compiled.joins = ["book", "author"] ∧
      (Sql.fromNames "book" compiled.joins).Nodup := by
  intro c filter
  have hdots : c.catalog.IsDotFree := by decide +kernel
  have hschema : c.catalog.resolve "book" = some .book := rfl
  obtain ⟨nodes, compiled, hnodes, hcompile, hjoins, hlist⟩ :
      ∃ nodes compiled, FilterNode.ofMap .book c.pageKey .and filter = .ok nodes ∧
        c.compile .book nodes = .ok compiled ∧
        compiled.joins.map Join.path = [.simple "author"] ∧
        Sql.fromNames "book" compiled.joins = ["book", "author"] := ⟨_, _, rfl, rfl, rfl, rfl⟩
  have hnames := (fromNames_nodup_iff hdots hschema hnodes hcompile).1
  rw [hjoins] at hnames
  exact ⟨hdots, hschema, nodes, compiled, hnodes, hcompile, hlist, hnames.2 (by decide)⟩

/-- Folders in a folder named `inbox`: the folders and those that they lie in are both called
`folder`, and so the condition is on the name of one or the other. -/
theorem fromNames_not_nodup_folders :
    let c : FilterContext := ⟨.folders, "page", .builtIn, .utc⟩
    let filter : FilterMap := [("folder", .obj [("name", .str "inbox")])]
    c.catalog.IsDotFree ∧ c.catalog.resolve "folder" = some .folder ∧
    ∃ nodes compiled statement, FilterNode.ofMap .folder c.pageKey .and filter = .ok nodes ∧
      c.compile .folder nodes = .ok compiled ∧
      Sql.select "folder" ⟨compiled.predicate, compiled.joins, none, none, none⟩ = .ok statement ∧
      statement.text = "SELECT DISTINCT \"folder\".* FROM \"folder\" INNER JOIN \"folder\" AS " ++
        "\"folder\" ON \"folder\".\"folder_id\" = \"folder\".\"id\" " ++
        "WHERE UPPER(\"folder\".\"name\") = $1" ∧
      Sql.fromNames "folder" compiled.joins = ["folder", "folder"] ∧
      ¬ (Sql.fromNames "folder" compiled.joins).Nodup := by
  intro c filter
  refine ⟨by decide +kernel, rfl, _, _, _, rfl, rfl, rfl, by decide +kernel, rfl, by decide⟩

end FilterContext

end RowFilter
