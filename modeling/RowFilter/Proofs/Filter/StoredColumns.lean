import RowFilter.Proofs.Filter.Refusal
import RowFilter.Proofs.Filter.EntryOrder
import RowFilter.Proofs.Sql.Columns

/-!
# The columns that a compiled filter names

Each column in the condition of a compiled filter comes from an entry that the filter reaches. A
scalar field is a column by itself. What is said of a relation is read from a column with the name
of the relation, or from the identity of its members; these need not be among the columns that the
records are stored with, which are the scalar fields and the local keys of relations.
-/

namespace RowFilter

/-- Whether a value is a list, or a bag of candidates, in which there is nothing to compare with. -/
def Json.OffersNothing : Json → Prop
  | .arr items => leavesOfItems items = []
  | .obj fields => Condition.isRange fields = false ∧ leavesOfItems (Keyed.values fields) = []
  | .null | .bool _ | .num _ | .str _ => False

/-- Whether the records of a schema are stored with a column: a scalar field, or the local key of a
relation. -/
def FieldSchema.Stores (s : FieldSchema) (name : String) : Prop :=
  (∃ type, s.get? name = some (.scalar type)) ∨
    ∃ field r, s.get? field = some (.relation r) ∧ r.localKey = name

namespace FilterContext

/-- Whether what an entry states about a field of the kind is read from a column. The entry is one of
the records of a schema at a path, and the column belongs to records of the second schema. -/
inductive ReadsColumn (c : FilterContext) (s : FieldSchema) (path : Path) (e : FilterEntry) :
    FieldKind → FieldSchema → Path → Prop where
  | scalar {type : ScalarType} (hoffers : ¬ e.value.OffersNothing) :
      ReadsColumn c s path e (.scalar type) s (path.child e.field)
  | absent {r : Relation} (hnull : e.value = .null) :
      ReadsColumn c s path e (.relation r) s (path.child e.field)
  | key {r : Relation} (hflat : Condition.nested? e.value = none)
      (hoffers : ¬ e.value.OffersNothing) (hone : r.cardinality = .one) :
      ReadsColumn c s path e (.relation r) s (path.child e.field)
  | member {r : Relation} {identity : String} {type : ScalarType}
      (hflat : Condition.nested? e.value = none) (hoffers : ¬ e.value.OffersNothing)
      (hpresent : e.value.isNull = false) (hmany : r.cardinality = .many)
      (hidentity : r.identity = some (identity, type)) :
      ReadsColumn c s path e (.relation r) (c.target r) ((path.child e.field).child identity)

/-- Whether the table at a path stands for the records of a schema: the root table for those of
`start`, and the table of a join for those that its relation leads to. -/
def StandsFor (c : FilterContext) (start : FieldSchema) (joins : List Join) (p : Path)
    (s : FieldSchema) : Prop :=
  c.Leads start p s ∧ (p = .root ∨ ∃ join ∈ joins, join.path = p ∧ join.collection = s.collection)

variable {c : FilterContext} {schema s start : FieldSchema} {combinator : Combinator}
  {filter : FilterMap} {root path p q : Path} {e : FilterEntry} {n : FilterNode} {kind : FieldKind}
  {type : ScalarType} {nodes : List FilterNode} {part compiled : Compiled} {value : Json}

/-! ## The columns of one condition -/

theorem mem_columns_boundsPredicate {ends : Bounds Literal} :
    q ∈ (boundsPredicate (column type path) ends).columns ↔ q = path := by
  cases ends <;> simp [boundsPredicate, Predicate.columns, paths_column, Expr.paths]

theorem mem_columns_foldl_and {ps : List Predicate} {first : Predicate} :
    q ∈ (ps.foldl .and first).columns ↔ q ∈ first.columns ∨ ∃ p ∈ ps, q ∈ p.columns := by
  induction ps generalizing first with
  | nil => simp
  | cons p rest ih =>
    rw [List.foldl_cons, ih, Predicate.columns, List.mem_append, List.exists_mem_cons_iff, or_assoc]

theorem mem_columns_timePredicates {ends : Bounds Literal} {p : Predicate}
    (h : p ∈ timePredicates path ends) (hq : q ∈ p.columns) : q = path := by
  obtain ⟨operator, t, hoperator, rfl⟩ := exists_of_mem_timePredicates h
  rcases hoperator with rfl | rfl <;> simpa [Predicate.columns, Expr.paths] using hq

/-- A condition on a column names that column, unless it is a list of no candidates. -/
theorem ValueOutcome.mem_columns {condition : Condition} {predicate : Predicate}
    (h : ValueOutcome c type path condition predicate) :
    q ∈ predicate.columns ↔
      q = path ∧ ∀ values, condition = .isIn values → Json.leavesOfItems values ≠ [] := by
  cases h with
  | absent => simp [Predicate.columns, Expr.paths]
  | equals => simp [Predicate.columns, paths_column, Expr.paths]
  | like => simp [Predicate.columns, paths_column]
  | @isIn values ls hls =>
    simp only [Condition.isIn.injEq, forall_eq']
    have hempty : ls = [] ↔ Json.leavesOfItems values = [] := by
      rw [candidates_ok hls, List.map_eq_nil_iff]
    cases ls with
    | nil =>
      have hnil := hempty.1 rfl
      simp [Predicate.columns, hnil]
    | cons l rest =>
      have hne : Json.leavesOfItems values ≠ [] :=
        fun hnil => List.cons_ne_nil l rest (hempty.2 hnil)
      simp [Predicate.columns, paths_column, Expr.paths, Expr.pathsOfItems,
        pathsOfItems_literals, hne]
  | range =>
    simp only [reduceCtorEq, false_implies, implies_true, and_true]
    rw [mem_columns_foldl_and, mem_columns_boundsPredicate]
    refine or_iff_left_of_imp ?_
    rintro ⟨p, hp, hq⟩
    split at hp
    · exact mem_columns_timePredicates hp hq
    · cases hp

end FilterContext

/-- The conditions that offer nothing are the lists of no candidates. -/
theorem Condition.offersNothing_iff {declared : DeclaredType} {field : String} {value : Json}
    {condition : Condition} (h : ofValue declared field value = .ok condition)
    (hflat : declared.isRelation = true → nested? value = none) :
    value.OffersNothing ↔ ∃ values, condition = .isIn values ∧ Json.leavesOfItems values = [] := by
  obtain ⟨written, hwritten, hcondition⟩ := ofValue_ok h
  have hupper : (∃ values, condition = .isIn values ∧ Json.leavesOfItems values = []) ↔
      ∃ values, written = .isIn values ∧ Json.leavesOfItems values = [] := by
    rw [hcondition]
    split
    · cases written <;> simp [upper, Json.leavesOfItems_upperItems]
    · exact Iff.rfl
  rw [hupper]
  cases value with
  | str s =>
    cases hwritten
    by_cases hpattern : isPattern s = true <;> simp [hpattern, Json.OffersNothing]
  | arr items =>
    cases hwritten
    simp [Json.OffersNothing]
  | obj fields =>
    rw [ofWritten_obj hflat] at hwritten
    split at hwritten
    · next hrange =>
      obtain ⟨bounds, flags, -, -, rfl⟩ := ofRange_ok hwritten
      simp [Json.OffersNothing, hrange]
    · next hrange =>
      cases hwritten
      simp [Json.OffersNothing, hrange]
  | null | bool | num =>
    cases hwritten
    simp [Json.OffersNothing]

namespace FilterContext

variable {c : FilterContext} {schema s start : FieldSchema} {combinator : Combinator}
  {filter : FilterMap} {root path p q : Path} {e : FilterEntry} {n : FilterNode} {kind : FieldKind}
  {type : ScalarType} {nodes : List FilterNode} {part compiled : Compiled} {value : Json}

theorem mem_columns_of_value {declared : DeclaredType} {field : String} {condition : Condition}
    {predicate : Predicate} (hcondition : Condition.ofValue declared field value = .ok condition)
    (h : ValueOutcome c type path condition predicate)
    (hflat : declared.isRelation = true → Condition.nested? value = none) :
    q ∈ predicate.columns ↔ q = path ∧ ¬ value.OffersNothing := by
  rw [h.mem_columns, Condition.offersNothing_iff hcondition hflat]
  refine and_congr_right' ?_
  rw [not_exists]
  exact forall_congr' fun values => not_and.symm

/-- Whether the nested filter of an entry, if it has one, reaches an entry that is read from this
column. -/
def ReadsNested (c : FilterContext) (root : Path) (e : FilterEntry) (kind : FieldKind) (q : Path) :
    Prop :=
  ∃ r fields, kind = .relation r ∧ Condition.nested? e.value = some fields ∧
    ∃ s p e' kind' owner, c.Reaches (c.target r) (root.child e.field) fields s p e' kind' ∧
      c.ReadsColumn s p e' kind' owner q

theorem not_readsNested_scalar : ¬ c.ReadsNested root e (.scalar type) q := by
  rintro ⟨r, _, hr, -⟩
  cases hr

theorem not_readsNested_of_flat (hflat : Condition.nested? e.value = none) :
    ¬ c.ReadsNested root e kind q := by
  rintro ⟨_, fields, -, hfields, -⟩
  cases hflat.symm.trans hfields

/-- A filter reads the columns of its own entries and those of the filters nested in it. -/
theorem exists_readsColumn_iff :
    (∃ s p e kind owner, c.Reaches schema root filter s p e kind ∧
        c.ReadsColumn s p e kind owner q) ↔
      ∃ e ∈ FilterEntry.ofMap c.pageKey filter, ∃ kind, schema.get? e.field = some kind ∧
        ((∃ owner, c.ReadsColumn schema root e kind owner q) ∨ c.ReadsNested root e kind q) := by
  constructor
  · rintro ⟨s, p, e, kind, owner, hreaches, hreads⟩
    cases hreaches with
    | here he hkind => exact ⟨e, he, kind, hkind, .inl ⟨owner, hreads⟩⟩
    | nested howner hr hfields hinner =>
      exact ⟨_, howner, _, hr, .inr ⟨_, _, rfl, hfields, s, p, e, kind, owner, hinner, hreads⟩⟩
  · rintro ⟨e, he, kind, hkind, ⟨owner, hreads⟩ |
      ⟨r, fields, rfl, hfields, s, p, e', kind', owner, hreaches, hreads⟩⟩
    · exact ⟨schema, root, e, kind, owner, .here he hkind, hreads⟩
    · exact ⟨s, p, e', kind', owner, .nested he hkind hfields hreaches, hreads⟩

/-- What the predicate of a level names: the columns that the entries it reaches are read from. -/
def NamesReached (c : FilterContext) : LevelProperty := fun schema root _ filter compiled =>
  ∀ q, q ∈ compiled.predicate.columns ↔
    ∃ s p e kind owner, c.Reaches schema root filter s p e kind ∧ c.ReadsColumn s p e kind owner q

/-- What a compiled node names: the column of its own entry, or those of its nested filter. -/
theorem NodeOutcome.mem_columns (h : NodeOutcome c c.NamesReached schema root n part)
    (hread : Reading.ofEntry schema combinator e = .ok (.node n))
    (hkind : schema.get? e.field = some kind) :
    q ∈ part.predicate.columns ↔
      (∃ owner, c.ReadsColumn schema root e kind owner q) ∨ c.ReadsNested root e kind q := by
  obtain ⟨kind', condition, hkind', hcondition, rfl⟩ := Reading.ofEntry_node hread
  cases hkind.symm.trans hkind'
  cases h with
  | @column type p hscalar _ hp =>
    cases hkind.symm.trans hscalar
    rw [mem_columns_of_value hcondition (compileValue_ok hp) nofun,
      or_iff_left not_readsNested_scalar]
    constructor
    · rintro ⟨rfl, hoffers⟩
      exact ⟨_, .scalar hoffers⟩
    · rintro ⟨owner, hreads⟩
      cases hreads with
      | scalar hoffers => exact ⟨rfl, hoffers⟩
  | @absent r hrelation hnull =>
    cases hkind.symm.trans hrelation
    have hvalue : e.value = .null := by
      refine Json.eq_null_of_isNull ?_
      rw [← Condition.isNullTest_of_ofValue hcondition]
      dsimp only at hnull
      rw [hnull]
      rfl
    have hflat : Condition.nested? e.value = none := by
      rw [hvalue]
      rfl
    have hcolumns : q ∈ (Predicate.isNull (.path (root.child e.field))).columns ↔
        q = root.child e.field := by
      simp [Predicate.columns, Expr.paths]
    rw [hcolumns, or_iff_left (not_readsNested_of_flat hflat)]
    constructor
    · rintro rfl
      exact ⟨_, .absent hvalue⟩
    · rintro ⟨owner, hreads⟩
      cases hreads with
      | absent | key => rfl
      | member _ _ hpresent =>
        rw [hvalue] at hpresent
        cases hpresent
  | @key r field type p hrelation hone hidentity hpresent _ hp =>
    cases hkind.symm.trans hrelation
    have hflat := (compileValue_ok hp).nested?_eq_none hcondition
    rw [mem_columns_of_value hcondition (compileValue_ok hp) fun _ => hflat,
      or_iff_left (not_readsNested_of_flat hflat)]
    constructor
    · rintro ⟨rfl, hoffers⟩
      exact ⟨_, .key hflat hoffers hone⟩
    · rintro ⟨owner, hreads⟩
      cases hreads with
      | absent hnull => exact ⟨rfl, by rw [hnull]; exact id⟩
      | key _ hoffers => exact ⟨rfl, hoffers⟩
      | member _ _ _ hmany => cases hone.symm.trans hmany
  | @member r field type p hrelation hmany hidentity hpresent _ hp =>
    cases hkind.symm.trans hrelation
    have hflat := (compileValue_ok hp).nested?_eq_none hcondition
    have hpresent' : e.value.isNull = false := by
      rw [← Condition.isNullTest_of_ofValue hcondition]
      exact hpresent
    rw [mem_columns_of_value hcondition (compileValue_ok hp) fun _ => hflat,
      or_iff_left (not_readsNested_of_flat hflat)]
    constructor
    · rintro ⟨rfl, hoffers⟩
      exact ⟨_, .member hflat hoffers hpresent' hmany hidentity⟩
    · rintro ⟨owner, hreads⟩
      cases hreads with
      | absent hnull =>
        rw [hnull] at hpresent'
        cases hpresent'
      | key _ _ hone => cases hone.symm.trans hmany
      | member _ hoffers _ _ hidentity' =>
        cases hidentity.symm.trans hidentity'
        exact ⟨rfl, hoffers⟩
  | @joined r fields inner hrelation hjoined hinner =>
    cases hkind.symm.trans hrelation
    have hfields := (Condition.ofValue_relation rfl hcondition fields).1 hjoined
    rw [hinner q]
    constructor
    · intro hreached
      exact .inr ⟨r, fields, rfl, hfields, hreached⟩
    · rintro (⟨owner, hreads⟩ | ⟨r', fields', hr', hfields', hreached⟩)
      · cases hreads with
        | absent hnull =>
          rw [hnull] at hfields
          cases hfields
        | key hflat | member hflat => cases hflat.symm.trans hfields
      · cases hr'
        cases hfields.symm.trans hfields'
        exact hreached

/-! ## The columns of a filter -/

theorem columns_negation (negation : Negation) (p : Predicate) :
    (negation.apply p).columns = p.columns := by
  cases negation <;> rfl

theorem columns_apply (combinator : Combinator) (p p' : Predicate) :
    (combinator.apply p p').columns = p.columns ++ p'.columns := by
  cases combinator <;> rfl

theorem mem_columns_combinedPredicate {pieces : List (Combinator × Predicate)} :
    q ∈ (Compiled.combinedPredicate pieces).columns ↔ ∃ piece ∈ pieces, q ∈ piece.2.columns := by
  have hfold : ∀ (rest : List (Combinator × Predicate)) (p : Predicate),
      q ∈ (rest.foldl (fun p piece => piece.1.apply p piece.2) p).columns ↔
        q ∈ p.columns ∨ ∃ piece ∈ rest, q ∈ piece.2.columns := by
    intro rest
    induction rest with
    | nil => simp
    | cons piece rest ih =>
      intro p
      rw [List.foldl_cons, ih, columns_apply, List.mem_append, List.exists_mem_cons_iff, or_assoc]
  cases pieces with
  | nil => simp [Compiled.combinedPredicate, Predicate.columns]
  | cons first rest =>
    rw [Compiled.combinedPredicate, hfold, List.exists_mem_cons_iff]

/-- Every level names the columns of what it reaches if the filters nested in it do. -/
theorem isPreserved_namesReached : c.IsPreserved c.NamesReached := by
  intro schema root combinator filter reading parts hreading hperm hparts q
  have hlevel : q ∈ (Compiled.combine (parts.map ofPart)).predicate.columns ↔
      ∃ part ∈ parts, q ∈ part.2.predicate.columns := by
    rw [Compiled.combine, mem_columns_combinedPredicate]
    simp [ofPart, Compiled.negated, columns_negation]
  rw [hlevel, exists_readsColumn_iff]
  constructor
  · rintro ⟨part, hpart, hq⟩
    have hmem : part.1 ∈ reading.nodes := hperm.mem_iff.1 (List.mem_map_of_mem hpart)
    obtain ⟨e, he, hread⟩ := FilterReading.entry_of_mem hreading hmem
    obtain ⟨kind, _, hkind, -, -⟩ := Reading.ofEntry_node hread
    exact ⟨e, he, kind, hkind, ((hparts part hpart).mem_columns hread hkind).1 hq⟩
  · rintro ⟨e, he, kind, hkind, hreads⟩
    obtain ⟨n, hn, hread⟩ := exists_node_of_entry hreading he hkind
    obtain ⟨part, hpart, rfl⟩ := List.mem_map.1 (hperm.mem_iff.2 hn)
    exact ⟨part, hpart, ((hparts part hpart).mem_columns hread hkind).2 hreads⟩

/-! ## Where columns belong -/

/-- An entry that is reached is one of the records that its path leads to. -/
theorem Reaches.leads (h : c.Reaches schema path filter s p e kind)
    (hschema : c.Leads start path schema) : c.Leads start p s ∧ s.get? e.field = some kind := by
  induction h with
  | here _ hkind => exact ⟨hschema, hkind⟩
  | nested _ hr _ _ ih => exact ih (.step hschema hr)

theorem ReadsColumn.leads {owner : FieldSchema} (h : c.ReadsColumn s p e kind owner q)
    (hs : c.Leads start p s) (hkind : s.get? e.field = some kind) :
    c.Leads start q.parent owner := by
  cases h with
  | scalar | absent | key =>
    rw [Path.parent_child]
    exact hs
  | member =>
    rw [Path.parent_child]
    exact .step hs hkind

/-- The table of a column that a compiled filter names stands for the records that its path leads
to. -/
theorem Scoped.standsFor (h : c.Scoped schema .root compiled)
    (hq : q ∈ compiled.predicate.columns) (hs : c.Leads schema q.parent s) :
    c.StandsFor schema compiled.joins q.parent s := by
  refine ⟨hs, (h.reads.2 q (Predicate.columns_subset _ hq)).imp_right fun hjoined => ?_⟩
  obtain ⟨join, hjoin, hpath⟩ := List.mem_map.1 hjoined
  obtain ⟨p', s', name, r, hpath', hs', hr, -, -, hcollection⟩ := h.relations schema .root join hjoin
  have htarget : c.Leads schema q.parent (c.target r) := by
    rw [← hpath, hpath']
    exact .step hs' hr
  rw [hs.unique htarget]
  exact ⟨join, hjoin, hpath, hcollection⟩

/-- **The columns of a compiled filter**: the SQL form of its condition names the columns from which
the entries that it reaches are read, each of a table that stands for their records. These are
columns with which the records are stored exactly if those are from which the conditions on
relations are read. -/
theorem columns_stored_iff
    (hnodes : FilterNode.ofMap schema c.pageKey combinator filter = .ok nodes)
    (hcompile : c.compile schema nodes = .ok compiled) :
    (∀ order limit offset, ∃ fs,
      let selection : Selection := ⟨compiled.predicate, compiled.joins, order, limit, offset⟩
      let scope := Sql.scopeOf schema.collection selection
      Sql.ofPredicate scope compiled.predicate = .ok fs ∧
        compiled.predicate.columns.mapM scope.column = .ok (fs.filterMap Sql.Fragment.column?)) ∧
    (∀ q, q ∈ compiled.predicate.columns ↔ ∃ s p e kind owner,
      c.Reaches schema .root filter s p e kind ∧ c.ReadsColumn s p e kind owner q) ∧
    (∀ q ∈ compiled.predicate.columns, ∃ s, c.StandsFor schema compiled.joins q.parent s) ∧
    ((∀ q ∈ compiled.predicate.columns, ∃ s, c.StandsFor schema compiled.joins q.parent s ∧
        s.Stores q.property) ↔
      ∀ s p e r owner q, c.Reaches schema .root filter s p e (.relation r) →
        c.ReadsColumn s p e (.relation r) owner q → owner.Stores q.property) := by
  obtain ⟨inner, hnames, hcompiled⟩ := compile_induct isPreserved_namesReached hnodes hcompile
  have hnames' : ∀ q, q ∈ compiled.predicate.columns ↔ ∃ s p e kind owner,
      c.Reaches schema .root filter s p e kind ∧ c.ReadsColumn s p e kind owner q := by
    rw [hcompiled]
    exact hnames
  have hscoped := (scoped_of_compile hnodes hcompile).1
  have hstands : ∀ {s p e kind owner q}, c.Reaches schema .root filter s p e kind →
      c.ReadsColumn s p e kind owner q → c.StandsFor schema compiled.joins q.parent owner := by
    intro s p e kind owner q hreaches hreads
    obtain ⟨hs, hkind⟩ := hreaches.leads .root
    exact hscoped.standsFor ((hnames' q).2 ⟨s, p, e, kind, owner, hreaches, hreads⟩)
      (hreads.leads hs hkind)
  refine ⟨fun order limit offset => ?_, hnames', fun q hq => ?_, fun hstored => ?_, fun hstored => ?_⟩
  · let selection : Selection := ⟨compiled.predicate, compiled.joins, order, limit, offset⟩
    obtain ⟨fs, hfs⟩ : ∃ fs, Sql.ofPredicate (Sql.scopeOf schema.collection selection)
        compiled.predicate = .ok fs :=
      Sql.ofPredicate_of_names hscoped.reads.1 hscoped.reads.2
    exact ⟨fs, hfs, Sql.columns_ofPredicate hfs⟩
  · obtain ⟨s, p, e, kind, owner, hreaches, hreads⟩ := (hnames' q).1 hq
    exact ⟨owner, hstands hreaches hreads⟩
  · intro s p e r owner q hreaches hreads
    obtain ⟨owner', howner, hstores⟩ :=
      hstored q ((hnames' q).2 ⟨s, p, e, _, owner, hreaches, hreads⟩)
    rwa [(hstands hreaches hreads).1.unique howner.1]
  · intro q hq
    obtain ⟨s, p, e, kind, owner, hreaches, hreads⟩ := (hnames' q).1 hq
    refine ⟨owner, hstands hreaches hreads, ?_⟩
    cases kind with
    | scalar type =>
      obtain ⟨-, hkind⟩ := hreaches.leads .root
      cases hreads with
      | scalar =>
        rw [Path.property_child]
        exact .inl ⟨type, hkind⟩
    | relation r => exact hstored s p e r owner q hreaches hreads

end FilterContext

/-- Books, each by one author. -/
def Catalog.library : Catalog :=
  .ofList
    [.ofDeclarations "author" [.identity "id", .scalar "id" .i64, .scalar "name" .string],
      .ofDeclarations "book" [.identity "id", .scalar "id" .i64, .scalar "title" .string,
        .relation "author" .entity "author"]]

/-- The schema of the books in the library. -/
def FieldSchema.book : FieldSchema :=
  ⟨"book", "book", some "id",
    [("id", .scalar .i64), ("title", .scalar .string),
      ("author", .relation ⟨"author", .entity, .eager, "author_id", "id", some ("id", .i64)⟩)]⟩

/-- The schema of the authors in the library. -/
def FieldSchema.author : FieldSchema :=
  ⟨"author", "author", some "id",
    [("id", .scalar .i64), ("name", .scalar .string)]⟩

theorem FieldSchema.not_stores_author : ¬ FieldSchema.book.Stores "author" := by
  rintro (⟨type, htype⟩ | ⟨field, r, hr, hlocal⟩)
  · cases htype
  · have hmem := Keyed.mem_of_get? hr
    simp only [book, List.mem_cons, Prod.mk.injEq, reduceCtorEq, and_false, false_or,
      FieldKind.relation.injEq, List.not_mem_nil, or_false] at hmem
    rw [hmem.2] at hlocal
    exact absurd hlocal (by decide)

namespace FilterContext

/-- Books without a title by an author whose name begins with `le`: the title is a column of the
root table, and the name one of the table of the authors. -/
theorem columns_stored_iff_library :
    let c : FilterContext := ⟨.library, "page", .builtIn, .utc⟩
    let filter : FilterMap := [("title", .null), ("author", .obj [("name", .str "le%")])]
    ∃ nodes compiled fs, c.catalog.resolve "book" = some .book ∧
      FilterNode.ofMap .book c.pageKey .and filter = .ok nodes ∧
      c.compile .book nodes = .ok compiled ∧
      compiled.predicate.columns = [⟨["title"]⟩, ⟨["author", "name"]⟩] ∧
      fs.filterMap Sql.Fragment.column? = ["\"book\".\"title\"", "\"author\".\"name\""] ∧
      Sql.ofPredicate ⟨some "book", [⟨["author"]⟩]⟩ compiled.predicate = .ok fs ∧
      ∀ q ∈ compiled.predicate.columns,
        ∃ s, c.StandsFor .book compiled.joins q.parent s := by
  intro c filter
  obtain ⟨nodes, compiled, hschema, hnodes, hcompile, hcolumns, hjoins⟩ :
      ∃ nodes compiled, c.catalog.resolve "book" = some .book ∧
        FilterNode.ofMap .book c.pageKey .and filter = .ok nodes ∧
        c.compile .book nodes = .ok compiled ∧
        compiled.predicate.columns = [⟨["title"]⟩, ⟨["author", "name"]⟩] ∧
        compiled.joins.map Join.path = [⟨["author"]⟩] := ⟨_, _, rfl, rfl, rfl, rfl, rfl⟩
  obtain ⟨hselection, -, hstands, -⟩ := columns_stored_iff hnodes hcompile
  obtain ⟨fs, hfs, hnamed⟩ := hselection none none none
  rw [hcolumns] at hnamed
  simp only [Sql.scopeOf, hjoins] at hfs hnamed
  have hrendered : ([⟨["title"]⟩, ⟨["author", "name"]⟩] : List Path).mapM
      (Sql.Scope.column ⟨some "book", [⟨["author"]⟩]⟩) =
        .ok ["\"book\".\"title\"", "\"author\".\"name\""] := by decide +kernel
  have htexts := Except.ok.inj (hnamed.symm.trans hrendered)
  exact ⟨nodes, compiled, fs, hschema, hnodes, hcompile, hcolumns, htexts, hfs, hstands⟩

/-- The books by author 5: the SQL form compares a column `author` of the books, which are stored
with a column `author_id` and none of that name. -/
theorem columns_not_stored_author :
    let c : FilterContext := ⟨.library, "page", .builtIn, .utc⟩
    ∃ nodes compiled statement, c.catalog.resolve "book" = some .book ∧
      FilterNode.ofMap .book c.pageKey .and [("author", .ofNat 5)] = .ok nodes ∧
      c.compile .book nodes = .ok compiled ∧
      Sql.select "book" ⟨compiled.predicate, compiled.joins, none, none, none⟩ = .ok statement ∧
      statement.text = "SELECT \"book\".* FROM \"book\" WHERE \"book\".\"author\" = $1" ∧
      ⟨["author"]⟩ ∈ compiled.predicate.columns ∧
      ¬ ∃ s, c.StandsFor .book compiled.joins .root s ∧ s.Stores "author" := by
  intro c
  refine ⟨_, _, _, rfl, rfl, rfl, rfl, by decide +kernel, List.mem_cons_self, ?_⟩
  rintro ⟨s, ⟨hs, -⟩, hstores⟩
  rw [hs.unique .root] at hstores
  exact FieldSchema.not_stores_author hstores

end FilterContext

end RowFilter
