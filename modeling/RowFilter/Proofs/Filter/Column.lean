import RowFilter.Proofs.Filter.Outcome

/-!
# Filters on columns

A scalar field is a column of a record, and so is the key of the one record that a relation leads
to. A filter map that states conditions on columns only needs no join, and compiles exactly if each of
the conditions does by itself.
-/

namespace RowFilter

/-- The type of the values of a field that is a column. -/
def FieldKind.columnType? : FieldKind → Option ScalarType
  | .scalar type => some type
  | .relation r =>
    match r.cardinality with
    | .one => r.identity.map Prod.snd
    | .many => none

theorem FieldKind.valueType?_of_column {kind : FieldKind} {type : ScalarType}
    (h : kind.columnType? = some type) :
    (DeclaredType.ofFieldKind kind).valueType? = some type := by
  cases kind with
  | scalar => exact h
  | relation r =>
    rw [columnType?] at h
    split at h
    · exact h
    · cases h

theorem Condition.ne_joined_of_ofValue {declared : DeclaredType} {field : String} {value : Json}
    {condition : Condition} (h : ofValue declared field value = .ok condition)
    (hflat : declared.isRelation = true → nested? value = none) (filter : FilterMap) :
    condition ≠ .joined filter := by
  rintro rfl
  by_cases hrelation : declared.isRelation = true
  · have hnested := (ofValue_relation hrelation h filter).1 rfl
    rw [hflat hrelation] at hnested
    cases hnested
  · obtain ⟨written, hwritten, hjoined⟩ := ofValue_ok h
    have hwritten' : written = .joined filter := by
      split at hjoined
      · cases written <;> cases hjoined
        rfl
      · exact hjoined.symm
    subst hwritten'
    cases value with
    | obj fields =>
      rw [ofWritten, if_neg hrelation] at hwritten
      split at hwritten
      · obtain ⟨_, _, _, _, hrange⟩ := ofRange_ok hwritten
        cases hrange
      · cases hwritten
    | str s =>
      rw [ofWritten] at hwritten
      split at hwritten <;> cases hwritten
    | null | bool | num | arr => cases hwritten

/-- Whether a value states a condition on a column, and not a filter on related records. -/
structure FieldSchema.HasColumn (schema : FieldSchema) (key : String) (value : Json)
    (kind : FieldKind) (type : ScalarType) : Prop where
  declared : schema.get? (Naming.camelCase key) = some kind
  column : kind.columnType? = some type
  flat : (DeclaredType.ofFieldKind kind).isRelation = true → Condition.nested? value = none

theorem FieldSchema.HasColumn.ofScalar {schema : FieldSchema} {key : String} {type : ScalarType}
    (h : schema.get? (Naming.camelCase key) = some (.scalar type)) (value : Json) :
    schema.HasColumn key value (.scalar type) type :=
  ⟨h, rfl, nofun⟩

/-- Whether a key of a filter map stands for a field, and not for the page or a negation. -/
structure FilterContext.NamesField (c : FilterContext) (schema : FieldSchema) (key : String)
    (kind : FieldKind) : Prop where
  declared : schema.get? (Naming.camelCase key) = some kind
  notPage : key ≠ c.pageKey
  notNegation : FilterEntry.isNotKey key = false

namespace FilterEntry

variable {pageKey key notKey : String} {value : Json} {negated : FilterMap}

theorem ofMap_singleton (hpage : key ≠ pageKey) (hnot : isNotKey key = false) :
    ofMap pageKey [(key, value)] = [⟨.none, key, value⟩] := by
  simp [ofMap, ofEntry, hpage, hnot]

theorem ofMap_negation (hpage : notKey ≠ pageKey) (hnot : isNotKey notKey = true) :
    ofMap pageKey [(notKey, .obj negated)] =
      negated.map fun entry => ⟨.not, entry.1, entry.2⟩ := by
  simp [ofMap, ofEntry, hpage, hnot]

theorem ofMap_pageKey : ofMap pageKey [(pageKey, value)] = [] := by
  simp [ofMap, ofEntry]

end FilterEntry

namespace FilterContext

variable {c : FilterContext} {schema : FieldSchema} {combinator : Combinator} {filter : FilterMap}
  {e : FilterEntry} {entries : List FilterEntry} {n : FilterNode} {nodes : List FilterNode}
  {kind : FieldKind} {type : ScalarType} {root : Path} {p : Predicate} {part compiled : Compiled}

/-! ## Nodes -/

/-- Where every entry names a field of the schema, the nodes are those of the entries. -/
theorem ofMap_eq_ok (hentries : FilterEntry.ofMap c.pageKey filter = entries)
    (hdeclared : ∀ e ∈ entries, e.isDeclaredIn schema = true) :
    FilterNode.ofMap schema c.pageKey combinator filter = .ok nodes ↔
      List.Forall₂ (fun e n => Reading.ofEntry schema combinator e = .ok (.node n))
        entries nodes := by
  subst hentries
  constructor
  · intro h
    obtain ⟨reading, hreading, hknown⟩ := bind_eq_ok.1 h
    have hall := FilterReading.nodes_ofMap hreading
    rwa [List.filter_eq_self.2 hdeclared, FilterReading.known_ok hknown] at hall
  · intro h
    -- each entry is read as a node, so no name is left over to complain about
    have hreadings : (FilterEntry.ofMap c.pageKey filter).mapM (Reading.ofEntry schema combinator) =
        .ok (nodes.map .node) := mapM_of_forall₂ (List.forall₂_map_right_iff.2 h)
    have hnodes : (nodes.map Reading.node).filterMap Reading.node? = nodes := by
      rw [List.filterMap_map]
      exact List.filterMap_some
    have hunknown : (nodes.map Reading.node).filterMap Reading.unknown? = [] := by
      simp [List.filterMap_map, Function.comp_def, Reading.unknown?]
    refine bind_eq_ok.2 ⟨_, bind_eq_ok.2 ⟨_, hreadings, rfl⟩, ?_⟩
    simp [FilterReading.known, hnodes, hunknown]

theorem ofEntry_eq_node (hkind : schema.get? e.field = some kind) :
    Reading.ofEntry schema combinator e = .ok (.node n) ↔
      ∃ condition, Condition.ofValue (.ofFieldKind kind) e.field e.value = .ok condition ∧
        n = ⟨e.field, .ofFieldKind kind, condition, combinator, e.negation⟩ := by
  unfold Reading.ofEntry
  rw [hkind]
  dsimp only
  rw [bind_eq_ok]
  refine exists_congr fun condition => and_congr_right' ⟨?_, ?_⟩
  · intro h
    cases h
    rfl
  · rintro rfl
    rfl

/-- A condition on a column compiles to its predicate on the values of the column. -/
theorem compileNode_column
    {nested : FieldSchema → Path → List FilterNode → Except FilterError Compiled}
    (hkind : schema.get? n.field = some kind) (hdeclared : n.type = .ofFieldKind kind)
    (htype : kind.columnType? = some type) (hflat : ∀ filter, n.condition ≠ .joined filter) :
    c.compileNode nested schema root n = .ok part ↔
      ∃ p, FilterNode.suits type n.condition = true ∧
        ValueOutcome c type (root.child n.field) n.condition p ∧ part = ⟨p, []⟩ := by
  constructor
  · intro h
    -- a column leaves three of the five ways, and two of them compile a value
    cases compileNode_ok hkind hdeclared h with
    | column hscalar hsuits hp =>
      cases hkind.symm.trans hscalar
      cases htype
      exact ⟨_, hsuits, compileValue_ok hp, rfl⟩
    | absent _ hnull =>
      rw [hnull]
      exact ⟨_, rfl, .absent, rfl⟩
    | key hrelation hone hidentity _ hsuits hp =>
      cases hkind.symm.trans hrelation
      rw [FieldKind.columnType?, hone, hidentity] at htype
      cases htype
      exact ⟨_, hsuits, compileValue_ok hp, rfl⟩
    | member hrelation hmany =>
      cases hkind.symm.trans hrelation
      rw [FieldKind.columnType?, hmany] at htype
      cases htype
    | joined _ hjoined => exact absurd hjoined (hflat _)
  · rintro ⟨p, hsuits, hp, rfl⟩
    have hsupported : n.isSupported = true := by
      refine isSupported_of_suits ?_ hsuits
      rw [hdeclared]
      exact FieldKind.valueType?_of_column htype
    unfold compileNode
    dsimp only
    rw [if_pos hsupported, hdeclared, hkind]
    cases kind with
    | scalar =>
      cases htype
      exact bind_eq_ok.2 ⟨p, hp.compileValue_eq, rfl⟩
    | relation r =>
      rw [FieldKind.columnType?] at htype
      split at htype
      case h_2 => cases htype
      case h_1 hone =>
      obtain ⟨identity, hidentity, rfl⟩ := Option.map_eq_some_iff.1 htype
      dsimp only [DeclaredType.ofFieldKind]
      split
      · next filter hjoined => exact absurd hjoined (hflat filter)
      · next hnull =>
        rw [hnull] at hp
        cases hp with
        | absent => rfl
        | equals hpresent => cases hpresent
      · rw [hidentity, hone]
        exact bind_eq_ok.2 ⟨p, hp.compileValue_eq, rfl⟩

/-! ## Filter maps -/

/-- A filter map on the records of a schema, read and compiled. -/
def compileMap (c : FilterContext) (schema : FieldSchema) (combinator : Combinator)
    (filter : FilterMap) : Except FilterError Compiled := do
  let nodes ← FilterNode.ofMap schema c.pageKey combinator filter
  c.compile schema nodes

theorem compileLevel_eq_ok {fuel : Nat} :
    c.compileLevel (fuel + 1) schema root nodes = .ok compiled ↔
    ∃ parts : List (FilterNode × Compiled), parts.map Prod.fst = nodes ∧
      (∀ part ∈ parts, c.compileNode (c.compileLevel fuel) schema root part.1 = .ok part.2) ∧
      compiled = .combine (parts.map ofPart) := by
  refine ⟨compileLevel_ok, ?_⟩
  rintro ⟨parts, rfl, hparts, rfl⟩
  refine bind_eq_ok.2 ⟨_, mapM_of_forall₂ ?_, rfl⟩
  refine List.forall₂_map_left_iff.2 (List.forall₂_map_right_iff.2 ?_)
  refine List.forall₂_same.2 fun part hpart => ?_
  exact bind_eq_ok.2 ⟨part.2, hparts part hpart, rfl⟩

theorem compile_eq_ok : c.compile schema nodes = .ok compiled ↔
    ∃ parts : List (FilterNode × Compiled), parts.map Prod.fst = nodes ∧
      (∀ part ∈ parts,
        c.compileNode (c.compileLevel (depth nodes)) schema .root part.1 = .ok part.2) ∧
      compiled = ⟨(Compiled.combine (parts.map ofPart)).predicate,
        Compiled.distinctJoins (Compiled.combine (parts.map ofPart)).joins⟩ := by
  constructor
  · intro h
    obtain ⟨level, hlevel, h⟩ := bind_eq_ok.1 h
    cases h
    obtain ⟨parts, hfst, hparts, rfl⟩ := compileLevel_ok hlevel
    exact ⟨parts, hfst, hparts, rfl⟩
  · rintro ⟨parts, hfst, hparts, rfl⟩
    exact bind_eq_ok.2 ⟨_, compileLevel_eq_ok.2 ⟨parts, hfst, hparts, rfl⟩, rfl⟩

/-- How what a value states on a column was compiled. -/
inductive ColumnOutcome (c : FilterContext) (schema : FieldSchema) (key : String) (value : Json)
    (p : Predicate) : Prop where
  | mk {kind : FieldKind} {type : ScalarType} {condition : Condition}
      (hcolumn : schema.HasColumn key value kind type)
      (hcondition : Condition.ofValue (.ofFieldKind kind) (Naming.camelCase key) value =
        .ok condition)
      (hsuits : FilterNode.suits type condition = true)
      (hp : ValueOutcome c type (Path.root.child (Naming.camelCase key)) condition p)

theorem columnOutcome_iff {key : String} {value : Json}
    (hcolumn : schema.HasColumn key value kind type) :
    ColumnOutcome c schema key value p ↔ ∃ condition,
      Condition.ofValue (.ofFieldKind kind) (Naming.camelCase key) value = .ok condition ∧
      FilterNode.suits type condition = true ∧
      ValueOutcome c type (Path.root.child (Naming.camelCase key)) condition p := by
  constructor
  · rintro ⟨hcolumn', hcondition, hsuits, hp⟩
    cases hcolumn.declared.symm.trans hcolumn'.declared
    cases hcolumn.column.symm.trans hcolumn'.column
    exact ⟨_, hcondition, hsuits, hp⟩
  · rintro ⟨condition, hcondition, hsuits, hp⟩
    exact ⟨hcolumn, hcondition, hsuits, hp⟩

/-- What an entry on a column counts as among the parts of a map. -/
def columnPart (combinator : Combinator) (e : FilterEntry) (p : Predicate) :
    Combinator × Compiled :=
  (combinator, ⟨e.negation.apply p, []⟩)

theorem columnOutcome_of_compileNode
    {nested : FieldSchema → Path → List FilterNode → Except FilterError Compiled}
    (hcolumn : schema.HasColumn e.key e.value kind type)
    (hread : Reading.ofEntry schema combinator e = .ok (.node n))
    (h : c.compileNode nested schema .root n = .ok part) :
    ∃ p, ColumnOutcome c schema e.key e.value p ∧ ofPart (n, part) = columnPart combinator e p := by
  obtain ⟨condition, hcondition, rfl⟩ := (ofEntry_eq_node hcolumn.declared).1 hread
  have hflat := Condition.ne_joined_of_ofValue hcondition hcolumn.flat
  obtain ⟨p, hsuits, hp, rfl⟩ :=
    (compileNode_column hcolumn.declared rfl hcolumn.column hflat).1 h
  exact ⟨p, ⟨hcolumn, hcondition, hsuits, hp⟩, rfl⟩

theorem ColumnOutcome.exists_node (combinator : Combinator)
    (h : ColumnOutcome c schema e.key e.value p) :
    ∃ n, Reading.ofEntry schema combinator e = .ok (.node n) ∧
      (∀ nested, c.compileNode nested schema .root n = .ok ⟨p, []⟩) ∧
      ofPart (n, ⟨p, []⟩) = columnPart combinator e p := by
  obtain ⟨hcolumn, hcondition, hsuits, hp⟩ := h
  have hflat := Condition.ne_joined_of_ofValue hcondition hcolumn.flat
  refine ⟨_, (ofEntry_eq_node hcolumn.declared).2 ⟨_, hcondition, rfl⟩, fun nested => ?_, rfl⟩
  exact (compileNode_column hcolumn.declared rfl hcolumn.column hflat).2 ⟨p, hsuits, hp, rfl⟩

/-- Nodes of conditions on columns were compiled one by one, whatever is nested in others. -/
theorem exists_columns {nested : FieldSchema → Path → List FilterNode → Except FilterError Compiled}
    {parts : List (FilterNode × Compiled)}
    (hcolumns : ∀ e ∈ entries, ∃ kind type, schema.HasColumn e.key e.value kind type)
    (hread : List.Forall₂ (fun e n => Reading.ofEntry schema combinator e = .ok (.node n))
      entries (parts.map Prod.fst))
    (hparts : ∀ part ∈ parts, c.compileNode nested schema .root part.1 = .ok part.2) :
    ∃ ps, List.Forall₂ (fun e p => c.ColumnOutcome schema e.key e.value p) entries ps ∧
      parts.map ofPart = List.zipWith (columnPart combinator) entries ps := by
  induction parts generalizing entries with
  | nil =>
    cases hread
    exact ⟨[], .nil, rfl⟩
  | cons part rest ih =>
    obtain ⟨hpart, hrest⟩ := List.forall_mem_cons.1 hparts
    cases hread with
    | @cons e _ entries _ he hread =>
      obtain ⟨⟨kind, type, hcolumn⟩, hcolumns⟩ := List.forall_mem_cons.1 hcolumns
      obtain ⟨p, hp, heq⟩ := columnOutcome_of_compileNode hcolumn he hpart
      obtain ⟨ps, hall, hmap⟩ := ih hcolumns hread hrest
      refine ⟨p :: ps, .cons hp hall, ?_⟩
      rw [List.map_cons, List.zipWith_cons_cons, hmap, heq]

theorem exists_nodes {ps : List Predicate} (combinator : Combinator)
    (h : List.Forall₂ (fun e p => c.ColumnOutcome schema e.key e.value p) entries ps) :
    ∃ parts : List (FilterNode × Compiled),
      List.Forall₂ (fun e n => Reading.ofEntry schema combinator e = .ok (.node n))
        entries (parts.map Prod.fst) ∧
      (∀ part ∈ parts, ∀ nested, c.compileNode nested schema .root part.1 = .ok part.2) ∧
      parts.map ofPart = List.zipWith (columnPart combinator) entries ps := by
  induction h with
  | nil => exact ⟨[], .nil, List.forall_mem_nil _, rfl⟩
  | @cons e p entries ps hp _ ih =>
    obtain ⟨n, hread, hpart, heq⟩ := hp.exists_node combinator
    obtain ⟨parts, hreads, hparts, hmap⟩ := ih
    refine ⟨(n, ⟨p, []⟩) :: parts, .cons hread hreads, List.forall_mem_cons.2 ⟨hpart, hparts⟩, ?_⟩
    rw [List.map_cons, List.zipWith_cons_cons, hmap, heq]

/-- Conditions on columns, each with the predicate that it compiles to, as one. -/
def combineColumns (combinator : Combinator) (entries : List FilterEntry) (ps : List Predicate) :
    Compiled :=
  ⟨Compiled.combinedPredicate
    (List.zipWith (fun e p => (combinator, e.negation.apply p)) entries ps), []⟩

theorem combine_columnParts (ps : List Predicate) :
    Compiled.combine (List.zipWith (columnPart combinator) entries ps) =
      combineColumns combinator entries ps := by
  have hjoins : (List.zipWith (columnPart combinator) entries ps).flatMap
      (fun part => part.2.joins) = [] := by
    induction entries generalizing ps with
    | nil => rfl
    | cons e entries ih =>
      cases ps with
      | nil => rfl
      | cons p ps => exact ih ps
  rw [Compiled.combine, hjoins, List.map_zipWith]
  rfl

/-- A filter map of conditions on columns compiles if each of them does, and needs no join. -/
theorem compileMap_columns (hentries : FilterEntry.ofMap c.pageKey filter = entries)
    (hcolumns : ∀ e ∈ entries, ∃ kind type, schema.HasColumn e.key e.value kind type) :
    c.compileMap schema combinator filter = .ok compiled ↔
      ∃ ps, List.Forall₂ (fun e p => c.ColumnOutcome schema e.key e.value p) entries ps ∧
        compiled = combineColumns combinator entries ps := by
  have hdeclared : ∀ e ∈ entries, e.isDeclaredIn schema = true := by
    intro e he
    obtain ⟨kind, type, hcolumn⟩ := hcolumns e he
    rw [FilterEntry.isDeclaredIn, FilterEntry.field, hcolumn.declared]
    rfl
  constructor
  · intro h
    obtain ⟨nodes, hnodes, h⟩ := bind_eq_ok.1 h
    obtain ⟨parts, rfl, hparts, rfl⟩ := compile_eq_ok.1 h
    obtain ⟨ps, hall, hmap⟩ :=
      exists_columns hcolumns ((ofMap_eq_ok hentries hdeclared).1 hnodes) hparts
    rw [hmap, combine_columnParts]
    exact ⟨ps, hall, rfl⟩
  · rintro ⟨ps, hall, rfl⟩
    obtain ⟨parts, hread, hparts, hmap⟩ := exists_nodes combinator hall
    refine bind_eq_ok.2 ⟨_, (ofMap_eq_ok hentries hdeclared).2 hread, compile_eq_ok.2 ?_⟩
    refine ⟨parts, rfl, fun part hpart => hparts part hpart _, ?_⟩
    rw [hmap, combine_columnParts]
    rfl

/-- A filter map of one condition on a column compiles to the predicate of the condition. -/
theorem compileMap_column (hentries : FilterEntry.ofMap c.pageKey filter = [e])
    (hcolumn : schema.HasColumn e.key e.value kind type) :
    c.compileMap schema combinator filter = .ok compiled ↔
      ∃ p, c.ColumnOutcome schema e.key e.value p ∧ compiled = ⟨e.negation.apply p, []⟩ := by
  have hcolumns : ∀ e' ∈ [e], ∃ kind type, schema.HasColumn e'.key e'.value kind type :=
    List.forall_mem_singleton.2 ⟨kind, type, hcolumn⟩
  rw [compileMap_columns hentries hcolumns]
  constructor
  · rintro ⟨ps, hall, rfl⟩
    cases hall with
    | @cons _ p _ _ hp hnil =>
      cases hnil
      exact ⟨p, hp, rfl⟩
  · rintro ⟨p, hp, rfl⟩
    exact ⟨[p], .cons hp .nil, rfl⟩

end FilterContext

end RowFilter
