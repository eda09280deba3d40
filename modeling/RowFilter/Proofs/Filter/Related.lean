import RowFilter.Proofs.Filter.Column
import RowFilter.Proofs.Filter.Relocation

/-!
# Filters of one condition on a relation

A condition on a relation to one record compiles as one on the column of its key. A filter of one
condition on a scalar field of that record compiles to the condition there, behind a join.
-/

namespace RowFilter

/-! ## Conditions -/

/-- A value that states no nested filter means the same for any two fields of a type. -/
theorem Condition.ofValue_congr {type type' : DeclaredType} {value : Json}
    {condition : Condition} (htype : type.valueType? = type'.valueType?)
    (hflat : nested? value = none) (field field' : String) :
    ofValue type field value = .ok condition ↔ ofValue type' field' value = .ok condition := by
  have hwritten : ∀ written, ofWritten type field value = .ok written ↔
      ofWritten type' field' value = .ok written := by
    intro written
    cases value with
    | obj fields =>
      have hrange := nested?_eq_none.1 hflat fields rfl
      rw [ofWritten, ofWritten, if_pos hrange, if_pos hrange, ofRange, ofRange]
      cases Bounds.ofEnds? ((Keyed.get? fields "from").getD .null)
        ((Keyed.get? fields "to").getD .null) with
      | none =>
        constructor
        · intro h
          cases h
        · intro h
          cases h
      | some bounds => exact Iff.rfl
    | null | bool | num | str | arr => exact Iff.rfl
  have htext : type.isText = type'.isText := by
    rw [DeclaredType.isText, htype, DeclaredType.isText]
  rw [ofValue, ofValue, htext, bind_eq_ok, bind_eq_ok]
  simp only [hwritten]

theorem Condition.ofValue_joined {type : DeclaredType} {filter : FilterMap}
    (htype : type.isRelation = true) (hrange : isRange filter = false) (field : String) :
    ofValue type field (.obj filter) = .ok (.joined filter) := by
  have hwritten : ofWritten type field (.obj filter) = .ok (.joined filter) := by
    rw [ofWritten, hrange, htype]
    rfl
  refine bind_eq_ok.2 ⟨_, hwritten, ?_⟩
  split <;> rfl

theorem Condition.isRange_singleton {key : String} {value : Json} (hfrom : key ≠ "from")
    (hto : key ≠ "to") : isRange [(key, value)] = false := by
  simp [isRange, Keyed.contains, Keyed.get?, hfrom, hto]

/-! ## Filters on the identity of a related record -/

namespace FilterContext

variable {c : FilterContext} {schema target : FieldSchema} {combinator : Combinator}
  {filter : FilterMap} {e : FilterEntry} {n : FilterNode} {nodes : List FilterNode}
  {relation identity : String} {rel : Relation} {type : ScalarType} {value : Json} {root : Path}
  {compiled part : Compiled}

theorem compileLevel_singleton_eq_ok {fuel : Nat} :
    c.compileLevel (fuel + 1) schema root [n] = .ok compiled ↔
      ∃ part, c.compileNode (c.compileLevel fuel) schema root n = .ok part ∧
        compiled = part.negated n.negation := by
  have hcombine : ∀ part : Compiled,
      Compiled.combine [ofPart (n, part)] = part.negated n.negation := by
    intro part
    simp [Compiled.combine, Compiled.combinedPredicate, ofPart, Compiled.negated]
  rw [compileLevel_eq_ok]
  constructor
  · rintro ⟨parts, hfst, hparts, rfl⟩
    obtain ⟨⟨_, part⟩, rfl, rfl⟩ := List.map_eq_singleton_iff.1 hfst
    exact ⟨part, hparts _ List.mem_cons_self, hcombine part⟩
  · rintro ⟨part, hpart, rfl⟩
    exact ⟨[(n, part)], rfl, List.forall_mem_singleton.2 hpart, (hcombine part).symm⟩

/-- A filter on the records that a relation leads to is compiled below the join that leads there. -/
theorem compileNode_eq_of_joined
    {nested : FieldSchema → Path → List FilterNode → Except FilterError Compiled}
    (hkind : schema.get? n.field = some (.relation rel))
    (hdeclared : n.type = .ofFieldKind (.relation rel)) (hjoined : n.condition = .joined filter) :
    c.compileNode nested schema root n = (do
      let nodes ← c.children (c.target rel) n.combinator filter
      let inner ← nested (c.target rel) (root.child n.field) nodes
      .ok ⟨inner.predicate, c.joinOf rel (root.child n.field) rel.fetch :: inner.joins⟩) := by
  have hsupported : n.isSupported = true := by
    rw [FilterNode.isSupported, hjoined]
  unfold compileNode
  dsimp only
  rw [if_pos hsupported, hdeclared, hkind, hjoined]
  rfl

theorem compileNode_joined
    {nested : FieldSchema → Path → List FilterNode → Except FilterError Compiled}
    (hkind : schema.get? n.field = some (.relation rel))
    (hdeclared : n.type = .ofFieldKind (.relation rel)) (hjoined : n.condition = .joined filter) :
    c.compileNode nested schema root n = .ok part ↔
      ∃ nodes inner, c.children (c.target rel) n.combinator filter = .ok nodes ∧
        nested (c.target rel) (root.child n.field) nodes = .ok inner ∧
        part = ⟨inner.predicate, c.joinOf rel (root.child n.field) rel.fetch :: inner.joins⟩ := by
  rw [compileNode_eq_of_joined hkind hdeclared hjoined]
  simp only [bind_eq_ok, Except.ok.injEq, eq_comm (b := part)]
  constructor
  · rintro ⟨nodes, hnodes, inner, hinner, h⟩
    exact ⟨nodes, inner, hnodes, hinner, h⟩
  · rintro ⟨nodes, inner, hnodes, hinner, h⟩
    exact ⟨nodes, hnodes, inner, hinner, h⟩

theorem children_singleton_eq_ok {kind : FieldKind}
    (hentries : FilterEntry.ofMap c.pageKey filter = [e])
    (hkind : target.get? e.field = some kind) :
    c.children target combinator filter = .ok nodes ↔
      ∃ condition, Condition.ofValue (.ofFieldKind kind) e.field e.value = .ok condition ∧
        nodes = [⟨e.field, .ofFieldKind kind, condition, combinator, e.negation⟩] := by
  have hdeclared : e.isDeclaredIn target = true := by
    rw [FilterEntry.isDeclaredIn, hkind]
    rfl
  constructor
  · intro h
    obtain ⟨reading, hreading, hperm⟩ := children_ok h
    have hall := FilterReading.nodes_ofMap hreading
    rw [hentries, List.filter_cons_of_pos hdeclared, List.filter_nil] at hall
    generalize reading.nodes = known at hall hperm
    cases hall with
    | cons hn hnil =>
      cases hnil
      obtain ⟨condition, hcondition, rfl⟩ := (ofEntry_eq_node hkind).1 hn
      exact ⟨condition, hcondition, List.perm_singleton.1 hperm⟩
  · rintro ⟨condition, hcondition, rfl⟩
    have hn : Reading.ofEntry target combinator e = .ok (.node
        ⟨e.field, .ofFieldKind kind, condition, combinator, e.negation⟩) :=
      (ofEntry_eq_node hkind).2 ⟨condition, hcondition, rfl⟩
    refine bind_eq_ok.2 ⟨⟨[_], []⟩, bind_eq_ok.2 ⟨[.node _], ?_, rfl⟩, rfl⟩
    rw [hentries, List.mapM_cons, hn]
    rfl

/-- Whether a field of a schema is a relation to one record, and which scalar field of the target
identifies that record. -/
structure LeadsToOne (c : FilterContext) (schema : FieldSchema) (relation : String)
    (rel : Relation) (target : FieldSchema) (identity : String) (type : ScalarType) : Prop where
  named : c.NamesField schema relation (.relation rel)
  one : rel.cardinality = .one
  leads : c.target rel = target
  /-- The relation records the identity of its target. -/
  recorded : rel.identity = some (identity, type)
  identified : c.NamesField target identity (.scalar type)
  notBound : identity ≠ "from" ∧ identity ≠ "to"

/-- How a value compiles as a condition on the column of a type that a path leads to. -/
def ValueCompiles (c : FilterContext) (type : ScalarType) (value : Json) (path : Path)
    (p : Predicate) : Prop :=
  ∃ condition, Condition.ofValue (.scalar type) path.property value = .ok condition ∧
    FilterNode.suits type condition = true ∧ ValueOutcome c type path condition p

variable {p q : Predicate} {path path' : Path} {negation : Negation}

theorem ValueCompiles.relocate (h : c.ValueCompiles type value path p)
    (hflat : Condition.nested? value = none) (path' : Path) :
    ∃ q, c.ValueCompiles type value path' q := by
  obtain ⟨condition, hcondition, hsuits, hp⟩ := h
  obtain ⟨q, hq⟩ := hp.relocate path'
  exact ⟨q, condition, (Condition.ofValue_congr rfl hflat _ _).1 hcondition, hsuits, hq⟩

theorem ValueCompiles.agree {R : Type} [Filterable R] {b b' : Binding R}
    (hp : c.ValueCompiles type value path p) (hq : c.ValueCompiles type value path' q)
    (hflat : Condition.nested? value = none) (htype : type.kind ≠ .other)
    (hread : (Expr.path path).ReadAlike b b' type.kind (.path path')) :
    Predicate.Agree b b' p q := by
  obtain ⟨condition, hcondition, hsuits, hp⟩ := hp
  obtain ⟨condition', hcondition', _, hq⟩ := hq
  cases hcondition'.symm.trans ((Condition.ofValue_congr rfl hflat _ _).1 hcondition)
  exact hp.agree hq hsuits htype hread

theorem ValueCompiles.evaluate_of_null {R : Type} [Filterable R] {b : Binding R}
    (h : c.ValueCompiles type value path p) (hpresent : value.isNull = false)
    (hnull : (Expr.path path).evaluate b = .ok .null) : p.evaluate b = .ok none := by
  obtain ⟨condition, hcondition, _, hp⟩ := h
  refine hp.evaluate_of_null ?_ hnull
  rw [Condition.isNullTest_of_ofValue hcondition, hpresent]

/-- A condition on a relation to one record is one on the column of its key. -/
theorem compileMap_key (h : c.LeadsToOne schema relation rel target identity type)
    (hflat : Condition.nested? value = none)
    (hentries : FilterEntry.ofMap c.pageKey filter = [⟨negation, relation, value⟩]) :
    c.compileMap schema combinator filter = .ok compiled ↔
      ∃ p, c.ValueCompiles type value (Path.root.child (Naming.camelCase relation)) p ∧
        compiled = ⟨negation.apply p, []⟩ := by
  have htype : (FieldKind.relation rel).columnType? = some type := by
    rw [FieldKind.columnType?, h.one, h.recorded]
    rfl
  have hcolumn : schema.HasColumn relation value (.relation rel) type :=
    ⟨h.named.declared, htype, fun _ => hflat⟩
  have hvalueType : (DeclaredType.ofFieldKind (.relation rel)).valueType? =
      (DeclaredType.scalar type).valueType? := FieldKind.valueType?_of_column htype
  rw [compileMap_column hentries hcolumn]
  simp only [columnOutcome_iff hcolumn, ValueCompiles, Path.property_child,
    Condition.ofValue_congr hvalueType hflat (Naming.camelCase relation)
      (Naming.camelCase relation)]

theorem compile_singleton_eq_ok : c.compile schema [n] = .ok compiled ↔
    ∃ part, c.compileNode (c.compileLevel (depth [n])) schema .root n = .ok part ∧
      compiled = ⟨n.negation.apply part.predicate, Compiled.distinctJoins part.joins⟩ := by
  simp only [compile, bind_eq_ok, compileLevel_singleton_eq_ok]
  constructor
  · rintro ⟨_, ⟨part, hpart, rfl⟩, h⟩
    cases h
    exact ⟨part, hpart, rfl⟩
  · rintro ⟨part, hpart, rfl⟩
    exact ⟨_, ⟨part, hpart, rfl⟩, rfl⟩

/-- A filter of one condition on a scalar field of related records compiles to its predicate. -/
theorem compileLevel_column {fuel : Nat} {inner : Compiled}
    (h : c.NamesField target identity (.scalar type)) :
    (∃ nodes, c.children target combinator [(identity, value)] = .ok nodes ∧
      c.compileLevel (fuel + 1) target root nodes = .ok inner) ↔
      ∃ q, c.ValueCompiles type value (root.child (Naming.camelCase identity)) q ∧
        inner = ⟨q, []⟩ := by
  have hentries : FilterEntry.ofMap c.pageKey [(identity, value)] = [⟨.none, identity, value⟩] :=
    FilterEntry.ofMap_singleton h.notPage h.notNegation
  have hchildren : ∀ {nodes}, c.children target combinator [(identity, value)] = .ok nodes ↔
      ∃ condition, Condition.ofValue (.scalar type) (Naming.camelCase identity) value =
        .ok condition ∧
        nodes = [⟨Naming.camelCase identity, .scalar type, condition, combinator, .none⟩] :=
    children_singleton_eq_ok (e := ⟨.none, identity, value⟩) hentries h.declared
  have hnode : ∀ {condition : Condition} {part : Compiled}
      {nested : FieldSchema → Path → List FilterNode → Except FilterError Compiled},
      Condition.ofValue (.scalar type) (Naming.camelCase identity) value = .ok condition →
      (c.compileNode nested target root
        ⟨Naming.camelCase identity, .scalar type, condition, combinator, .none⟩ = .ok part ↔
        ∃ q, FilterNode.suits type condition = true ∧
          ValueOutcome c type (root.child (Naming.camelCase identity)) condition q ∧
          part = ⟨q, []⟩) := fun hcondition =>
    compileNode_column h.declared rfl rfl (Condition.ne_joined_of_ofValue hcondition nofun)
  simp only [hchildren, ValueCompiles, Path.property_child]
  constructor
  · rintro ⟨_, ⟨condition, hcondition, rfl⟩, hlevel⟩
    obtain ⟨part, hpart, rfl⟩ := compileLevel_singleton_eq_ok.1 hlevel
    obtain ⟨q, hsuits, hq, rfl⟩ := (hnode hcondition).1 hpart
    exact ⟨q, ⟨condition, hcondition, hsuits, hq⟩, rfl⟩
  · rintro ⟨q, ⟨condition, hcondition, hsuits, hq⟩, rfl⟩
    refine ⟨_, ⟨condition, hcondition, rfl⟩, compileLevel_singleton_eq_ok.2 ?_⟩
    exact ⟨⟨q, []⟩, (hnode hcondition).2 ⟨q, hsuits, hq, rfl⟩, rfl⟩

/-- A condition inside a filter on a relation is one on a column of the related record. -/
theorem compileMap_related (h : c.LeadsToOne schema relation rel target identity type)
    (hentries : FilterEntry.ofMap c.pageKey filter =
      [⟨negation, relation, .obj [(identity, value)]⟩]) :
    c.compileMap schema combinator filter = .ok compiled ↔
      ∃ q, c.ValueCompiles type value
          ((Path.root.child (Naming.camelCase relation)).child (Naming.camelCase identity)) q ∧
        compiled = ⟨negation.apply q,
          [c.joinOf rel (Path.root.child (Naming.camelCase relation)) rel.fetch]⟩ := by
  have hrange : Condition.isRange [(identity, value)] = false :=
    Condition.isRange_singleton h.notBound.1 h.notBound.2
  let n : FilterNode := ⟨Naming.camelCase relation, .ofFieldKind (.relation rel),
    .joined [(identity, value)], combinator, negation⟩
  have hkind : schema.get? n.field = some (.relation rel) := h.named.declared
  have hnodes : FilterNode.ofMap schema c.pageKey combinator filter = .ok [n] := by
    let e : FilterEntry := ⟨negation, relation, .obj [(identity, value)]⟩
    have hentry : schema.get? e.field = some (.relation rel) := h.named.declared
    have hdeclared : e.isDeclaredIn schema = true := by
      rw [FilterEntry.isDeclaredIn, hentry]
      rfl
    refine (ofMap_eq_ok hentries (List.forall_mem_singleton.2 hdeclared)).2 (.cons ?_ .nil)
    exact (ofEntry_eq_node hentry).2 ⟨_, Condition.ofValue_joined rfl hrange _, rfl⟩
  have hdepth : depth [n] = Json.depthOfFields [(identity, value)] + 1 := Nat.max_zero _
  rw [compileMap, hnodes]
  change c.compile schema [n] = .ok compiled ↔ _
  rw [compile_singleton_eq_ok, hdepth]
  simp only [compileNode_joined hkind rfl rfl, h.leads]
  constructor
  · rintro ⟨_, ⟨nodes, inner, hnodes, hinner, rfl⟩, rfl⟩
    obtain ⟨q, hq, rfl⟩ := (compileLevel_column h.identified).1 ⟨nodes, hnodes, hinner⟩
    exact ⟨q, hq, rfl⟩
  · rintro ⟨q, hq, rfl⟩
    obtain ⟨nodes, hnodes, hinner⟩ := (compileLevel_column h.identified).2 ⟨q, hq, rfl⟩
    exact ⟨_, ⟨nodes, _, hnodes, hinner, rfl⟩, rfl⟩

end FilterContext

end RowFilter
