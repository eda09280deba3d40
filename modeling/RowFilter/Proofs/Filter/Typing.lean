import RowFilter.Proofs.Filter.Scope
import RowFilter.Proofs.Query.Comparable
import RowFilter.Proofs.Service.Outcome
import RowFilter.Proofs.Store.Conformance

/-!
# Compiled filters are well typed

A filter whose values were cast by the built-in casters compares values of one kind only. On a store
that conforms to the catalog neither following its joins nor evaluating its predicate fails, so its
rows can be fetched and counted.
-/

namespace RowFilter

/-! ## Conditions on a column -/

theorem Predicate.Evaluates.negation {R : Type} [Filterable R] {b : Binding R} {p : Predicate}
    (negation : Negation) (h : p.Evaluates b) : (negation.apply p).Evaluates b := by
  cases negation with
  | none => exact h
  | not => exact h.not

theorem ScalarType.isOrdered_comparedKind {type : ScalarType}
    (h : type.kind.isOrdered = true) : type.comparedKind.isOrdered = true := by
  unfold comparedKind
  split
  · rfl
  · exact h

theorem ScalarKind.ne_other_of_isOrdered {kind : ScalarKind} (h : kind.isOrdered = true) :
    kind ≠ .other := by
  rintro rfl
  cases h

namespace FilterContext

variable {c : FilterContext} {type : ScalarType} {path : Path} {p : Predicate}

/-- A value is cast to a literal of the kind that a column of the type is compared by. -/
theorem fits_of_literal {value : Json} {l : Literal} (hcasters : c.casters = .builtIn)
    (htype : type.kind.isOrdered = true) (h : c.literal type value = .ok l) :
    l.Fits type.comparedKind := by
  obtain ⟨found, hfound, h⟩ := bind_eq_ok.1 h
  cases h
  rw [hcasters] at hfound
  have hfits := Casters.fits_of_castValue (ScalarKind.ne_other_of_isOrdered htype)
    (mapError_eq_ok.1 hfound)
  unfold ScalarType.comparedKind
  split
  · next htext => exact hfits.upper htext
  · exact hfits

theorem fits_of_candidates {values : List Json} {ls : List Literal}
    (hcasters : c.casters = .builtIn) (htype : type.kind.isOrdered = true)
    (h : c.candidates type values = .ok ls) : ∀ l ∈ ls, l.Fits type.comparedKind := by
  obtain ⟨found, hfound, h⟩ := bind_eq_ok.1 h
  cases h
  rw [hcasters] at hfound
  have hfits := Casters.fits_of_castList (ScalarKind.ne_other_of_isOrdered htype)
    (mapError_eq_ok.1 hfound)
  unfold ScalarType.comparedKind
  split
  · next htext => exact List.forall_mem_map.2 fun l hl => (hfits l hl).upper htext
  · exact hfits

variable {R : Type} [Filterable R] {b : Binding R} {value : Literal}

theorem evaluate_column (hvalue : (Expr.path path).evaluate b = .ok value)
    (hfits : value.Fits type.kind) :
    ∃ l, (column type path).evaluate b = .ok l ∧ l.Fits type.comparedKind := by
  unfold column ScalarType.comparedKind
  split
  · next htext =>
    refine ⟨value.upper, ?_, hfits.upper htext⟩
    rw [Expr.evaluate_upper, hvalue]
    rcases hfits with rfl | hkind
    · rfl
    · cases type <;> cases htext <;> cases value <;> cases hkind <;> rfl
  · exact ⟨value, hvalue, hfits⟩

theorem evaluate_timeOfDay (hvalue : (Expr.path path).evaluate b = .ok value)
    (hfits : value.Fits type.kind) (htype : type.hasTimeOfDay = true) :
    ∃ l, (Expr.timeOfDay (.path path)).evaluate b = .ok l ∧ l.Fits .time := by
  rw [Expr.evaluate_timeOfDay, hvalue]
  rcases hfits with rfl | hkind
  · exact ⟨.null, rfl, Literal.fits_null⟩
  · obtain ⟨t, ht⟩ := Literal.exists_timeOfDay hkind htype
    refine ⟨.time t, ?_, .inr rfl⟩
    simp [bind, Except.bind, ht]

/-- A condition that suits the type of a column can be evaluated where the column is absent or has a
value of its kind. -/
theorem ValueOutcome.evaluates {condition : Condition} (h : ValueOutcome c type path condition p)
    (hsuits : FilterNode.suits type condition = true) (hcasters : c.casters = .builtIn)
    (htype : type.kind.isOrdered = true) (hvalue : (Expr.path path).evaluate b = .ok value)
    (hfits : value.Fits type.kind) : p.Evaluates b := by
  obtain ⟨l, hl, hlfits⟩ := evaluate_column hvalue hfits
  have hordered := ScalarType.isOrdered_comparedKind htype
  cases h with
  | absent => exact ⟨_, by rw [Predicate.evaluate, hvalue]; rfl⟩
  | equals _ hliteral =>
    exact Predicate.evaluates_compare (by decide) hordered hl hlfits rfl
      (fits_of_literal hcasters htype hliteral)
  | like pattern =>
    have htext : type.isText = true := (Bool.and_eq_true_iff.1 hsuits).1
    rw [ScalarType.comparedKind, if_pos htext] at hlfits
    rcases hlfits with rfl | hkind
    · exact ⟨none, by rw [Predicate.evaluate, hl]; rfl⟩
    · obtain ⟨s, hs⟩ := Literal.exists_characters hkind
      refine ⟨some (Like.isMatch s (Text.upper pattern)), ?_⟩
      simp [Predicate.evaluate, bind, Except.bind, hl, hs]
  | isIn hcandidates =>
    exact Predicate.evaluates_isIn hordered hl hlfits
      (fits_of_candidates hcasters htype hcandidates)
  | @range bounds flags ends hends =>
    refine Predicate.foldl_and_induct (fun _ _ => .and) ?_ fun q hq => ?_
    · have hendsFit : ∀ l, ends.low? = some l ∨ ends.high? = some l →
          l.Fits type.comparedKind := fun l hl =>
        (Bounds.exists_of_convert hends hl).elim fun _ => fits_of_literal hcasters htype
      cases ends with
      | between low high =>
        exact Predicate.evaluates_between hordered hl hlfits rfl (hendsFit low (.inl rfl)) rfl
          (hendsFit high (.inr rfl))
      | atLeast low =>
        exact Predicate.evaluates_compare (by decide) hordered hl hlfits rfl
          (hendsFit low (.inl rfl))
      | atMost high =>
        exact Predicate.evaluates_compare (by decide) hordered hl hlfits rfl
          (hendsFit high (.inr rfl))
    · split at hq
      · next hflag =>
        have htime : type.hasTimeOfDay = true := by
          have hflags := (Bool.and_eq_true_iff.1 hsuits).2
          rwa [Condition.flags, hflag] at hflags
        obtain ⟨operator, t, hoperator, rfl⟩ := exists_of_mem_timePredicates hq
        obtain ⟨l, hl, hlfits⟩ := evaluate_timeOfDay hvalue hfits htime
        have hcompared : operator ≠ .isIn := by
          rintro rfl
          rcases hoperator with h | h <;> cases h
        exact Predicate.evaluates_compare hcompared rfl hl hlfits rfl (.inr rfl)
      · cases hq

end FilterContext

/-! ## Choices of conforming records -/

namespace FilterContext

/-- Whether the records of a choice conform to the schemas that their paths lead to from the records
of `start`. -/
structure Types (c : FilterContext) (store : MemoryStore) (start : FieldSchema) (b : Binding Row) :
    Prop where
  root : ∀ row, b.get? .root = some row →
    row.store = store ∧ row.record.Conforms c.catalog store start
  child : ∀ p s name r row, c.Leads start p s → s.get? name = some (.relation r) →
    b.get? (p.child name) = some row → row.IsTarget c.catalog store r

variable {c : FilterContext} {store : MemoryStore} {start schema : FieldSchema} {b b' : Binding Row}
  {root p : Path} {row : Row} {record : Record} {join : Join}

theorem Types.conforms (h : c.Types store start b) (hp : c.Leads start p schema)
    (hrow : b.get? p = some row) :
    row.store = store ∧ row.record.Conforms c.catalog store schema := by
  cases hp with
  | root => exact h.root row hrow
  | step hp hr =>
    have htarget := h.child _ _ _ _ row hp hr hrow
    exact ⟨htarget.store_eq, htarget.conforms⟩

theorem types_root (h : record.Conforms c.catalog store start) :
    c.Types store start (.root ⟨store, record⟩) := by
  constructor
  · intro row hrow
    rw [Binding.get?_root, if_pos rfl] at hrow
    cases hrow
    exact ⟨rfl, h⟩
  · intro p s name r row _ _ hrow
    rw [Binding.get?_root, if_neg (Path.child_ne_root p name)] at hrow
    cases hrow

/-- A choice still conforms with one more record, if the record is one of the targets of the
relations that its path can follow. -/
theorem Types.extend (h : c.Types store start b) {name : String}
    (hrow : ∀ s r, c.Leads start p s → s.get? name = some (.relation r) →
      row.IsTarget c.catalog store r) :
    c.Types store start (b.extend (p.child name) row) := by
  constructor
  · intro row' hrow'
    rw [Binding.get?_extend_of_ne (Path.child_ne_root p name).symm] at hrow'
    exact h.root row' hrow'
  · intro p' s name' r row' hp hr hrow'
    by_cases hsame : p'.child name' = p.child name
    · obtain ⟨rfl, rfl⟩ := Path.child_inj.1 hsame
      cases hbound : b.get? (p'.child name') with
      | some bound =>
        rw [Binding.get?_extend_of_some hbound] at hrow'
        exact h.child p' s name' r row' hp hr (hbound.trans hrow')
      | none =>
        rw [Binding.get?_extend_self hbound] at hrow'
        cases hrow'
        exact hrow s r hp hr
    · rw [Binding.get?_extend_of_ne hsame] at hrow'
      exact h.child p' s name' r row' hp hr hrow'

/-- Following a relation of the schemas in a conforming store succeeds, and the records that it adds
to a choice conform. -/
theorem Types.follow (h : c.Types store start b) (hstore : store.Conforms c.catalog)
    (hjoin : c.FollowsRelation start join)
    (howner : ∃ owner, b.get? join.path.parent = some owner) :
    (∀ e, b.follow join ≠ .error e) ∧
      ∀ next, b.follow join = .ok next → ∀ b' ∈ next, c.Types store start b' := by
  obtain ⟨p, s, name, r, hpath, hp, hr, _⟩ := hjoin
  obtain ⟨⟨_, record⟩, howner⟩ := howner
  rw [hpath, Path.parent_child] at howner
  obtain ⟨rfl, hconforms⟩ := h.conforms hp howner
  constructor
  · intro e he
    obtain ⟨rows, hrows, _⟩ := hconforms.exists_related hstore hr
    rw [Binding.follow, hpath, Path.parent_child, howner] at he
    dsimp only [Filterable.related?] at he
    rw [Path.property_child, hrows] at he
    cases he
  · intro next hnext b' hb'
    obtain ⟨owner, rows, howner', hrows, rfl⟩ := Binding.follow_ok hnext
    obtain ⟨row, hrow, rfl⟩ := List.mem_map.1 hb'
    rw [hpath, Path.parent_child, howner] at howner'
    cases howner'
    rw [hpath, Path.property_child] at hrows
    rw [hpath]
    refine h.extend fun s' r' hp' hr' => ?_
    obtain ⟨rows', hrows', htargets⟩ := (h.conforms hp' howner).2.exists_related hstore hr'
    cases hrows.symm.trans hrows'
    exact htargets row hrow

end FilterContext

/-! ## Compiled filters -/

namespace FilterContext

/-- The types whose values a filter map on the records of a schema compares: those of the scalar
fields that it names, and those of the identities of the relations that it names without stating a
filter on the related records. -/
inductive Names (c : FilterContext) : FieldSchema → FilterMap → ScalarType → Prop where
  | scalar {schema : FieldSchema} {filter : FilterMap} {e : FilterEntry} {type : ScalarType}
      (he : e ∈ FilterEntry.ofMap c.pageKey filter)
      (hkind : schema.get? e.field = some (.scalar type)) : Names c schema filter type
  | identity {schema : FieldSchema} {filter : FilterMap} {e : FilterEntry} {r : Relation}
      {field : String} {type : ScalarType} (he : e ∈ FilterEntry.ofMap c.pageKey filter)
      (hkind : schema.get? e.field = some (.relation r))
      (hvalue : Condition.nested? e.value = none) (hidentity : r.identity = some (field, type)) :
      Names c schema filter type
  | nested {schema : FieldSchema} {filter inner : FilterMap} {e : FilterEntry} {r : Relation}
      {type : ScalarType} (he : e ∈ FilterEntry.ofMap c.pageKey filter)
      (hkind : schema.get? e.field = some (.relation r))
      (hvalue : Condition.nested? e.value = some inner) (h : Names c (c.target r) inner type) :
      Names c schema filter type

/-- Whether the predicate of a filter map on the records at a path has a truth value under every
choice of conforming records. -/
def WellTyped (c : FilterContext) (store : MemoryStore) : LevelProperty :=
  fun schema root _ filter compiled => ∀ start, c.Leads start root schema →
    (∀ type, c.Names schema filter type → type.kind.isOrdered = true) →
    ∀ b : Binding Row, c.Types store start b →
      (∀ p, p = root ∨ p ∈ compiled.joins.map Join.path → ∃ row, b.get? p = some row) →
      compiled.predicate.Evaluates b

variable {c : FilterContext} {store : MemoryStore} {start schema : FieldSchema} {b : Binding Row}
  {root p : Path} {n : FilterNode} {part : Compiled} {row : Row} {filter : FilterMap}

theorem evaluate_child (hrow : b.get? p = some row) (name : String) :
    (Expr.path (p.child name)).evaluate b = .ok (row.valueOrNull name) := by
  rw [Expr.evaluate_path, Path.parent_child, hrow, Path.property_child]
  rfl

/-- A condition on the key of a relation names the type of the target's identity. -/
theorem names_of_value {e : FilterEntry} {r : Relation} {field : String} {type : ScalarType}
    {condition : Condition} {p : Predicate} (he : e ∈ FilterEntry.ofMap c.pageKey filter)
    (hkind : schema.get? e.field = some (.relation r)) (hidentity : r.identity = some (field, type))
    (hcondition : Condition.ofValue (.ofFieldKind (.relation r)) e.field e.value = .ok condition)
    (hvalue : ValueOutcome c type root condition p) : c.Names schema filter type := by
  refine .identity he hkind ?_ hidentity
  rw [hvalue.nested?_eq_none hcondition]

/-- Each way to compile an entry of a filter map gives a predicate that has a truth value. -/
theorem NodeOutcome.wellTyped (hcasters : c.casters = .builtIn)
    (h : NodeOutcome c (c.WellTyped store) schema root n part) (hstart : c.Leads start root schema)
    (hnames : ∀ type, c.Names schema filter type → type.kind.isOrdered = true)
    {e : FilterEntry} {combinator : Combinator} (he : e ∈ FilterEntry.ofMap c.pageKey filter)
    (hread : Reading.ofEntry schema combinator e = .ok (.node n))
    (hb : c.Types store start b)
    (hjoins : ∀ p, p = root ∨ p ∈ part.joins.map Join.path → ∃ row, b.get? p = some row) :
    part.predicate.Evaluates b := by
  obtain ⟨kind, condition, hkind, hcondition, rfl⟩ := Reading.ofEntry_node hread
  obtain ⟨row, hrow⟩ := hjoins root (.inl rfl)
  obtain ⟨_, hconforms⟩ := hb.conforms hstart hrow
  cases h with
  | @column type p hkind' hsuits hp =>
    refine (compileValue_ok hp).evaluates hsuits hcasters (hnames type (.scalar he hkind'))
      (evaluate_child hrow _) ?_
    exact Row.fits_valueOrNull fun l hl => hconforms.scalar _ type hkind' l hl
  | absent _ _ => exact ⟨_, by rw [Predicate.evaluate, evaluate_child hrow]; rfl⟩
  | @key r field type p hkind' _ hidentity _ hsuits hp =>
    cases hkind.symm.trans hkind'
    have hvalue := compileValue_ok hp
    refine hvalue.evaluates hsuits hcasters
      (hnames type (names_of_value he hkind hidentity hcondition hvalue)) (evaluate_child hrow _) ?_
    exact Row.fits_valueOrNull fun l hl => hconforms.fits_key hkind' hidentity hl
  | @member r field type p hkind' _ hidentity _ hsuits hp =>
    cases hkind.symm.trans hkind'
    obtain ⟨related, hrelated⟩ := hjoins _ (.inr List.mem_cons_self)
    have htarget := hb.child _ _ _ _ related hstart hkind' hrelated
    have hvalue := compileValue_ok hp
    refine hvalue.evaluates hsuits hcasters
      (hnames type (names_of_value he hkind hidentity hcondition hvalue))
      (evaluate_child hrelated field) ?_
    refine Row.fits_valueOrNull fun l hl => ?_
    obtain ⟨l', hl', hkindOf⟩ := htarget.identity field type hidentity
    cases hl.symm.trans hl'
    exact .inr hkindOf
  | @joined r inner compiled hkind' hjoined hinner =>
    cases hkind.symm.trans hkind'
    have hnested := (Condition.ofValue_relation rfl hcondition inner).1 hjoined
    refine hinner start (.step hstart hkind')
      (fun type htype => hnames type (.nested he hkind hnested htype)) b hb fun p hp => ?_
    refine hjoins p (.inr ?_)
    rcases hp with rfl | hp
    · exact List.mem_cons_self
    · exact List.mem_cons_of_mem _ hp

/-- Every level has a truth value if the filters nested in it have one. -/
theorem isPreserved_wellTyped (hcasters : c.casters = .builtIn) :
    c.IsPreserved (c.WellTyped store) := by
  intro schema root combinator filter reading parts hreading hperm hparts start hstart hnames b hb
    hjoins
  refine combinedPredicate_induct Predicate.evaluates_true (fun _ _ => .and) (fun _ _ => .or) ?_
  intro piece' hpiece'
  obtain ⟨piece, hpiece, rfl⟩ := List.mem_map.1 hpiece'
  obtain ⟨part, hpart, rfl⟩ := List.mem_map.1 hpiece
  obtain ⟨e, he, hread⟩ :=
    FilterReading.entry_of_mem hreading (hperm.mem_iff.1 (List.mem_map_of_mem hpart))
  refine .negation _ ?_
  refine (hparts part hpart).wellTyped hcasters hstart hnames he hread hb fun p hp => ?_
  refine hjoins p (hp.imp_right fun hp => ?_)
  obtain ⟨join, hjoin, rfl⟩ := List.mem_map.1 hp
  exact List.mem_map_of_mem (List.mem_flatMap.2 ⟨_, hpiece, hjoin⟩)

/-- In a conforming store the joins of what is compiled can be followed, and they lead to conforming
records. -/
theorem Scoped.expand {compiled : Compiled} {record : Record}
    (h : c.Scoped schema .root compiled) (hstore : store.Conforms c.catalog)
    (hrecord : record.Conforms c.catalog store schema) :
    ∃ bindings, Binding.expand (Row.mk store record) compiled.joins = .ok bindings ∧
      ∀ b ∈ bindings, b.Covers compiled.joins ∧ c.Types store schema b ∧
        b.get? .root = some ⟨store, record⟩ := by
  have hexpand : (∀ e, Binding.expand (Row.mk store record) compiled.joins = .error e → False) ∧
      ∀ bindings, Binding.expand (Row.mk store record) compiled.joins = .ok bindings →
        ∀ b ∈ bindings, b.Covers compiled.joins ∧ c.Types store schema b ∧
          b.get? .root = some ⟨store, record⟩ := by
    refine Binding.expand_induct
      (motive := fun before b => b.Covers before ∧ c.Types store schema b ∧
        b.get? .root = some (Row.mk store record))
      ⟨Binding.covers_root, types_root hrecord, Binding.get?_root.trans (if_pos rfl)⟩ ?_
    rintro before join after b hjoins ⟨hcovers, htypes, hroot⟩
    have hjoin : join ∈ compiled.joins := hjoins ▸ List.mem_append_right _ List.mem_cons_self
    have howners := h.ownersFirst
    rw [hjoins] at howners
    obtain ⟨hfollow, hnext⟩ := htypes.follow hstore (h.relations schema .root join hjoin)
      (hcovers _ (howners.parent.imp_left List.mem_singleton.1))
    refine ⟨hfollow, fun next hnext' b' hb' => ⟨hcovers.follow hnext' hb', hnext next hnext' b' hb',
      ?_⟩⟩
    obtain ⟨_, records, _, _, rfl⟩ := Binding.follow_ok hnext'
    obtain ⟨related, _, rfl⟩ := List.mem_map.1 hb'
    exact Binding.get?_extend_of_some hroot
  cases hbindings : Binding.expand (Row.mk store record) compiled.joins with
  | error e => exact (hexpand.1 e hbindings).elim
  | ok bindings => exact ⟨bindings, rfl, hexpand.2 bindings hbindings⟩

theorem evaluates_of_compile {combinator : Combinator} {nodes : List FilterNode}
    {compiled : Compiled} (hcasters : c.casters = .builtIn)
    (hnodes : FilterNode.ofMap schema c.pageKey combinator filter = .ok nodes)
    (hcompile : c.compile schema nodes = .ok compiled)
    (hnames : ∀ type, c.Names schema filter type → type.kind.isOrdered = true)
    (hcovers : b.Covers compiled.joins) (hb : c.Types store schema b) :
    compiled.predicate.Evaluates b := by
  have hpreserved : c.IsPreserved (c.WellTyped store) := isPreserved_wellTyped hcasters
  obtain ⟨inner, hinner, rfl⟩ := compile_induct hpreserved hnodes hcompile
  exact hinner schema .root hnames b hb fun p hp =>
    hcovers p (hp.imp_right Compiled.mem_paths_distinctJoins.2)

end FilterContext

/-! ## Fetching and counting -/

/-- Rows on which a predicate can be decided can be selected. -/
theorem MemoryStore.exists_passing {selection : Selection} {rows : List Row}
    (h : ∀ row ∈ rows, ∃ result, selection.predicate.passes row selection.joins = .ok result) :
    ∃ passing, MemoryStore.passing selection rows = .ok passing := by
  induction rows with
  | nil => exact ⟨_, rfl⟩
  | cons row rest ih =>
    obtain ⟨⟨result, hresult⟩, hrest⟩ := List.forall_mem_cons.1 h
    obtain ⟨others, hothers⟩ := ih hrest
    exact ⟨_, by rw [MemoryStore.passing, hresult, hothers]; rfl⟩

namespace FilterService

variable {s : FilterService} {schema : FieldSchema} {entity : String} {filter : FilterMap}
  {selection : Selection}

theorem evaluates_addCriteria {R : Type} [Filterable R] {b : Binding R} {p : Predicate}
    {extra : Option Predicate} (hp : p.Evaluates b)
    (hextra : ∀ q, extra = some q → q.Evaluates b) : (addCriteria p extra).Evaluates b := by
  cases extra with
  | none => exact hp
  | some q =>
    rw [addCriteria]
    split
    · exact hextra q rfl
    · exact hp.and (hextra q rfl)

/-- **Well-typed filters do not fail**: on a store that conforms to the catalog, what a filter map
selects can be fetched and counted, if the service casts by the built-in casters, the filter names
no type whose values may have no order, and extra criteria, if there are any, have a truth value on
the rows of the entity. -/
theorem fetch_and_count_of_conforms {store : MemoryStore} (hcasters : s.casters = .builtIn)
    (hschema : s.catalog.resolve entity = some schema)
    (hselection : s.selection entity filter = .ok selection)
    (hnames : ∀ type, s.context.Names schema (s.config.conditions filter) type →
      type.kind.isOrdered = true)
    (hstore : store.Conforms s.catalog)
    (hextra : ∀ p, s.extra schema = some p → ∀ (b : Binding Row) (record : Record),
      record ∈ store.records schema.collection → b.get? .root = some ⟨store, record⟩ →
      p.Evaluates b) :
    (∃ records, store.fetch schema.collection selection = .ok records) ∧
      ∃ n, store.count schema.collection selection = .ok n := by
  obtain ⟨criteria, hcriteria, hpredicate, hjoins⟩ := selection_ok hschema hselection
  obtain ⟨nodes, compiled, hnodes, hcompile, hpredicate', hjoins'⟩ := criteria_ok hcriteria
  have hscoped : s.context.Scoped schema .root compiled :=
    (FilterContext.scoped_of_compile hnodes hcompile).1
  obtain ⟨rows, hrows⟩ : ∃ rows, store.matching schema.collection selection = .ok rows := by
    refine MemoryStore.exists_passing fun row hrow => ?_
    obtain ⟨record, hrecord, rfl⟩ := List.mem_map.1 hrow
    have hconforms := hstore entity schema hschema record hrecord
    obtain ⟨bindings, hbindings, hall⟩ := hscoped.expand hstore hconforms
    rw [hpredicate, hpredicate', hjoins, hjoins', Predicate.passes, hbindings]
    refine (Predicate.exists_isTrueUnderSome fun b hb => ?_).imp fun _ h => h.1
    obtain ⟨hcovers, htypes, hroot⟩ := hall b hb
    refine evaluates_addCriteria ?_ fun p hp => hextra p hp b record hrecord hroot
    exact FilterContext.evaluates_of_compile hcasters hnodes hcompile hnames hcovers htypes
  exact ⟨⟨_, by rw [MemoryStore.fetch, hrows]; rfl⟩, ⟨_, by rw [MemoryStore.count, hrows]; rfl⟩⟩

end FilterService

/-- What a person has. -/
def FieldSchema.person : FieldSchema :=
  ⟨"person", "person", some "id", [("id", .scalar .i64), ("age", .scalar .i64),
    ("friends", .relation ⟨"person", .collection, .eager, "id", "person_id", some ("id", .i64)⟩)]⟩

theorem Catalog.resolve_people : Catalog.people.resolve "person" = some .person := rfl

theorem FieldSchema.get?_person {name : String} {kind : FieldKind}
    (h : FieldSchema.person.get? name = some kind) :
    (name = "id" ∨ name = "age") ∧ kind = .scalar .i64 ∨ name = "friends" ∧ kind =
      .relation ⟨"person", .collection, .eager, "id", "person_id", some ("id", .i64)⟩ := by
  have hfields := Keyed.mem_of_get? h
  simp only [person, List.mem_cons, Prod.mk.injEq, List.not_mem_nil, or_false] at hfields
  rcases hfields with h | h | h
  · exact .inl ⟨.inl h.1, h.2⟩
  · exact .inl ⟨.inr h.1, h.2⟩
  · exact .inr h

/-- Two people who are friends of each other. -/
def MemoryStore.friends : MemoryStore :=
  ⟨[("person", [
    ⟨.i64 1, [("id", .i64 1), ("age", .i64 40)], [("friends", .many "person" [.i64 2])]⟩,
    ⟨.i64 2, [("id", .i64 2), ("age", .null)], [("friends", .many "person" [.i64 1])]⟩])]⟩

theorem MemoryStore.friends_conforms : MemoryStore.friends.Conforms .people := by
  intro entity schema hschema record hrecord
  have hkeys : Catalog.people.entities.keys = ["person"] := rfl
  have hentity := Catalog.mem_of_resolve hschema
  rw [hkeys, List.mem_singleton] at hentity
  subst hentity
  cases hschema.symm.trans Catalog.resolve_people
  have hrecords : record = ⟨.i64 1, [("id", .i64 1), ("age", .i64 40)],
        [("friends", .many "person" [.i64 2])]⟩ ∨
      record = ⟨.i64 2, [("id", .i64 2), ("age", .null)],
        [("friends", .many "person" [.i64 1])]⟩ := by
    simpa [records, friends, FieldSchema.person, Keyed.get?] using hrecord
  constructor
  · intro field type hfield l hl
    rcases FieldSchema.get?_person hfield with ⟨hname, hkind⟩ | ⟨_, hkind⟩ <;> cases hkind
    rcases hrecords with rfl | rfl <;> rcases hname with rfl | rfl <;> cases hl
    · exact .inr rfl
    · exact .inr rfl
    · exact .inr rfl
    · exact Literal.fits_null
  · intro name r hr
    rcases FieldSchema.get?_person hr with ⟨_, hkind⟩ | ⟨rfl, _⟩
    · cases hkind
    · rcases hrecords with rfl | rfl <;> rfl
  · intro name r links target hr hlinks htarget
    rcases FieldSchema.get?_person hr with ⟨_, hkind⟩ | ⟨rfl, hkind⟩ <;> cases hkind
    cases htarget
    rcases hrecords with rfl | rfl <;> cases hlinks <;> rfl
  · intro name r links field type hr hlinks hidentity key hkey
    rcases FieldSchema.get?_person hr with ⟨_, hkind⟩ | ⟨rfl, hkind⟩ <;> cases hkind
    cases hidentity
    rcases hrecords with rfl | rfl <;> cases hlinks <;> cases List.mem_singleton.1 hkey
    all_goals
      refine ⟨rfl, fun related hrelated => ?_⟩
      cases hrelated
      exact ⟨_, rfl, rfl⟩

/-- All that filters on people compare are numbers. -/
theorem FilterContext.names_people {c : FilterContext} {filter : FilterMap} {type : ScalarType}
    (hcatalog : c.catalog = .people) (h : c.Names .person filter type) : type = .i64 := by
  generalize hschema : FieldSchema.person = schema at h
  induction h with
  | scalar _ hkind =>
    subst hschema
    rcases FieldSchema.get?_person hkind with ⟨_, hkind⟩ | ⟨_, hkind⟩ <;> cases hkind
    rfl
  | identity _ hkind _ hidentity =>
    subst hschema
    rcases FieldSchema.get?_person hkind with ⟨_, hkind⟩ | ⟨_, hkind⟩ <;> cases hkind
    cases hidentity
    rfl
  | nested _ hkind _ _ ih =>
    subst hschema
    rcases FieldSchema.get?_person hkind with ⟨_, hkind⟩ | ⟨_, hkind⟩ <;> cases hkind
    refine ih ?_
    rw [target, hcatalog]
    rfl

namespace FilterService

/-- People with a friend of at least 30 can be fetched and counted. -/
theorem fetch_and_count_of_conforms_friends :
    let s : FilterService := .ofCatalog .people
    let filter : FilterMap := [("friends", .obj [("age", .obj [("from", .ofNat 30)])])]
    ∃ selection, s.catalog.resolve "person" = some .person ∧
      s.selection "person" filter = .ok selection ∧ selection.joins ≠ [] ∧
      MemoryStore.friends.Conforms s.catalog ∧
      (∃ records, MemoryStore.friends.fetch "person" selection = .ok records) ∧
      ∃ n, MemoryStore.friends.count "person" selection = .ok n := by
  intro s filter
  obtain ⟨selection, hselection, hjoins⟩ : ∃ selection,
      s.selection "person" filter = .ok selection ∧ selection.joins ≠ [] :=
    ⟨_, rfl, List.cons_ne_nil _ _⟩
  refine ⟨selection, rfl, hselection, hjoins, MemoryStore.friends_conforms,
    fetch_and_count_of_conforms rfl Catalog.resolve_people hselection (fun type htype => ?_)
      MemoryStore.friends_conforms nofun⟩
  rw [FilterContext.names_people rfl htype]
  rfl

end FilterService

end RowFilter
