import RowFilter.Proofs.Filter.Column
import RowFilter.Proofs.Filter.Scope

/-!
# Conditions without a meaning

Some conditions have no meaning for the type of their field, such as a pattern for a number or a
range of truth values. A filter map that contains one, in itself or in a map for related records
that it leads to, does not compile; and where compiling fails for an unsupported operation, such a
condition is the cause.
-/

namespace RowFilter

/-! ## Conditions that are reached -/

/-- Whether a filter map on the records at a path reaches an entry: a declared entry of its own, or
one of a map that it gives to a relation. The entry is one of the records of the second schema, at
the second path, and its field is of the kind. -/
inductive FilterContext.Reaches (c : FilterContext) :
    FieldSchema → Path → FilterMap → FieldSchema → Path → FilterEntry → FieldKind → Prop where
  | here {schema : FieldSchema} {path : Path} {filter : FilterMap} {e : FilterEntry}
      {kind : FieldKind} (he : e ∈ FilterEntry.ofMap c.pageKey filter)
      (hkind : schema.get? e.field = some kind) : Reaches c schema path filter schema path e kind
  | nested {schema s : FieldSchema} {path p : Path} {filter fields : FilterMap}
      {owner e : FilterEntry} {r : Relation} {kind : FieldKind}
      (howner : owner ∈ FilterEntry.ofMap c.pageKey filter)
      (hr : schema.get? owner.field = some (.relation r))
      (hfields : Condition.nested? owner.value = some fields)
      (hinner : Reaches c (c.target r) (path.child owner.field) fields s p e kind) :
      Reaches c schema path filter s p e kind

/-- The operator that a value stands for, where it is no filter on related records. -/
def Json.operator : Json → Operator
  | .str s => if Condition.isPattern s then .like else .equals
  | .arr _ => .isIn
  | .obj fields =>
    if Condition.isRange fields then
      match (Keyed.get? fields "from").getD .null, (Keyed.get? fields "to").getD .null with
      | .null, _ => .lessThan
      | _, .null => .greaterThan
      | _, _ => .between
    else .isIn
  | .null | .bool _ | .num _ => .equals

/-- Whether what a value states has no meaning for a type. -/
inductive ScalarType.Refuses : ScalarType → Json → Prop where
  | list (items : List Json) : Refuses .bool (.arr items)
  /-- A range, or a bag of candidates. -/
  | bag (fields : FilterMap) : Refuses .bool (.obj fields)
  | range {e : EnumType} {fields : FilterMap} (hrange : Condition.isRange fields = true) :
      Refuses (.enum e) (.obj fields)
  | pattern {type : ScalarType} {s : String} (hpattern : Condition.isPattern s = true)
      (htype : type ≠ .string ∧ type ≠ .char) : Refuses type (.str s)
  | timeOfDay {type : ScalarType} {fields : FilterMap} {flags : List ControlFlag}
      (hrange : Condition.isRange fields = true)
      (hflags : ControlFlag.ofValue ((Keyed.get? fields "flags").getD .null) = .ok flags)
      (hflag : .timeOfDay ∈ flags)
      (htype : type ∉ [.dateTime, .instant, .offsetDateTime, .time]) : Refuses type (.obj fields)

/-- Whether what a value states has no meaning for a field. A filter on related records has one. -/
inductive FieldKind.Refuses : FieldKind → Json → Prop where
  | scalar {type : ScalarType} {value : Json} (h : type.Refuses value) : Refuses (.scalar type) value
  | identity {r : Relation} {field : String} {type : ScalarType} {value : Json}
      (hflat : Condition.nested? value = none) (hidentity : r.identity = some (field, type))
      (h : type.Refuses value) : Refuses (.relation r) value
  | unidentified {r : Relation} {value : Json} (hflat : Condition.nested? value = none)
      (hidentity : r.identity = none) (hpresent : value.isNull = false) :
      Refuses (.relation r) value

/-- What a field refuses is no filter on related records. -/
theorem FieldKind.Refuses.isFlat {kind : FieldKind} {value : Json} (h : kind.Refuses value) :
    (DeclaredType.ofFieldKind kind).isRelation = true → Condition.nested? value = none := by
  intro hrelation
  cases h with
  | scalar => cases hrelation
  | identity hflat | unidentified hflat => exact hflat

/-- Whether an entry states a range without bounds. -/
def FilterEntry.IsEmptyRange (e : FilterEntry) : Prop :=
  ∃ fields, e.value = .obj fields ∧ Condition.isRange fields = true ∧
    (Keyed.get? fields "from").getD .null = .null ∧ (Keyed.get? fields "to").getD .null = .null

theorem Bounds.ofEnds?_eq_none {low high : Json} (h : ofEnds? low high = none) :
    low = .null ∧ high = .null := by
  unfold ofEnds? at h
  split at h
  case h_4 hlow hhigh => exact ⟨Json.eq_null_of_isNull hlow, Json.eq_null_of_isNull hhigh⟩
  all_goals cases h

/-! ## Operators and types -/

namespace ScalarType

variable {type : ScalarType}

theorem isText_eq_false : type.isText = false ↔ type ≠ .string ∧ type ≠ .char := by
  cases type <;> simp [isText]

theorem hasTimeOfDay_eq_false :
    type.hasTimeOfDay = false ↔ type ∉ [.dateTime, .instant, .offsetDateTime, .time] := by
  cases type <;> simp [hasTimeOfDay]

theorem eq_bool_of_isBool (h : type.isBool = true) : type = .bool := by
  cases type <;> first | rfl | cases h

theorem eq_enum_of_isEnum (h : type.isEnum = true) : ∃ e, type = .enum e := by
  cases type with
  | enum e => exact ⟨e, rfl⟩
  | _ => cases h

end ScalarType

namespace Condition

variable {declared : DeclaredType} {field : String} {value : Json} {condition : Condition}
  {type : ScalarType}

@[simp] theorem suits_upper (condition : Condition) :
    FilterNode.suits type condition.upper = FilterNode.suits type condition := by
  cases condition <;> rfl

@[simp] theorem operator_upper (condition : Condition) :
    condition.upper.operator = condition.operator := by
  cases condition <;> rfl

theorem operator_ofRange {fields : FilterMap} (hrange : isRange fields = true)
    (h : ofRange field fields = .ok condition) :
    condition.operator = (Json.obj fields).operator := by
  obtain ⟨bounds, flags, hbounds, -, rfl⟩ := ofRange_ok h
  unfold Bounds.ofEnds? at hbounds
  simp only [Json.operator, if_pos hrange]
  generalize (Keyed.get? fields "from").getD .null = low at hbounds ⊢
  generalize (Keyed.get? fields "to").getD .null = high at hbounds ⊢
  cases low <;> cases high <;> cases hbounds <;> rfl

/-- A condition has the operator that its value stands for. -/
theorem operator_ofValue (h : ofValue declared field value = .ok condition)
    (hflat : declared.isRelation = true → nested? value = none) :
    condition.operator = value.operator := by
  obtain ⟨written, hwritten, hcondition⟩ := ofValue_ok h
  have hoperator : condition.operator = written.operator := by
    rw [hcondition]
    split <;> simp
  rw [hoperator]
  cases value with
  | str s =>
    cases hwritten
    by_cases hpattern : isPattern s = true <;> simp [hpattern, Json.operator, operator]
  | obj fields =>
    rw [ofWritten_obj hflat] at hwritten
    split at hwritten
    · next hrange => exact operator_ofRange hrange hwritten
    · next hrange =>
      cases hwritten
      simp [Json.operator, hrange, operator]
  | null | bool | num | arr =>
    cases hwritten
    rfl

theorem suits_ofRange {fields : FilterMap} (hrange : isRange fields = true)
    (h : ofRange field fields = .ok condition) :
    FilterNode.suits type condition = false ↔ type.Refuses (.obj fields) := by
  obtain ⟨bounds, flags, -, hflags, rfl⟩ := ofRange_ok h
  simp only [FilterNode.suits, Bool.and_eq_false_iff, Bool.not_eq_false', Bool.or_eq_false_iff,
    Condition.flags]
  constructor
  · rintro ((hbool | henum) | ⟨hflag, htype⟩)
    · rw [ScalarType.eq_bool_of_isBool hbool]
      exact .bag fields
    · obtain ⟨e, rfl⟩ := ScalarType.eq_enum_of_isEnum henum
      exact .range hrange
    · exact .timeOfDay hrange hflags (List.contains_iff_mem.1 hflag)
        (ScalarType.hasTimeOfDay_eq_false.1 htype)
  · intro hrefuses
    cases hrefuses with
    | bag => exact .inl (.inl rfl)
    | range => exact .inl (.inr rfl)
    | timeOfDay _ hflags' hflag htype =>
      cases hflags.symm.trans hflags'
      exact .inr ⟨List.contains_iff_mem.2 hflag, ScalarType.hasTimeOfDay_eq_false.2 htype⟩

/-- A condition suits a type unless the type refuses its value. -/
theorem suits_ofValue (h : ofValue declared field value = .ok condition)
    (hflat : declared.isRelation = true → nested? value = none) :
    FilterNode.suits type condition = false ↔ type.Refuses value := by
  obtain ⟨written, hwritten, hcondition⟩ := ofValue_ok h
  have hsuits : FilterNode.suits type condition = FilterNode.suits type written := by
    rw [hcondition]
    split <;> simp
  rw [hsuits]
  cases value with
  | str s =>
    cases hwritten
    by_cases hpattern : isPattern s = true
    · rw [if_pos hpattern]
      simp only [FilterNode.suits, flags, List.contains_nil, Bool.not_false, Bool.true_or,
        Bool.and_true, ScalarType.isText_eq_false]
      constructor
      · intro htype
        exact .pattern hpattern htype
      · intro hrefuses
        cases hrefuses with
        | pattern _ htype => exact htype
    · rw [if_neg hpattern]
      refine iff_of_false (by simp [FilterNode.suits, flags]) fun hrefuses => ?_
      cases hrefuses with
      | pattern hpattern' => exact hpattern hpattern'
  | arr items =>
    cases hwritten
    simp only [FilterNode.suits, flags, List.contains_nil, Bool.not_false, Bool.true_or,
      Bool.and_true, Bool.not_eq_false']
    constructor
    · intro hbool
      rw [ScalarType.eq_bool_of_isBool hbool]
      exact .list items
    · intro hrefuses
      cases hrefuses
      rfl
  | obj fields =>
    rw [ofWritten_obj hflat] at hwritten
    split at hwritten
    · next hrange => exact suits_ofRange hrange hwritten
    · next hrange =>
      cases hwritten
      simp only [FilterNode.suits, flags, List.contains_nil, Bool.not_false, Bool.true_or,
        Bool.and_true, Bool.not_eq_false']
      constructor
      · intro hbool
        rw [ScalarType.eq_bool_of_isBool hbool]
        exact .bag fields
      · intro hrefuses
        cases hrefuses with
        | bag => rfl
        | range hrange' | timeOfDay hrange' => exact absurd hrange' hrange
  | null | bool | num =>
    cases hwritten
    refine iff_of_false (by simp [FilterNode.suits, flags]) fun hrefuses => ?_
    cases hrefuses

end Condition

/-! ## Nodes -/

section Nodes

variable {c : FilterContext} {schema : FieldSchema} {combinator : Combinator} {filter : FilterMap}
  {root : Path} {e : FilterEntry} {n : FilterNode} {kind : FieldKind} {part : Compiled}

theorem FilterNode.isSupported_of_flat (hflat : ∀ filter, n.condition ≠ .joined filter) :
    n.isSupported = match n.type.valueType? with
      | none => n.condition.isNullTest
      | some type => suits type n.condition := by
  unfold isSupported
  generalize n.condition = condition at hflat
  cases condition with
  | joined filter => exact absurd rfl (hflat filter)
  | equals | like | isIn | range => cases n.type.valueType? <;> rfl

/-- A node is not supported exactly if its field refuses the value of its entry. -/
theorem FilterNode.isSupported_eq_false
    (hread : Reading.ofEntry schema combinator e = .ok (.node n))
    (hkind : schema.get? e.field = some kind) :
    n.isSupported = false ↔ kind.Refuses e.value := by
  obtain ⟨kind', condition, hkind', hcondition, rfl⟩ := Reading.ofEntry_node hread
  cases hkind.symm.trans hkind'
  cases kind with
  | scalar type =>
    have hscalar : (DeclaredType.ofFieldKind (.scalar type)).isRelation = true →
        Condition.nested? e.value = none := nofun
    rw [isSupported_of_flat (Condition.ne_joined_of_ofValue hcondition hscalar)]
    dsimp only [DeclaredType.ofFieldKind, DeclaredType.valueType?]
    rw [Condition.suits_ofValue hcondition hscalar]
    constructor
    · exact .scalar
    · rintro ⟨h⟩
      exact h
  | relation r =>
    cases hnested : Condition.nested? e.value with
    | some fields =>
      rw [(Condition.ofValue_relation rfl hcondition fields).2 hnested]
      refine iff_of_false (by simp [isSupported]) fun hrefuses => ?_
      cases hrefuses with
      | identity hflat | unidentified hflat => cases hnested.symm.trans hflat
    | none =>
      rw [isSupported_of_flat (Condition.ne_joined_of_ofValue hcondition fun _ => hnested)]
      dsimp only [DeclaredType.ofFieldKind, DeclaredType.valueType?]
      cases hidentity : r.identity with
      | none =>
        rw [Option.map_none, Condition.isNullTest_of_ofValue hcondition]
        constructor
        · exact .unidentified hnested hidentity
        · intro hrefuses
          cases hrefuses with
          | identity _ hidentity' => cases hidentity.symm.trans hidentity'
          | unidentified _ _ hpresent => exact hpresent
      | some identity =>
        dsimp only [Option.map_some]
        rw [Condition.suits_ofValue hcondition fun _ => hnested]
        constructor
        · exact .identity hnested hidentity
        · intro hrefuses
          cases hrefuses with
          | identity _ hidentity' h =>
            cases hidentity.symm.trans hidentity'
            exact h
          | unidentified _ hidentity' => cases hidentity.symm.trans hidentity'

/-- A nested filter is compiled for the records that a relation leads to. -/
theorem FilterContext.NodeOutcome.exists_nested {nested : FilterContext.LevelProperty}
    {fields : FilterMap} (h : FilterContext.NodeOutcome c nested schema root n part)
    (hjoined : n.condition = .joined fields) :
    ∃ r inner, schema.get? n.field = some (.relation r) ∧
      nested (c.target r) (root.child n.field) n.combinator fields inner ∧
      part = ⟨inner.predicate, c.joinOf r (root.child n.field) r.fetch :: inner.joins⟩ := by
  cases h with
  | column _ _ hp | key _ _ _ _ _ hp | member _ _ _ _ _ hp =>
    exact absurd hjoined ((FilterContext.compileValue_ok hp).ne_joined fields)
  | absent _ hnull => cases hnull.symm.trans hjoined
  | @joined r _ inner hkind hjoined' hinner =>
    cases hjoined.symm.trans hjoined'
    exact ⟨r, inner, hkind, hinner, rfl⟩

/-- A node that was compiled is supported. -/
theorem FilterContext.NodeOutcome.isSupported {nested : FilterContext.LevelProperty}
    (hkind : schema.get? n.field = some kind) (htype : n.type = .ofFieldKind kind)
    (h : FilterContext.NodeOutcome c nested schema root n part) : n.isSupported = true := by
  cases h with
  | column hkind' hsuits =>
    cases hkind.symm.trans hkind'
    exact FilterContext.isSupported_of_suits (by rw [htype]; rfl) hsuits
  | absent _ hnull =>
    unfold FilterNode.isSupported
    rw [hnull]
    cases n.type.valueType? <;> rfl
  | key hkind' _ hidentity _ hsuits | member hkind' _ hidentity _ hsuits =>
    cases hkind.symm.trans hkind'
    refine FilterContext.isSupported_of_suits ?_ hsuits
    rw [htype, DeclaredType.ofFieldKind, hidentity]
    rfl
  | joined _ hjoined =>
    unfold FilterNode.isSupported
    rw [hjoined]

end Nodes

namespace FilterContext

variable {c : FilterContext} {schema s : FieldSchema} {combinator : Combinator}
  {filter : FilterMap} {root p : Path} {e : FilterEntry} {n : FilterNode} {kind : FieldKind}
  {nodes : List FilterNode} {compiled : Compiled}

/-! ## What compiles -/

/-- A declared entry of a filter map that can be read is one of its nodes. -/
theorem exists_node_of_entry {reading : FilterReading}
    (hreading : FilterReading.ofMap schema c.pageKey combinator filter = .ok reading)
    (he : e ∈ FilterEntry.ofMap c.pageKey filter) (hkind : schema.get? e.field = some kind) :
    ∃ n ∈ reading.nodes, Reading.ofEntry schema combinator e = .ok (.node n) := by
  have hdeclared : e ∈ (FilterEntry.ofMap c.pageKey filter).filter (·.isDeclaredIn schema) := by
    simp [he, FilterEntry.isDeclaredIn, hkind]
  exact exists_of_forall₂ (FilterReading.nodes_ofMap hreading) hdeclared

/-- A level that compiles reaches nothing that its field refuses, if the filters nested in it do
not. -/
theorem isPreserved_accepts : c.IsPreserved fun schema root _ filter _ =>
    ∀ s p e kind, c.Reaches schema root filter s p e kind → ¬ kind.Refuses e.value := by
  intro schema root combinator filter reading parts hreading hperm hparts s p e kind hreaches
  have hpart : ∀ {e kind}, e ∈ FilterEntry.ofMap c.pageKey filter →
      schema.get? e.field = some kind →
      ∃ part ∈ parts, Reading.ofEntry schema combinator e = .ok (.node part.1) := by
    intro e kind he hkind
    obtain ⟨n, hn, hread⟩ := exists_node_of_entry hreading he hkind
    obtain ⟨part, hpart, rfl⟩ := List.mem_map.1 (hperm.mem_iff.2 hn)
    exact ⟨part, hpart, hread⟩
  cases hreaches with
  | here he hkind =>
    obtain ⟨part, hmem, hread⟩ := hpart he hkind
    rw [← FilterNode.isSupported_eq_false hread hkind, Bool.not_eq_false]
    obtain ⟨kind', _, hkind', _, hnode⟩ := Reading.ofEntry_node hread
    exact (hparts part hmem).isSupported (by rw [hnode]; exact hkind') (by rw [hnode])
  | @nested _ _ _ _ _ fields owner e r _ howner hr hfields hinner =>
    obtain ⟨part, hmem, hread⟩ := hpart howner hr
    obtain ⟨kind', condition, hkind', hcondition, hnode⟩ := Reading.ofEntry_node hread
    cases hr.symm.trans hkind'
    have hjoined : part.1.condition = .joined fields := by
      rw [hnode]
      exact (Condition.ofValue_relation rfl hcondition fields).2 hfields
    have hfield : part.1.field = owner.field := by rw [hnode]
    obtain ⟨r', inner, hr', haccepts, -⟩ := (hparts part hmem).exists_nested hjoined
    rw [hfield] at hr' haccepts
    cases hr.symm.trans hr'
    exact haccepts s p e kind hinner

/-! ## What does not compile -/

variable {error : FilterError} {operator : Operator} {type : DeclaredType} {field : String}

theorem exists_of_flags_error {value : Json} (h : ControlFlag.ofValue value = .error error) :
    ∃ flag, error = .unknownFlag flag := by
  have htoken : ∀ token, ControlFlag.ofToken token = .error error →
      ∃ flag, error = .unknownFlag flag := by
    intro token h
    unfold ControlFlag.ofToken at h
    dsimp only at h
    split at h
    · cases h
    · cases h
      exact ⟨token, rfl⟩
  cases value with
  | null => cases h
  | str s =>
    rcases bind_eq_error.1 h with h | ⟨flags, -, h⟩
    · obtain ⟨token, -, h⟩ := exists_of_mapM_error h
      exact htoken token h
    · cases h
  | arr items =>
    rcases bind_eq_error.1 h with h | ⟨flags, -, h⟩
    · obtain ⟨item, -, h⟩ := exists_of_mapM_error h
      cases item with
      | str token => exact htoken token h
      | _ =>
        cases h
        exact ⟨_, rfl⟩
    · cases h
  | bool | num | obj =>
    cases h
    exact ⟨_, rfl⟩

/-- A filter map that cannot be read has a range without bounds, or with a flag that is unknown. -/
theorem exists_of_reading_error
    (h : FilterReading.ofMap schema c.pageKey combinator filter = .error error) :
    ∃ e ∈ FilterEntry.ofMap c.pageKey filter, ∃ kind, schema.get? e.field = some kind ∧
      (e.IsEmptyRange ∧ error = .emptyRange e.field ∨ ∃ flag, error = .unknownFlag flag) := by
  rcases bind_eq_error.1 h with h | ⟨readings, -, h⟩
  swap
  · cases h
  obtain ⟨e, he, h⟩ := exists_of_mapM_error h
  refine ⟨e, he, ?_⟩
  unfold Reading.ofEntry at h
  split at h
  · cases h
  next kind hkind =>
  refine ⟨kind, hkind, ?_⟩
  rcases bind_eq_error.1 h with h | ⟨condition, -, h⟩
  swap
  · cases h
  rcases bind_eq_error.1 h with h | ⟨condition, -, h⟩
  swap
  · cases h
  cases hvalue : e.value with
  | obj fields =>
    rw [hvalue, Condition.ofWritten] at h
    split at h
    · next hrange =>
      unfold Condition.ofRange at h
      split at h
      · next hbounds =>
        cases h
        exact .inl ⟨⟨fields, hvalue, hrange, Bounds.ofEnds?_eq_none hbounds⟩, rfl⟩
      · rcases bind_eq_error.1 h with h | ⟨flags, -, h⟩
        · exact .inr (exists_of_flags_error h)
        · cases h
    · cases h
  | _ =>
    rw [hvalue] at h
    cases h

/-- A condition on a column that cannot be compiled has a value that cannot be cast. -/
theorem exists_of_compileValue_error {type : ScalarType} {path : Path}
    (hflat : ∀ filter, n.condition ≠ .joined filter)
    (h : c.compileValue n type path = .error error) : ∃ cause, error = .unparseable cause := by
  have hliteral : ∀ value, c.literal type value = .error error →
      ∃ cause, error = .unparseable cause := by
    intro value h
    rcases bind_eq_error.1 h with h | ⟨l, -, h⟩
    · obtain ⟨cause, -, rfl⟩ := mapError_eq_error.1 h
      exact ⟨cause, rfl⟩
    · cases h
  unfold compileValue at h
  dsimp only at h
  split at h
  · cases h
  · rcases bind_eq_error.1 h with h | ⟨l, -, h⟩
    · exact hliteral _ h
    · cases h
  · cases h
  · rcases bind_eq_error.1 h with h | ⟨ls, -, h⟩
    · rcases bind_eq_error.1 h with h | ⟨ls, -, h⟩
      · obtain ⟨cause, -, rfl⟩ := mapError_eq_error.1 h
        exact ⟨cause, rfl⟩
      · cases h
    · cases h
  · next bounds flags _ =>
    rcases bind_eq_error.1 h with h | ⟨ends, -, h⟩
    · cases bounds with
      | between low high =>
        rcases bind_eq_error.1 h with h | ⟨l, -, h⟩
        · exact hliteral _ h
        · rcases bind_eq_error.1 h with h | ⟨l, -, h⟩
          · exact hliteral _ h
          · cases h
      | atLeast bound | atMost bound =>
        rcases bind_eq_error.1 h with h | ⟨l, -, h⟩
        · exact hliteral _ h
        · cases h
    · cases h
  · next filter hjoined => exact absurd hjoined (hflat filter)

/-- A node that is an unsupported operation is one itself, or has one in its nested filter. -/
theorem compileNode_unsupported
    {nested : FieldSchema → Path → List FilterNode → Except FilterError Compiled}
    (hread : Reading.ofEntry schema combinator e = .ok (.node n))
    (hkind : schema.get? e.field = some kind)
    (h : c.compileNode nested schema root n = .error (.unsupportedOperation operator type field)) :
    n.isSupported = false ∧ FilterError.unsupportedOperation operator type field = n.unsupported ∨
    ∃ r fields children, kind = .relation r ∧ Condition.nested? e.value = some fields ∧
      c.children (c.target r) combinator fields = .ok children ∧
      nested (c.target r) (root.child e.field) children =
        .error (.unsupportedOperation operator type field) := by
  obtain ⟨kind', condition, hkind', hcondition, rfl⟩ := Reading.ofEntry_node hread
  cases hkind.symm.trans hkind'
  have hvalue : ∀ n : FilterNode, (∀ filter, n.condition ≠ .joined filter) → ∀ type' path,
      c.compileValue n type' path ≠ .error (.unsupportedOperation operator type field) := by
    intro n hflat type' path h
    obtain ⟨cause, hcause⟩ := exists_of_compileValue_error hflat h
    cases hcause
  unfold compileNode at h
  split at h
  case isFalse hsupported =>
    cases h
    exact .inl ⟨by simpa using hsupported, rfl⟩
  case isTrue hsupported =>
    dsimp only at h
    rw [hkind] at h
    cases kind with
    | scalar type' =>
      have hflat := Condition.ne_joined_of_ofValue hcondition nofun
      rcases bind_eq_error.1 h with h | ⟨p, -, h⟩
      · exact absurd h (hvalue _ hflat _ _)
      · cases h
    | relation r =>
      dsimp only [DeclaredType.ofFieldKind] at h
      split at h
      · next fields =>
        have hnested := (Condition.ofValue_relation rfl hcondition fields).1 rfl
        rcases bind_eq_error.1 h with h | ⟨children, hchildren, h⟩
        · rcases bind_eq_error.1 h with h | ⟨reading, -, h⟩
          · obtain ⟨_, _, _, _, ⟨_, h⟩ | ⟨_, h⟩⟩ := exists_of_reading_error h <;> cases h
          · cases h
        · rcases bind_eq_error.1 h with h | ⟨inner, -, h⟩
          · exact .inr ⟨r, fields, children, rfl, hnested, hchildren, h⟩
          · cases h
      · cases h
      · next hflat hpresent =>
        cases hidentity : r.identity with
        | none =>
          -- without an identity only the test for absence is supported
          rw [FilterNode.isSupported_of_flat hflat] at hsupported
          simp only [DeclaredType.ofFieldKind, DeclaredType.valueType?, hidentity,
            Option.map_none] at hsupported
          unfold Condition.isNullTest at hsupported
          split at hsupported
          · exact absurd rfl hpresent
          · cases hsupported
        | some identity =>
          rw [hidentity] at h
          dsimp only [Option.map_some] at h
          split at h
          · rcases bind_eq_error.1 h with h | ⟨p, -, h⟩
            · exact absurd h (hvalue _ hflat _ _)
            · cases h
          · rcases bind_eq_error.1 h with h | ⟨p, -, h⟩
            · exact absurd h (hvalue _ hflat _ _)
            · cases h
          · next hnone hmany =>
            cases hcardinality : r.cardinality with
            | one => exact (hnone _ _ rfl rfl hcardinality).elim
            | many => exact (hmany _ _ _ rfl rfl hcardinality).elim

/-- Where compiling a level fails for an unsupported operation, the level reaches an entry that its
field refuses. -/
theorem reaches_of_unsupported {fuel : Nat} {reading : FilterReading}
    (hreading : FilterReading.ofMap schema c.pageKey combinator filter = .ok reading)
    (hnodes : ∀ n ∈ nodes, n ∈ reading.nodes)
    (h : c.compileLevel fuel schema root nodes =
      .error (.unsupportedOperation operator type field)) :
    ∃ s p e kind, c.Reaches schema root filter s p e kind ∧ kind.Refuses e.value ∧
      operator = e.value.operator ∧ type = .ofFieldKind kind ∧ field = e.field := by
  induction fuel generalizing schema root combinator filter reading nodes with
  | zero => cases h
  | succ fuel ih =>
    rcases bind_eq_error.1 h with h | ⟨pieces, -, h⟩
    swap
    · cases h
    obtain ⟨n, hn, h⟩ := exists_of_mapM_error h
    rcases bind_eq_error.1 h with h | ⟨part, -, h⟩
    swap
    · cases h
    obtain ⟨e, he, hread⟩ := FilterReading.entry_of_mem hreading (hnodes n hn)
    obtain ⟨kind, condition, hkind, hcondition, hnode⟩ := Reading.ofEntry_node hread
    rcases compileNode_unsupported hread hkind h with ⟨hunsupported, herror⟩ |
      ⟨r, fields, children, rfl, hfields, hchildren, h⟩
    · have hrefuses := (FilterNode.isSupported_eq_false hread hkind).1 hunsupported
      have hoperator : condition.operator = e.value.operator :=
        Condition.operator_ofValue hcondition hrefuses.isFlat
      rw [hnode] at herror
      cases herror
      exact ⟨schema, root, e, kind, .here he hkind, hrefuses, hoperator, rfl, rfl⟩
    · obtain ⟨reading', hreading', hperm⟩ := children_ok hchildren
      obtain ⟨s, p, e', kind', hreaches, hrest⟩ :=
        ih hreading' (fun n hn => hperm.mem_iff.1 hn) h
      exact ⟨s, p, e', kind', .nested he hkind hfields hreaches, hrest⟩

/-- **Conditions without a meaning are refused**: a filter map whose nodes can be read does not
compile if it reaches an entry that its field refuses, and an unsupported operation that is reported
is one of an entry that is reached, with its field, its operator and its type. -/
theorem compile_refuses
    (hnodes : FilterNode.ofMap schema c.pageKey combinator filter = .ok nodes) :
    ((∃ s p e kind, c.Reaches schema .root filter s p e kind ∧ kind.Refuses e.value) →
      ∃ error, c.compile schema nodes = .error error) ∧
    ∀ operator type field,
      c.compile schema nodes = .error (.unsupportedOperation operator type field) →
      ∃ s p e kind, c.Reaches schema .root filter s p e kind ∧ kind.Refuses e.value ∧
        operator = e.value.operator ∧ type = .ofFieldKind kind ∧ field = e.field := by
  constructor
  · rintro ⟨s, p, e, kind, hreaches, hrefuses⟩
    cases hcompile : c.compile schema nodes with
    | error error => exact ⟨error, rfl⟩
    | ok compiled =>
      obtain ⟨inner, haccepts, -⟩ := compile_induct isPreserved_accepts hnodes hcompile
      exact absurd hrefuses (haccepts s p e kind hreaches)
  · intro operator type field h
    obtain ⟨reading, hreading, hknown⟩ := bind_eq_ok.1 hnodes
    rcases bind_eq_error.1 h with h | ⟨compiled, -, h⟩
    · refine reaches_of_unsupported hreading (fun n hn => ?_) h
      rwa [FilterReading.known_ok hknown]
    · cases h

/-- A pattern for the age of a friend of a person's friends: the ages are numbers, so the filter is
refused, and the error names the condition on the age. -/
theorem compile_refuses_friends :
    let c : FilterContext := ⟨.people, "page", .builtIn, .utc⟩
    let filter : FilterMap :=
      [("age", .null), ("NOT", .obj [("friends", .obj [("friends", .obj [("age", .str "4%")])])])]
    ∃ schema nodes, c.catalog.resolve "person" = some schema ∧
      FilterNode.ofMap schema c.pageKey .or filter = .ok nodes ∧
      c.compile schema nodes = .error (.unsupportedOperation .like (.scalar .i64) "age") ∧
      (∃ s p e kind, c.Reaches schema .root filter s p e kind ∧ kind.Refuses e.value ∧
        .like = e.value.operator ∧ .scalar .i64 = DeclaredType.ofFieldKind kind ∧ "age" = e.field) ∧
      ∃ error, c.compile schema nodes = .error error := by
  intro c filter
  obtain ⟨schema, nodes, hschema, hnodes, hcompile⟩ :
      ∃ schema nodes, c.catalog.resolve "person" = some schema ∧
        FilterNode.ofMap schema c.pageKey .or filter = .ok nodes ∧
        c.compile schema nodes = .error (.unsupportedOperation .like (.scalar .i64) "age") :=
    ⟨_, _, rfl, rfl, rfl⟩
  obtain ⟨hrefused, hnamed⟩ := compile_refuses hnodes
  have hcause := hnamed _ _ _ hcompile
  obtain ⟨s, p, e, kind, hreaches, hrefuses, -⟩ := hcause
  exact ⟨schema, nodes, hschema, hnodes, hcompile, hnamed _ _ _ hcompile,
    hrefused ⟨s, p, e, kind, hreaches, hrefuses⟩⟩

end FilterContext

end RowFilter
