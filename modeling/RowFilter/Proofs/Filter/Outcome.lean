import RowFilter.Filter.Compile
import RowFilter.Proofs.StableSort
import RowFilter.Proofs.Success

/-!
# What compiling a filter goes through

A filter map that compiles was read into nodes, and each of its nodes was compiled in one of five
ways, of which one compiles a nested filter. `compileLevel_induct` turns this into an induction over
nested filters: what holds of the parts of every level holds of the whole.
-/

namespace RowFilter

variable {c : FilterContext} {schema : FieldSchema} {combinator : Combinator} {filter : FilterMap}
  {nodes : List FilterNode}

/-! ## Reading -/

theorem Json.eq_null_of_isNull {value : Json} (h : value.isNull = true) : value = .null := by
  cases value with
  | null => rfl
  | bool | num | str | arr | obj => cases h

namespace Condition

variable {type : DeclaredType} {field : String} {value : Json} {condition : Condition}

@[simp] theorem depth_upper (condition : Condition) : condition.upper.depth = condition.depth := by
  cases condition <;> rfl

theorem ofRange_ok {fields : FilterMap} (h : ofRange field fields = .ok condition) :
    ∃ bounds flags,
      Bounds.ofEnds? ((fields.get? "from").getD .null) ((fields.get? "to").getD .null) =
        some bounds ∧
      ControlFlag.ofValue ((fields.get? "flags").getD .null) = .ok flags ∧
      condition = range bounds flags := by
  unfold ofRange at h
  split at h
  · cases h
  · next bounds hbounds =>
    obtain ⟨flags, hflags, h⟩ := bind_eq_ok.1 h
    cases h
    exact ⟨bounds, flags, hbounds, hflags, rfl⟩

theorem ofValue_ok (h : ofValue type field value = .ok condition) :
    ∃ written, ofWritten type field value = .ok written ∧
      condition = if type.isText then written.upper else written := by
  obtain ⟨written, hwritten, h⟩ := bind_eq_ok.1 h
  cases h
  exact ⟨written, hwritten, rfl⟩

theorem depth_ofWritten_le (h : ofWritten type field value = .ok condition) :
    condition.depth ≤ value.depth := by
  cases value with
  | str s =>
    cases h
    split <;> exact Nat.zero_le _
  | obj fields =>
    rw [ofWritten] at h
    split at h
    · obtain ⟨bounds, flags, _, _, rfl⟩ := ofRange_ok h
      exact Nat.zero_le _
    · cases h
      split
      · simp [depth, Json.depth]
      · exact Nat.zero_le _
  | null | bool | num | arr =>
    cases h
    exact Nat.zero_le _

/-- The filter on related records that a value states for a relation, if it states one. -/
def nested? : Json → Option FilterMap
  | .obj fields => if isRange fields then none else some fields
  | _ => none

theorem nested?_eq_some {filter : FilterMap} :
    nested? value = some filter ↔ value = .obj filter ∧ isRange filter = false := by
  cases value with
  | obj fields =>
    rw [nested?, Option.ite_none_left_eq_some, Bool.not_eq_true]
    constructor
    · rintro ⟨hrange, hfields⟩
      cases hfields
      exact ⟨rfl, hrange⟩
    · rintro ⟨hfields, hrange⟩
      cases hfields
      exact ⟨hrange, rfl⟩
  | null | bool | num | str | arr => exact ⟨nofun, nofun⟩

theorem nested?_eq_none :
    nested? value = none ↔ ∀ fields, value = .obj fields → isRange fields = true := by
  rw [Option.eq_none_iff_forall_ne_some]
  refine forall_congr' fun fields => ?_
  rw [Ne, nested?_eq_some, not_and, Bool.not_eq_false]

/-- An object that is no nested filter is a range, or a bag of candidates. -/
theorem ofWritten_obj {fields : FilterMap}
    (hflat : type.isRelation = true → nested? (.obj fields) = none) :
    ofWritten type field (.obj fields) =
      if isRange fields then ofRange field fields else .ok (isIn (Keyed.values fields)) := by
  rw [ofWritten]
  split
  · rfl
  · next hrange =>
    have hscalar : ¬ type.isRelation = true := fun hrelation =>
      hrange (nested?_eq_none.1 (hflat hrelation) fields rfl)
    rw [if_neg hscalar]

theorem ofWritten_relation (htype : type.isRelation = true)
    (h : ofWritten type field value = .ok condition) :
    ∀ filter, condition = joined filter ↔ nested? value = some filter := by
  intro filter
  cases value with
  | str s =>
    cases h
    split <;> exact ⟨nofun, nofun⟩
  | obj fields =>
    rw [ofWritten] at h
    rw [nested?]
    split at h
    · next hrange =>
      obtain ⟨bounds, flags, _, _, rfl⟩ := ofRange_ok h
      rw [if_pos hrange]
      exact ⟨nofun, nofun⟩
    · next hrange =>
      cases h
      rw [if_neg hrange]
      exact ⟨fun h => congrArg some (joined.inj h), fun h => congrArg joined (Option.some.inj h)⟩
  | null | bool | num | arr =>
    cases h
    exact ⟨nofun, nofun⟩

/-- For a relation, the conditions on related records are those that nested filters state. -/
theorem ofValue_relation (htype : type.isRelation = true)
    (h : ofValue type field value = .ok condition) (filter : FilterMap) :
    condition = joined filter ↔ nested? value = some filter := by
  obtain ⟨written, hwritten, rfl⟩ := ofValue_ok h
  rw [← ofWritten_relation htype hwritten]
  split
  · cases written with
    | equals | like | isIn => exact ⟨nofun, nofun⟩
    | range | joined => exact Iff.rfl
  · exact Iff.rfl

/-- The test for absence is what a null states. -/
theorem isNullTest_of_ofValue (h : ofValue type field value = .ok condition) :
    condition.isNullTest = value.isNull := by
  obtain ⟨written, hwritten, rfl⟩ := ofValue_ok h
  cases value with
  | str s =>
    cases hwritten
    split <;> split <;> rfl
  | obj fields =>
    rw [ofWritten] at hwritten
    split at hwritten
    · obtain ⟨bounds, flags, _, _, rfl⟩ := ofRange_ok hwritten
      split <;> rfl
    · cases hwritten
      split <;> split <;> rfl
  | null | bool | num | arr =>
    cases hwritten
    split <;> rfl

/-- A condition nests no deeper than the value that states it. -/
theorem depth_ofValue_le (h : ofValue type field value = .ok condition) :
    condition.depth ≤ value.depth := by
  obtain ⟨written, hwritten, rfl⟩ := ofValue_ok h
  have hle := depth_ofWritten_le hwritten
  split
  · rwa [depth_upper]
  · exact hle

end Condition

namespace FilterEntry

/-- Whether an entry names a field of a schema. -/
def isDeclaredIn (schema : FieldSchema) (e : FilterEntry) : Bool := (schema.get? e.field).isSome

theorem depth_le_of_mem {fields : FilterMap} {entry : String × Json} (h : entry ∈ fields) :
    entry.2.depth ≤ Json.depthOfFields fields := by
  induction fields with
  | nil => cases h
  | cons first rest ih =>
    rw [Json.depthOfFields]
    rcases List.mem_cons.1 h with rfl | h
    · exact Nat.le_max_left _ _
    · exact Nat.le_trans (ih h) (Nat.le_max_right _ _)

/-- What a filter map states nests no deeper than the map. -/
theorem depth_value_le {pageKey : String} {e : FilterEntry} (h : e ∈ ofMap pageKey filter) :
    e.value.depth ≤ Json.depthOfFields filter := by
  obtain ⟨entry, hentry, he⟩ := List.mem_flatMap.1 h
  have hle := depth_le_of_mem hentry
  unfold ofEntry at he
  split at he
  · cases he
  · split at he
    · split at he
      · next negated hnegated =>
        obtain ⟨inner, hinner, rfl⟩ := List.mem_map.1 he
        have hinner' := depth_le_of_mem hinner
        rw [hnegated, Json.depth] at hle
        change inner.2.depth ≤ _
        omega
      · cases he
    · rw [List.mem_singleton.1 he]
      exact hle

end FilterEntry

namespace Reading

theorem ofEntry_node {e : FilterEntry} {n : FilterNode}
    (h : ofEntry schema combinator e = .ok (node n)) :
    ∃ kind condition, schema.get? e.field = some kind ∧
      Condition.ofValue (.ofFieldKind kind) e.field e.value = .ok condition ∧
      n = ⟨e.field, .ofFieldKind kind, condition, combinator, e.negation⟩ := by
  unfold ofEntry at h
  split at h
  · cases h
  · next kind hkind =>
    obtain ⟨condition, hcondition, h⟩ := bind_eq_ok.1 h
    cases h
    exact ⟨kind, condition, hkind, hcondition, rfl⟩

theorem ofEntry_unknown {e : FilterEntry} {field : String}
    (h : ofEntry schema combinator e = .ok (unknown field)) : schema.get? e.field = none := by
  unfold ofEntry at h
  split at h
  · assumption
  · obtain ⟨condition, _, h⟩ := bind_eq_ok.1 h
    cases h

/-- The nodes among readings are those of the entries that name a field of the schema. -/
theorem nodes_of_forall₂ {entries : List FilterEntry} {readings : List Reading}
    (h : List.Forall₂ (fun e reading => ofEntry schema combinator e = .ok reading)
      entries readings) :
    List.Forall₂ (fun e n => ofEntry schema combinator e = .ok (node n))
      (entries.filter (·.isDeclaredIn schema)) (readings.filterMap node?) := by
  induction h with
  | nil => exact .nil
  | @cons e reading entries readings he _ ih =>
    cases reading with
    | node n =>
      obtain ⟨kind, _, hkind, _⟩ := ofEntry_node he
      have hdeclared : e.isDeclaredIn schema = true := by
        rw [FilterEntry.isDeclaredIn, hkind]
        rfl
      rw [List.filter_cons_of_pos hdeclared]
      exact .cons he ih
    | unknown field =>
      have hundeclared : ¬ e.isDeclaredIn schema = true := by
        rw [FilterEntry.isDeclaredIn, ofEntry_unknown he]
        exact Bool.false_ne_true
      rw [List.filter_cons_of_neg hundeclared]
      exact ih

end Reading

namespace FilterReading

/-- The nodes of a filter map are its entries that name a field of the schema, in order. -/
theorem nodes_ofMap {pageKey : String} {reading : FilterReading}
    (h : ofMap schema pageKey combinator filter = .ok reading) :
    List.Forall₂ (fun e n => Reading.ofEntry schema combinator e = .ok (.node n))
      ((FilterEntry.ofMap pageKey filter).filter (·.isDeclaredIn schema)) reading.nodes := by
  obtain ⟨readings, hreadings, h⟩ := bind_eq_ok.1 h
  cases h
  exact Reading.nodes_of_forall₂ (forall₂_of_mapM hreadings)

theorem entry_of_mem {pageKey : String} {reading : FilterReading} {n : FilterNode}
    (h : ofMap schema pageKey combinator filter = .ok reading) (hn : n ∈ reading.nodes) :
    ∃ e ∈ FilterEntry.ofMap pageKey filter,
      Reading.ofEntry schema combinator e = .ok (.node n) := by
  obtain ⟨i, hi, rfl⟩ := List.getElem_of_mem hn
  have hall := nodes_ofMap h
  have hi' := hall.length_eq ▸ hi
  exact ⟨_, List.mem_of_mem_filter (List.getElem_mem hi'), hall.get hi' hi⟩

theorem depth_of_mem {pageKey : String} {reading : FilterReading} {n : FilterNode}
    (h : ofMap schema pageKey combinator filter = .ok reading) (hn : n ∈ reading.nodes) :
    n.condition.depth ≤ Json.depthOfFields filter := by
  obtain ⟨e, he, hread⟩ := entry_of_mem h hn
  obtain ⟨_, condition, _, hcondition, rfl⟩ := Reading.ofEntry_node hread
  exact Nat.le_trans (Condition.depth_ofValue_le hcondition) (FilterEntry.depth_value_le he)

theorem known_ok {reading : FilterReading} {entity : String}
    (h : reading.known entity = .ok nodes) : reading.nodes = nodes := by
  unfold known at h
  split at h
  · cases h
    rfl
  · cases h

end FilterReading

/-! ## Compiling a condition on a column -/

/-- The ends of bounds, each with the comparison that it stands for. -/
def Bounds.ends {α : Type} (bounds : Bounds α) : List (Comparison × α) :=
  (bounds.low?.map (Comparison.greaterThanOrEqual, ·)).toList ++
    (bounds.high?.map (Comparison.lessThanOrEqual, ·)).toList

theorem Bounds.operator_of_mem_ends {α : Type} {bounds : Bounds α} {bound : Comparison × α}
    (h : bound ∈ bounds.ends) : bound.1 = .greaterThanOrEqual ∨ bound.1 = .lessThanOrEqual := by
  rcases List.mem_append.1 h with h | h
  · obtain ⟨low, _, rfl⟩ := Option.map_eq_some_iff.1 (Option.mem_toList.1 h)
    exact .inl rfl
  · obtain ⟨high, _, rfl⟩ := Option.map_eq_some_iff.1 (Option.mem_toList.1 h)
    exact .inr rfl

/-- Each converted bound comes from a bound. -/
theorem Bounds.exists_of_convert {ε α β : Type} {f : α → Except ε β} {bounds : Bounds α}
    {ends : Bounds β} (h : bounds.convert f = .ok ends) {b : β}
    (hb : ends.low? = some b ∨ ends.high? = some b) : ∃ a, f a = .ok b := by
  cases bounds with
  | between low high =>
    obtain ⟨l, hl, h⟩ := bind_eq_ok.1 h
    obtain ⟨u, hu, h⟩ := bind_eq_ok.1 h
    cases h
    rcases hb with hb | hb <;> cases hb
    · exact ⟨low, hl⟩
    · exact ⟨high, hu⟩
  | atLeast end' | atMost end' =>
    obtain ⟨l, hl, h⟩ := bind_eq_ok.1 h
    cases h
    rcases hb with hb | hb <;> cases hb
    exact ⟨end', hl⟩

namespace FilterContext

/-- How a condition on the values of a column was compiled. -/
inductive ValueOutcome (c : FilterContext) (type : ScalarType) (path : Path) :
    Condition → Predicate → Prop where
  | absent : ValueOutcome c type path (.equals .null) (.isNull (.path path))
  | equals {value : Json} {l : Literal} (hpresent : value.isNull = false)
      (hl : c.literal type value = .ok l) :
      ValueOutcome c type path (.equals value) (.compare (column type path) .equal (.literal l))
  | like (pattern : String) :
      ValueOutcome c type path (.like pattern) (.like (column type path) (Text.upper pattern))
  | isIn {values : List Json} {ls : List Literal} (hls : c.candidates type values = .ok ls) :
      ValueOutcome c type path (.isIn values)
        (.compare (column type path) .isIn (.list (ls.map .literal)))
  | range {bounds : Bounds Json} {flags : List ControlFlag} {ends : Bounds Literal}
      (hends : bounds.convert (c.literal type) = .ok ends) :
      ValueOutcome c type path (.range bounds flags)
        ((if flags.contains .timeOfDay then timePredicates path ends else []).foldl .and
          (boundsPredicate (column type path) ends))

variable {type : ScalarType} {path : Path} {p q : Predicate}

theorem compileValue_ok {n : FilterNode} (h : c.compileValue n type path = .ok p) :
    ValueOutcome c type path n.condition p := by
  unfold compileValue at h
  dsimp only at h
  split at h
  · next hcondition =>
    cases h
    exact hcondition ▸ .absent
  · next value hpresent hcondition =>
    obtain ⟨l, hl, h⟩ := bind_eq_ok.1 h
    cases h
    rw [hcondition]
    refine .equals ?_ hl
    cases value with
    | null => exact (hpresent rfl).elim
    | bool | num | str | arr | obj => rfl
  · next pattern hcondition =>
    cases h
    exact hcondition ▸ .like pattern
  · next values hcondition =>
    obtain ⟨ls, hls, h⟩ := bind_eq_ok.1 h
    cases h
    exact hcondition ▸ .isIn hls
  · next bounds flags hcondition =>
    obtain ⟨ends, hends, h⟩ := bind_eq_ok.1 h
    cases h
    exact hcondition ▸ .range hends
  · cases h

theorem ValueOutcome.compileValue_eq {n : FilterNode} (h : ValueOutcome c type path n.condition p) :
    c.compileValue n type path = .ok p := by
  unfold compileValue
  generalize n.condition = condition at h
  cases h with
  | absent | like => rfl
  | @equals value _ hpresent hl =>
    cases value with
    | null => cases hpresent
    | bool | num | str | arr | obj => exact bind_eq_ok.2 ⟨_, hl, rfl⟩
  | isIn hls => exact bind_eq_ok.2 ⟨_, hls, rfl⟩
  | range hends => exact bind_eq_ok.2 ⟨_, hends, rfl⟩

theorem ValueOutcome.ne_joined {condition : Condition} (h : ValueOutcome c type path condition p)
    (filter : FilterMap) : condition ≠ .joined filter := by
  rintro rfl
  cases h

/-- A condition on the key of a relation is never what a nested filter states. -/
theorem ValueOutcome.nested?_eq_none {r : Relation} {field : String} {value : Json}
    {condition : Condition}
    (hcondition : Condition.ofValue (.ofFieldKind (.relation r)) field value = .ok condition)
    (h : ValueOutcome c type path condition p) : Condition.nested? value = none := by
  rw [Option.eq_none_iff_forall_ne_some]
  intro filter hnested
  exact h.ne_joined filter ((Condition.ofValue_relation rfl hcondition filter).2 hnested)

/-- The conditions on the time of day are those of the bounds that have one. -/
theorem timePredicates_eq (ends : Bounds Literal) :
    timePredicates path ends = ends.ends.filterMap fun bound => bound.2.timeOfDay?.map fun t =>
      .compare (.timeOfDay (.path path)) bound.1 (.literal (.time t)) := by
  cases ends with
  | between low high =>
    cases hlow : low.timeOfDay? <;> cases hhigh : high.timeOfDay? <;>
      simp [timePredicates, Bounds.ends, Bounds.low?, Bounds.high?, hlow, hhigh]
  | atLeast low =>
    cases hlow : low.timeOfDay? <;>
      simp [timePredicates, Bounds.ends, Bounds.low?, Bounds.high?, hlow]
  | atMost high =>
    cases hhigh : high.timeOfDay? <;>
      simp [timePredicates, Bounds.ends, Bounds.low?, Bounds.high?, hhigh]

/-- A condition on the time of day compares it with a time. -/
theorem exists_of_mem_timePredicates {ends : Bounds Literal} (h : q ∈ timePredicates path ends) :
    ∃ operator t, (operator = .greaterThanOrEqual ∨ operator = .lessThanOrEqual) ∧
      q = .compare (.timeOfDay (.path path)) operator (.literal (.time t)) := by
  rw [timePredicates_eq] at h
  obtain ⟨bound, hbound, h⟩ := List.mem_filterMap.1 h
  obtain ⟨t, _, rfl⟩ := Option.map_eq_some_iff.1 h
  exact ⟨bound.1, t, Bounds.operator_of_mem_ends hbound, rfl⟩

/-! ## Compiling one node -/

/-- What can be said of the conditions that a filter map, with a combinator, states on the records
of a schema at a path, and of what they compile to. -/
abbrev LevelProperty := FieldSchema → Path → Combinator → FilterMap → Compiled → Prop

/-- How a node of the records at a path was compiled, where `nested` says what is known of a nested
filter of the records at a path below. -/
inductive NodeOutcome (c : FilterContext) (nested : LevelProperty) (schema : FieldSchema)
    (root : Path) (n : FilterNode) : Compiled → Prop where
  /-- A condition on a column. -/
  | column {type : ScalarType} {p : Predicate}
      (hkind : schema.get? n.field = some (.scalar type))
      (hsuits : FilterNode.suits type n.condition = true)
      (hp : c.compileValue n type (root.child n.field) = .ok p) :
      NodeOutcome c nested schema root n ⟨p, []⟩
  /-- The condition that a relation leads nowhere. -/
  | absent {r : Relation} (hkind : schema.get? n.field = some (.relation r))
      (hnull : n.condition = .equals .null) :
      NodeOutcome c nested schema root n ⟨.isNull (.path (root.child n.field)), []⟩
  /-- A condition on the key of the one record that a relation leads to. -/
  | key {r : Relation} {field : String} {type : ScalarType} {p : Predicate}
      (hkind : schema.get? n.field = some (.relation r)) (hone : r.cardinality = .one)
      (hidentity : r.identity = some (field, type))
      (hpresent : n.condition.isNullTest = false)
      (hsuits : FilterNode.suits type n.condition = true)
      (hp : c.compileValue n type (root.child n.field) = .ok p) :
      NodeOutcome c nested schema root n ⟨p, []⟩
  /-- A condition on the identity of one of the records that a relation leads to. -/
  | member {r : Relation} {field : String} {type : ScalarType} {p : Predicate}
      (hkind : schema.get? n.field = some (.relation r)) (hmany : r.cardinality = .many)
      (hidentity : r.identity = some (field, type))
      (hpresent : n.condition.isNullTest = false)
      (hsuits : FilterNode.suits type n.condition = true)
      (hp : c.compileValue n type ((root.child n.field).child field) = .ok p) :
      NodeOutcome c nested schema root n ⟨p, [c.joinOf r (root.child n.field) .lazy]⟩
  /-- A filter on a record that a relation leads to. -/
  | joined {r : Relation} {filter : FilterMap} {inner : Compiled}
      (hkind : schema.get? n.field = some (.relation r)) (hjoined : n.condition = .joined filter)
      (hinner : nested (c.target r) (root.child n.field) n.combinator filter inner) :
      NodeOutcome c nested schema root n
        ⟨inner.predicate, c.joinOf r (root.child n.field) r.fetch :: inner.joins⟩

variable {root : Path} {n : FilterNode} {part : Compiled}

/-- What is known of nested filters matters only for the filter of the node. -/
theorem NodeOutcome.imp {nested nested' : LevelProperty}
    (h : NodeOutcome c nested schema root n part)
    (himp : ∀ target path filter inner, n.condition = .joined filter →
      nested target path n.combinator filter inner →
      nested' target path n.combinator filter inner) :
    NodeOutcome c nested' schema root n part := by
  cases h with
  | column hkind hsuits hp => exact .column hkind hsuits hp
  | absent hkind hnull => exact .absent hkind hnull
  | key hkind hone hidentity hpresent hsuits hp =>
    exact .key hkind hone hidentity hpresent hsuits hp
  | member hkind hmany hidentity hpresent hsuits hp =>
    exact .member hkind hmany hidentity hpresent hsuits hp
  | joined hkind hjoined hinner => exact .joined hkind hjoined (himp _ _ _ _ hjoined hinner)

theorem suits_of_isSupported {type : ScalarType} (htype : n.type.valueType? = some type)
    (h : n.isSupported = true) : FilterNode.suits type n.condition = true := by
  unfold FilterNode.isSupported at h
  rw [htype] at h
  split at h
  · next filter _ hcondition =>
    rw [hcondition]
    rfl
  · next hnone _ => cases hnone
  · next hsome _ =>
    cases hsome
    exact h

theorem isSupported_of_suits {type : ScalarType}
    (htype : n.type.valueType? = some type)
    (h : FilterNode.suits type n.condition = true) : n.isSupported = true := by
  unfold FilterNode.isSupported
  rw [htype]
  split
  · rfl
  · next hnone _ => cases hnone
  · next hsome _ =>
    cases hsome
    exact h

variable {nested : FieldSchema → Path → List FilterNode → Except FilterError Compiled}

/-- A node that is declared as its type says was compiled in one of the five ways. -/
theorem compileNode_ok {kind : FieldKind} (hkind : schema.get? n.field = some kind)
    (htype : n.type = .ofFieldKind kind) (h : c.compileNode nested schema root n = .ok part) :
    NodeOutcome c (fun target path combinator filter inner => ∃ nodes,
      c.children target combinator filter = .ok nodes ∧ nested target path nodes = .ok inner)
      schema root n part := by
  unfold compileNode at h
  split at h
  case isFalse => cases h
  case isTrue hsupported =>
    rw [htype, hkind] at h
    cases kind with
    | scalar type =>
      obtain ⟨p, hp, h⟩ := bind_eq_ok.1 h
      cases h
      exact .column hkind (suits_of_isSupported (by rw [htype]; rfl) hsupported) hp
    | relation r =>
      dsimp only [DeclaredType.ofFieldKind] at h
      split at h
      · next filter hjoined =>
        obtain ⟨nodes, hnodes, h⟩ := bind_eq_ok.1 h
        obtain ⟨inner, hinner, h⟩ := bind_eq_ok.1 h
        cases h
        exact .joined hkind hjoined ⟨nodes, hnodes, hinner⟩
      · next hnull =>
        cases h
        exact .absent hkind hnull
      · next hnotjoined hnotnull =>
        have hpresent : n.condition.isNullTest = false := by
          unfold Condition.isNullTest
          split
          · next hnull => exact (hnotnull hnull).elim
          · rfl
        cases hidentity : r.identity with
        | none =>
          rw [hidentity] at h
          cases h
        | some identity =>
          obtain ⟨field, type⟩ := identity
          have hsuits : FilterNode.suits type n.condition = true :=
            suits_of_isSupported (by rw [htype, DeclaredType.ofFieldKind, hidentity]; rfl)
              hsupported
          rw [hidentity] at h
          cases hcardinality : r.cardinality with
          | one =>
            rw [hcardinality] at h
            obtain ⟨p, hp, h⟩ := bind_eq_ok.1 h
            cases h
            exact .key hkind hcardinality hidentity hpresent hsuits hp
          | many =>
            rw [hcardinality] at h
            obtain ⟨p, hp, h⟩ := bind_eq_ok.1 h
            cases h
            exact .member hkind hcardinality hidentity hpresent hsuits hp

/-! ## Compiling a level -/

theorem depth_le_of_mem (h : n ∈ nodes) : n.condition.depth ≤ depth nodes := by
  induction nodes with
  | nil => cases h
  | cons first rest ih =>
    rcases List.mem_cons.1 h with rfl | h
    · exact Nat.le_max_left _ _
    · exact Nat.le_trans (ih h) (Nat.le_max_right _ _)

theorem depth_le {bound : Nat} (h : ∀ n ∈ nodes, n.condition.depth ≤ bound) :
    depth nodes ≤ bound := by
  induction nodes with
  | nil => exact Nat.zero_le _
  | cons first rest ih =>
    exact Nat.max_le.2 ⟨h first List.mem_cons_self,
      ih fun n hn => h n (List.mem_cons_of_mem _ hn)⟩

/-- A compiled node counts by its combinator, and negated where the node says so. -/
def ofPart (part : FilterNode × Compiled) : Combinator × Compiled :=
  (part.1.combinator, part.2.negated part.1.negation)

theorem compileLevel_ok {fuel : Nat} {compiled : Compiled}
    (h : c.compileLevel (fuel + 1) schema root nodes = .ok compiled) :
    ∃ parts : List (FilterNode × Compiled), parts.map Prod.fst = nodes ∧
      (∀ part ∈ parts, c.compileNode (c.compileLevel fuel) schema root part.1 = .ok part.2) ∧
      compiled = .combine (parts.map ofPart) := by
  obtain ⟨pieces, hpieces, h⟩ := bind_eq_ok.1 h
  cases h
  have hall := forall₂_of_mapM hpieces
  clear h hpieces
  suffices hparts : ∃ parts : List (FilterNode × Compiled), parts.map Prod.fst = nodes ∧
      (∀ part ∈ parts, c.compileNode (c.compileLevel fuel) schema root part.1 = .ok part.2) ∧
      pieces = parts.map ofPart by
    obtain ⟨parts, hfst, hparts, rfl⟩ := hparts
    exact ⟨parts, hfst, hparts, rfl⟩
  induction hall with
  | nil => exact ⟨[], rfl, List.forall_mem_nil _, rfl⟩
  | @cons n piece nodes pieces hpiece _ ih =>
    obtain ⟨part, hpart, hpiece⟩ := bind_eq_ok.1 hpiece
    cases hpiece
    obtain ⟨parts, rfl, hparts, rfl⟩ := ih
    exact ⟨(n, part) :: parts, rfl, List.forall_mem_cons.2 ⟨hpart, hparts⟩, rfl⟩

/-- A combined predicate has what each part has, if conjunctions and disjunctions keep it. -/
theorem combinedPredicate_induct {motive : Predicate → Prop}
    {pieces : List (Combinator × Predicate)} (htrue : motive .true)
    (hand : ∀ p q, motive p → motive q → motive (.and p q))
    (hor : ∀ p q, motive p → motive q → motive (.or p q))
    (hpieces : ∀ piece ∈ pieces, motive piece.2) :
    motive (Compiled.combinedPredicate pieces) := by
  have happly : ∀ (combinator : Combinator) (p q : Predicate), motive p → motive q →
      motive (combinator.apply p q) := by
    intro combinator p q hp hq
    cases combinator with
    | and => exact hand p q hp hq
    | or => exact hor p q hp hq
  have hfold : ∀ (rest : List (Combinator × Predicate)) (p : Predicate), motive p →
      (∀ piece ∈ rest, motive piece.2) →
      motive (rest.foldl (fun p piece => piece.1.apply p piece.2) p) := by
    intro rest
    induction rest with
    | nil => exact fun p hp _ => hp
    | cons piece rest ih =>
      intro p hp hrest
      obtain ⟨hpiece, hrest⟩ := List.forall_mem_cons.1 hrest
      exact ih _ (happly _ _ _ hp hpiece) hrest
  cases pieces with
  | nil => exact htrue
  | cons first rest =>
    obtain ⟨hfirst, hrest⟩ := List.forall_mem_cons.1 hpieces
    exact hfold rest first.2 hfirst hrest

/-- Whether nodes are the given ones in an order that keeps those on one field in order. -/
structure Arranged (given nodes : List FilterNode) : Prop where
  perm : nodes.Perm given
  onField : ∀ field, nodes.filter (·.field = field) = given.filter (·.field = field)

theorem Arranged.refl (nodes : List FilterNode) : Arranged nodes nodes := ⟨.refl _, fun _ => rfl⟩

/-- The nodes of a nested filter are arranged by where the target declares their fields. -/
theorem children_arranged {children : List FilterNode} {target : FieldSchema}
    (h : c.children target combinator filter = .ok children) :
    ∃ reading, FilterReading.ofMap target c.pageKey combinator filter = .ok reading ∧
      Arranged reading.nodes children := by
  obtain ⟨reading, hreading, h⟩ := bind_eq_ok.1 h
  cases h
  refine ⟨reading, hreading, StableSort.sort_perm _ _, fun field => ?_⟩
  refine StableSort.filter_sort_of_rank _ _ fun m n hm hn => ?_
  rw [of_decide_eq_true hm, of_decide_eq_true hn]

theorem children_ok {children : List FilterNode} {target : FieldSchema}
    (h : c.children target combinator filter = .ok children) :
    ∃ reading, FilterReading.ofMap target c.pageKey combinator filter = .ok reading ∧
      children.Perm reading.nodes := by
  obtain ⟨reading, hreading, harranged⟩ := children_arranged h
  exact ⟨reading, hreading, harranged.perm⟩

theorem depth_of_mem_children {target : FieldSchema}
    (hnodes : c.children target combinator filter = .ok nodes)
    (hn : n ∈ nodes) : n.condition.depth ≤ Json.depthOfFields filter := by
  obtain ⟨reading, hreading, hperm⟩ := children_ok hnodes
  exact FilterReading.depth_of_mem hreading (hperm.mem_iff.1 hn)

/-- Fuel for a node with a filter on related records leaves some for the nodes of that filter. -/
theorem exists_fuel_of_joined {fuel : Nat} (hjoined : n.condition = .joined filter)
    (hfuel : n.condition.depth ≤ fuel) :
    ∃ less, fuel = less + 1 ∧ Json.depthOfFields filter ≤ less := by
  rw [hjoined, Condition.depth] at hfuel
  obtain ⟨less, rfl⟩ := Nat.exists_eq_add_of_le' (Nat.one_le_of_lt hfuel)
  exact ⟨less, rfl, Nat.le_of_succ_le_succ hfuel⟩

/-- Whether a property of levels follows from what it says of the filters nested in them. -/
def IsPreserved (c : FilterContext) (property : LevelProperty) : Prop :=
  ∀ (schema : FieldSchema) (root : Path) (combinator : Combinator) (filter : FilterMap)
    (reading : FilterReading) (parts : List (FilterNode × Compiled)),
    FilterReading.ofMap schema c.pageKey combinator filter = .ok reading →
    (parts.map Prod.fst).Perm reading.nodes →
    (∀ part ∈ parts, NodeOutcome c property schema root part.1 part.2) →
    property schema root combinator filter (.combine (parts.map ofPart))

/-- Whether a property of levels, which may depend on the order of the conditions on one field,
follows from what it says of the filters nested in them. -/
def IsPreservedInOrder (c : FilterContext) (property : LevelProperty) : Prop :=
  ∀ (schema : FieldSchema) (root : Path) (combinator : Combinator) (filter : FilterMap)
    (reading : FilterReading) (parts : List (FilterNode × Compiled)),
    FilterReading.ofMap schema c.pageKey combinator filter = .ok reading →
    Arranged reading.nodes (parts.map Prod.fst) →
    (∀ part ∈ parts, NodeOutcome c property schema root part.1 part.2) →
    property schema root combinator filter (.combine (parts.map ofPart))

theorem IsPreserved.inOrder {property : LevelProperty} (h : c.IsPreserved property) :
    c.IsPreservedInOrder property :=
  fun _ _ _ _ _ _ hreading harranged => h _ _ _ _ _ _ hreading harranged.perm

/-- **Induction over nested filters**: what holds of a level whenever it holds of the filters nested
in it holds of every level that compiles. -/
theorem compileLevel_induct {property : LevelProperty} (step : c.IsPreservedInOrder property) :
    ∀ {fuel schema root combinator filter reading nodes compiled},
      FilterReading.ofMap schema c.pageKey combinator filter = .ok reading →
      Arranged reading.nodes nodes → depth nodes < fuel →
      c.compileLevel fuel schema root nodes = .ok compiled →
      property schema root combinator filter compiled := by
  intro fuel
  induction fuel with
  | zero => exact fun _ _ hfuel => absurd hfuel (Nat.not_lt_zero _)
  | succ fuel ih =>
    intro schema root combinator filter reading nodes compiled hreading hnodes hfuel h
    obtain ⟨parts, hfst, hparts, rfl⟩ := compileLevel_ok h
    refine step _ _ _ _ _ _ hreading (hfst ▸ hnodes) fun part hpart => ?_
    have hmem : part.1 ∈ nodes := hfst ▸ List.mem_map_of_mem hpart
    obtain ⟨e, he, hread⟩ := FilterReading.entry_of_mem hreading (hnodes.perm.mem_iff.1 hmem)
    obtain ⟨kind, condition, hkind, _, hnode⟩ := Reading.ofEntry_node hread
    have hkind' : schema.get? part.1.field = some kind := by rw [hnode]; exact hkind
    have htype : part.1.type = .ofFieldKind kind := by rw [hnode]
    refine (compileNode_ok hkind' htype (hparts part hpart)).imp ?_
    rintro target path filter inner hjoined ⟨children, hchildren, hinner⟩
    obtain ⟨reading', hreading', harranged⟩ := children_arranged hchildren
    refine ih hreading' harranged ?_ hinner
    -- the filter of the node nests less deep than the node
    have hdeep := depth_le_of_mem hmem
    rw [hjoined, Condition.depth] at hdeep
    have hshallow := depth_le fun n hn =>
      FilterReading.depth_of_mem hreading' (harranged.perm.mem_iff.1 hn)
    omega

/-- What holds of every level holds of a filter map that builds and compiles, but for the joins that
occur more than once. -/
theorem compile_induct_inOrder {property : LevelProperty} (step : c.IsPreservedInOrder property)
    {compiled : Compiled} (hnodes : FilterNode.ofMap schema c.pageKey combinator filter = .ok nodes)
    (h : c.compile schema nodes = .ok compiled) :
    ∃ inner : Compiled, property schema .root combinator filter inner ∧
      compiled = ⟨inner.predicate, Compiled.distinctJoins inner.joins⟩ := by
  obtain ⟨reading, hreading, hknown⟩ := bind_eq_ok.1 hnodes
  obtain ⟨inner, hinner, h⟩ := bind_eq_ok.1 h
  cases h
  rw [← FilterReading.known_ok hknown] at hinner
  exact ⟨inner, compileLevel_induct step hreading (.refl _) (Nat.lt_succ_self _) hinner, rfl⟩

theorem compile_induct {property : LevelProperty} (step : c.IsPreserved property)
    {compiled : Compiled} (hnodes : FilterNode.ofMap schema c.pageKey combinator filter = .ok nodes)
    (h : c.compile schema nodes = .ok compiled) :
    ∃ inner : Compiled, property schema .root combinator filter inner ∧
      compiled = ⟨inner.predicate, Compiled.distinctJoins inner.joins⟩ :=
  compile_induct_inOrder step.inOrder hnodes h

end FilterContext

end RowFilter
