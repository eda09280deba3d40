import RowFilter.Proofs.Filter.Value
import RowFilter.Proofs.Json.Reordering

/-!
# Reordered filters compile

A filter map compiles if the same map with its entries in another order does. Every entry of the one
has a related entry in the other, so each node that has to be read and compiled has a counterpart
that was. The conditions of the two are the same but for the order of candidates and of the entries
of nested filters.
-/

namespace RowFilter

/-! ## Conditions -/

theorem Json.upperItems_eq_map (items : List Json) : upperItems items = items.map upper := by
  induction items with
  | nil => rfl
  | cons item rest ih => rw [upperItems, List.map_cons, ih]

theorem Json.Reordered.upper {v v' : Json} (h : v.Reordered v') : v.upper.Reordered v'.upper := by
  induction h with
  | null => exact .null
  | bool b => exact .bool b
  | num n => exact .num n
  | str s => exact .str _
  | arr hlength _ ih =>
    rw [Json.upper, Json.upper, upperItems_eq_map, upperItems_eq_map]
    refine .arr (by simpa using hlength) fun i h h' => ?_
    rw [List.length_map] at h h'
    simpa using ih i h h'
  | obj hkeys hvalues => exact .obj hkeys hvalues

/-- Whether bounds have related ends. -/
inductive Bounds.Reordered : Bounds Json → Bounds Json → Prop
  | between {low low' high high' : Json} (hlow : low.Reordered low')
      (hhigh : high.Reordered high') : Reordered (.between low high) (.between low' high')
  | atLeast {low low' : Json} (hlow : low.Reordered low') : Reordered (.atLeast low) (.atLeast low')
  | atMost {high high' : Json} (hhigh : high.Reordered high') :
      Reordered (.atMost high) (.atMost high')

theorem Bounds.exists_ofEnds? {low low' high high' : Json} {bounds : Bounds Json}
    (hlow : low.Reordered low') (hhigh : high.Reordered high')
    (h : ofEnds? low high = some bounds) :
    ∃ bounds', ofEnds? low' high' = some bounds' ∧ bounds.Reordered bounds' := by
  unfold ofEnds? at h ⊢
  rw [← hlow.isNull_eq, ← hhigh.isNull_eq]
  cases hl : low.isNull <;> cases hr : high.isNull <;> rw [hl, hr] at h <;> cases h
  · exact ⟨_, rfl, .between hlow hhigh⟩
  · exact ⟨_, rfl, .atLeast hlow⟩
  · exact ⟨_, rfl, .atMost hhigh⟩

namespace Condition

/-- Whether two conditions differ only in the order of candidates, each of the second being related
to one of the first, and in the order of object entries. -/
inductive Reordered : Condition → Condition → Prop
  | equals (value : Json) : Reordered (.equals value) (.equals value)
  | like (pattern : String) : Reordered (.like pattern) (.like pattern)
  | isIn {values values' : List Json}
      (hleaves : ∀ leaf' ∈ Json.leavesOfItems values', ∃ leaf ∈ Json.leavesOfItems values,
        leaf.Reordered leaf') : Reordered (.isIn values) (.isIn values')
  | range {bounds bounds' : Bounds Json} (flags : List ControlFlag)
      (hbounds : bounds.Reordered bounds') : Reordered (.range bounds flags) (.range bounds' flags)
  | joined {filter filter' : FilterMap} (hfilter : Json.Reordered (.obj filter) (.obj filter')) :
      Reordered (.joined filter) (.joined filter')

variable {condition condition' : Condition} {fields fields' : FilterMap} {type : DeclaredType}
  {field : String} {value value' : Json}

theorem Reordered.upper (h : condition.Reordered condition') :
    condition.upper.Reordered condition'.upper := by
  cases h with
  | equals value => exact .equals value.upper
  | like pattern => exact .like (Text.upper pattern)
  | isIn hleaves =>
    refine .isIn fun leaf' hleaf' => ?_
    rw [Json.leavesOfItems_upperItems] at hleaf' ⊢
    obtain ⟨leaf', hmem, rfl⟩ := List.mem_map.1 hleaf'
    obtain ⟨leaf, hleaf, hrelated⟩ := hleaves leaf' hmem
    exact ⟨_, List.mem_map_of_mem hleaf, hrelated.upper⟩
  | range flags hbounds => exact .range flags hbounds
  | joined hfilter => exact .joined hfilter

theorem Reordered.isNullTest_eq (h : condition.Reordered condition') :
    condition.isNullTest = condition'.isNullTest := by
  cases h <;> rfl

theorem Reordered.suits_eq {type : ScalarType} (h : condition.Reordered condition') :
    FilterNode.suits type condition = FilterNode.suits type condition' := by
  cases h <;> rfl

theorem isRange_eq (h : Json.Reordered (.obj fields) (.obj fields')) :
    isRange fields = isRange fields' := by
  have hall : (fields.keys.all fun key => key == "from" || key == "to" || key == "flags") =
      fields'.keys.all fun key => key == "from" || key == "to" || key == "flags" := by
    rw [Bool.eq_iff_iff, List.all_eq_true, List.all_eq_true]
    exact forall_congr' fun key => imp_congr_left h.keys_perm.mem_iff
  rw [isRange, isRange, h.contains_eq, h.contains_eq, hall]

/-- Only texts name flags, so what names flags is the same in any order. -/
theorem ofValue_flags (h : value.Reordered value') {flags : List ControlFlag}
    (hflags : ControlFlag.ofValue value = .ok flags) : ControlFlag.ofValue value' = .ok flags := by
  cases h with
  | @arr items items' hlength hitems =>
    obtain ⟨found, hfound, hflags⟩ := bind_eq_ok.1 hflags
    cases hflags
    have hall := forall₂_of_mapM hfound
    have hsame : items' = items := by
      refine List.ext_get hlength.symm fun i h' h => (hitems i h h').eq_of_isScalar ?_
      have hitem := hall.get h (hall.length_eq ▸ h)
      cases hget : items.get ⟨i, h⟩ with
      | str => rfl
      | _ =>
        rw [hget] at hitem
        cases hitem
    rw [hsame, ControlFlag.ofValue, hfound]
    rfl
  | obj => cases hflags
  | _ => exact hflags

theorem exists_ofRange (h : Json.Reordered (.obj fields) (.obj fields'))
    (hrange : ofRange field fields = .ok condition) :
    ∃ condition', ofRange field fields' = .ok condition' ∧ condition.Reordered condition' := by
  obtain ⟨bounds, flags, hbounds, hflags, rfl⟩ := ofRange_ok hrange
  obtain ⟨bounds', hbounds', hrelated⟩ :=
    Bounds.exists_ofEnds? (h.getD_get? "from") (h.getD_get? "to") hbounds
  refine ⟨range bounds' flags, ?_, .range flags hrelated⟩
  rw [ofRange, hbounds', ofValue_flags (h.getD_get? "flags") hflags]
  rfl

theorem reordered_isIn {values values' : List Json}
    (h : ∀ item' ∈ values', ∃ item ∈ values, item'.Reordered item) :
    (isIn values).Reordered (isIn values') := by
  refine .isIn fun leaf' hleaf' => ?_
  obtain ⟨leaf, hleaf, hrelated⟩ := Json.exists_leaf_of_items h hleaf'
  exact ⟨leaf, hleaf, hrelated.symm⟩

theorem exists_ofWritten (h : value.Reordered value')
    (hwritten : ofWritten type field value = .ok condition) :
    ∃ condition', ofWritten type field value' = .ok condition' ∧
      condition.Reordered condition' := by
  cases h with
  | arr hlength hitems =>
    cases hwritten
    have harr := Json.Reordered.arr hlength hitems
    exact ⟨_, rfl, reordered_isIn fun item' hitem' => harr.symm.exists_item hitem'⟩
  | @obj fields fields' hkeys hvalues =>
    have hobj : Json.Reordered (.obj fields) (.obj fields') := .obj hkeys hvalues
    rw [ofWritten] at hwritten ⊢
    rw [← isRange_eq hobj]
    split at hwritten
    · next hrange =>
      rw [if_pos hrange]
      exact exists_ofRange hobj hwritten
    · next hrange =>
      rw [if_neg hrange]
      cases hwritten
      refine ⟨_, rfl, ?_⟩
      split
      · exact .joined hobj
      · refine reordered_isIn fun item' hitem' => ?_
        obtain ⟨entry', hentry', rfl⟩ := List.mem_map.1 hitem'
        obtain ⟨entry, hentry, -, hrelated⟩ := hobj.symm.exists_entry hentry'
        exact ⟨_, List.mem_map_of_mem hentry, hrelated⟩
  | str s =>
    refine ⟨_, hwritten, ?_⟩
    cases hwritten
    split
    · exact .like s
    · exact .equals (.str s)
  | null | bool | num =>
    refine ⟨_, hwritten, ?_⟩
    cases hwritten
    exact .equals _

/-- A value states a condition if it does so in another order. -/
theorem exists_ofValue (h : value.Reordered value')
    (hvalue : ofValue type field value = .ok condition) :
    ∃ condition', ofValue type field value' = .ok condition' ∧ condition.Reordered condition' := by
  obtain ⟨written, hwritten, rfl⟩ := ofValue_ok hvalue
  obtain ⟨written', hwritten', hrelated⟩ := exists_ofWritten h hwritten
  refine ⟨_, by rw [ofValue, hwritten']; rfl, ?_⟩
  split
  · exact hrelated.upper
  · exact hrelated

end Condition

/-! ## Entries and readings -/

/-- Whether two entries state the same of related values. -/
structure FilterEntry.Reordered (e e' : FilterEntry) : Prop where
  negation : e.negation = e'.negation
  key : e.key = e'.key
  value : e.value.Reordered e'.value

theorem FilterEntry.Reordered.field_eq {e e' : FilterEntry} (h : e.Reordered e') :
    e.field = e'.field := by
  rw [FilterEntry.field, FilterEntry.field, h.key]

theorem FilterEntry.Reordered.symm {e e' : FilterEntry} (h : e.Reordered e') : e'.Reordered e :=
  ⟨h.negation.symm, h.key.symm, h.value.symm⟩

/-- Every entry of a filter map has a related one in the map in another order. -/
theorem FilterEntry.exists_of_mem {pageKey : String} {filter filter' : FilterMap}
    (h : Json.Reordered (.obj filter) (.obj filter')) {e : FilterEntry}
    (he : e ∈ ofMap pageKey filter) : ∃ e' ∈ ofMap pageKey filter', e.Reordered e' := by
  obtain ⟨entry, hentry, he⟩ := List.mem_flatMap.1 he
  obtain ⟨entry', hentry', hkey, hvalue⟩ := h.exists_entry hentry
  suffices hsuffices : ∃ e' ∈ ofEntry pageKey entry', e.Reordered e' by
    obtain ⟨e', he', hrelated⟩ := hsuffices
    exact ⟨e', List.mem_flatMap.2 ⟨entry', hentry', he'⟩, hrelated⟩
  unfold ofEntry at he ⊢
  rw [← hkey]
  split at he
  · cases he
  · next hpage =>
    rw [if_neg hpage]
    split at he
    · next hnot =>
      rw [if_pos hnot]
      split at he
      · next negated hnegated =>
        obtain ⟨inner, hinner, rfl⟩ := List.mem_map.1 he
        rw [hnegated] at hvalue
        cases hvalue' : entry'.2 with
        | obj negated' =>
          rw [hvalue'] at hvalue
          obtain ⟨inner', hinner', hkey', hrelated⟩ := hvalue.exists_entry hinner
          exact ⟨_, List.mem_map_of_mem hinner', rfl, hkey', hrelated⟩
        | _ =>
          rw [hvalue'] at hvalue
          cases hvalue
      · cases he
    · next hnot =>
      rw [if_neg hnot, List.mem_singleton.1 he]
      exact ⟨_, List.mem_singleton_self _, rfl, rfl, hvalue⟩

/-- Whether a node that a schema declares has the same condition as another, up to order. -/
structure FilterNode.Reordered (schema : FieldSchema) (n n' : FilterNode) : Prop where
  declared : ∃ kind, schema.get? n.field = some kind ∧ n.type = .ofFieldKind kind
  same : n' = { n with condition := n'.condition }
  condition : n.condition.Reordered n'.condition

/-- Whether two entries of a filter map are read as the same, up to the order of conditions. -/
inductive Reading.Reordered (schema : FieldSchema) : Reading → Reading → Prop
  | node {n n' : FilterNode} (h : n.Reordered schema n') : Reordered schema (.node n) (.node n')
  | unknown (field : String) : Reordered schema (.unknown field) (.unknown field)

section Reading

variable {schema : FieldSchema} {combinator : Combinator} {filter filter' : FilterMap}
  {pageKey : String}

/-- An entry can be read if it can in another order. -/
theorem Reading.exists_ofEntry {e e' : FilterEntry} (h : e.Reordered e') {reading : Reading}
    (hreading : ofEntry schema combinator e = .ok reading) :
    ∃ reading', ofEntry schema combinator e' = .ok reading' ∧
      reading.Reordered schema reading' := by
  unfold ofEntry at hreading ⊢
  rw [← h.field_eq]
  split at hreading
  · cases hreading
    exact ⟨_, rfl, .unknown e.field⟩
  · next kind hkind =>
    obtain ⟨condition, hcondition, hreading⟩ := bind_eq_ok.1 hreading
    cases hreading
    obtain ⟨condition', hcondition', hrelated⟩ := Condition.exists_ofValue h.value hcondition
    refine ⟨_, bind_eq_ok.2 ⟨condition', hcondition', rfl⟩,
      .node ⟨⟨kind, hkind, rfl⟩, ?_, hrelated⟩⟩
    rw [h.negation]

/-- A filter map can be read if it can in another order: each node was a node up to order, and no
name has become unknown. -/
theorem FilterReading.exists_ofMap (h : Json.Reordered (.obj filter) (.obj filter'))
    {reading : FilterReading} (hreading : ofMap schema pageKey combinator filter = .ok reading) :
    ∃ reading', ofMap schema pageKey combinator filter' = .ok reading' ∧
      (∀ n' ∈ reading'.nodes, ∃ n ∈ reading.nodes, n.Reordered schema n') ∧
      ∀ field ∈ reading'.unknown, field ∈ reading.unknown := by
  obtain ⟨readings, hreadings, hreading⟩ := bind_eq_ok.1 hreading
  cases hreading
  have hcover : ∀ e' ∈ FilterEntry.ofMap pageKey filter', ∃ e ∈ FilterEntry.ofMap pageKey filter,
      ∀ reading, Reading.ofEntry schema combinator e = .ok reading →
        ∃ reading', Reading.ofEntry schema combinator e' = .ok reading' ∧
          reading.Reordered schema reading' := by
    intro e' he'
    obtain ⟨e, he, hsymm⟩ := FilterEntry.exists_of_mem h.symm he'
    exact ⟨e, he, fun _ => Reading.exists_ofEntry hsymm.symm⟩
  obtain ⟨readings', hreadings', hrelated⟩ := exists_mapM_of_cover hreadings hcover
  refine ⟨_, bind_eq_ok.2 ⟨readings', hreadings', rfl⟩, fun n' hn' => ?_, fun field hfield => ?_⟩
  · obtain ⟨reading', hreading', hn'⟩ := List.mem_filterMap.1 hn'
    obtain ⟨reading, hreading, hrelated⟩ := hrelated reading' hreading'
    cases hrelated with
    | node hn =>
      cases hn'
      exact ⟨_, List.mem_filterMap.2 ⟨_, hreading, rfl⟩, hn⟩
    | unknown => cases hn'
  · obtain ⟨reading', hreading', hfield⟩ := List.mem_filterMap.1 hfield
    obtain ⟨reading, hreading, hrelated⟩ := hrelated reading' hreading'
    cases hrelated with
    | node => cases hfield
    | unknown => exact List.mem_filterMap.2 ⟨_, hreading, hfield⟩

/-- Names are known in one order if they are in the other. -/
theorem FilterReading.known_of_subset {reading reading' : FilterReading} {entity : String}
    {nodes : List FilterNode} (hunknown : ∀ field ∈ reading'.unknown, field ∈ reading.unknown)
    (h : reading.known entity = .ok nodes) : reading'.known entity = .ok reading'.nodes := by
  unfold known at h ⊢
  split at h
  · next hempty =>
    have hempty' : reading'.unknown = [] := by
      rw [List.isEmpty_iff] at hempty
      rw [hempty] at hunknown
      exact List.eq_nil_iff_forall_not_mem.2 fun field hfield =>
        List.not_mem_nil (hunknown field hfield)
    rw [hempty']
    rfl
  · cases h

end Reading

/-! ## Casts of what a condition compares with -/

namespace FilterContext

variable {c : FilterContext} {schema : FieldSchema} {combinator : Combinator}
  {filter filter' : FilterMap} {type : ScalarType} {path root : Path} {n n' : FilterNode}

theorem eq_of_literal {value value' : Json} {l : Literal} (h : value.Reordered value')
    (hl : c.literal type value = .ok l) : value' = value := by
  obtain ⟨l', hl', -⟩ := bind_eq_ok.1 hl
  exact h.eq_of_isScalar (Casters.isScalar_of_castValue (mapError_eq_ok.1 hl'))

theorem eq_of_convert {bounds bounds' : Bounds Json} {ends : Bounds Literal}
    (h : bounds.Reordered bounds') (hends : bounds.convert (c.literal type) = .ok ends) :
    bounds' = bounds := by
  cases h with
  | between hlow hhigh =>
    obtain ⟨l, hl, hends⟩ := bind_eq_ok.1 hends
    obtain ⟨u, hu, -⟩ := bind_eq_ok.1 hends
    rw [eq_of_literal hlow hl, eq_of_literal hhigh hu]
  | atLeast hend | atMost hend =>
    obtain ⟨l, hl, -⟩ := bind_eq_ok.1 hends
    rw [eq_of_literal hend hl]

/-- Candidates can be cast if each is related to one of those that can. -/
theorem exists_candidates {values values' : List Json} {ls : List Literal}
    (hleaves : ∀ leaf' ∈ Json.leavesOfItems values', ∃ leaf ∈ Json.leavesOfItems values,
      leaf.Reordered leaf') (hls : c.candidates type values = .ok ls) :
    ∃ ls', c.candidates type values' = .ok ls' := by
  obtain ⟨cast, hcast, -⟩ := bind_eq_ok.1 hls
  have hall := Casters.forall₂_of_castList (mapError_eq_ok.1 hcast)
  have hcast' : ∀ leaf' ∈ Json.leavesOfItems values',
      ∃ l, c.casters.castLeaf c.zone type leaf' = .ok l := by
    intro leaf' hleaf'
    obtain ⟨leaf, hleaf, hrelated⟩ := hleaves leaf' hleaf'
    obtain ⟨⟨i, hi⟩, rfl⟩ := List.get_of_mem hleaf
    have hl := hall.get hi (hall.length_eq ▸ hi)
    rw [hrelated.eq_of_isScalar (Casters.isScalar_of_castLeaf hl)]
    exact ⟨_, hl⟩
  obtain ⟨cast', hcast'⟩ := Casters.exists_castList hcast'
  exact ⟨_, bind_eq_ok.2 ⟨cast', mapError_eq_ok.2 hcast', rfl⟩⟩

/-! ## Compiling in another order -/

/-- A condition on a column compiles if it does so in another order. -/
theorem exists_compileValue {p : Predicate} (h : n.condition.Reordered n'.condition)
    (hp : c.compileValue n type path = .ok p) : ∃ p', c.compileValue n' type path = .ok p' := by
  unfold compileValue at hp ⊢
  generalize n.condition = condition at h hp
  generalize n'.condition = condition' at h
  cases h with
  | equals value => cases value <;> exact ⟨p, hp⟩
  | like pattern => exact ⟨_, rfl⟩
  | isIn hleaves =>
    obtain ⟨ls, hls, -⟩ := bind_eq_ok.1 hp
    obtain ⟨ls', hls'⟩ := exists_candidates hleaves hls
    exact ⟨_, bind_eq_ok.2 ⟨ls', hls', rfl⟩⟩
  | range flags hbounds =>
    obtain ⟨ends, hends, -⟩ := bind_eq_ok.1 hp
    rw [eq_of_convert hbounds hends]
    exact ⟨_, bind_eq_ok.2 ⟨ends, hends, rfl⟩⟩
  | joined => cases hp

theorem exists_children {target : FieldSchema} {reading : FilterReading}
    (h : FilterReading.ofMap target c.pageKey combinator filter = .ok reading) :
    ∃ nodes, c.children target combinator filter = .ok nodes ∧ nodes.Perm reading.nodes :=
  ⟨_, bind_eq_ok.2 ⟨reading, h, rfl⟩, StableSort.sort_perm _ _⟩

/-- Whether a filter map compiles in every order on the records of a schema at a path. -/
def CompilesReordered (c : FilterContext) : LevelProperty :=
  fun schema root combinator filter _ =>
    ∀ filter', Json.Reordered (.obj filter) (.obj filter') →
      ∃ reading, FilterReading.ofMap schema c.pageKey combinator filter' = .ok reading ∧
        ∀ fuel nodes, nodes.Perm reading.nodes →
          ∃ compiled, c.compileLevel fuel schema root nodes = .ok compiled

/-- A condition on the key of a relation, or on the identity of its members, compiles once its value
does. -/
theorem exists_compileNode_of_value {r : Relation} {field : String} {p : Predicate} {path : Path}
    {nested : FieldSchema → Path → List FilterNode → Except FilterError Compiled}
    (hkind : schema.get? n.field = some (.relation r)) (htype : n.type = .ofFieldKind (.relation r))
    (hidentity : r.identity = some (field, type)) (hpresent : n.condition.isNullTest = false)
    (hsuits : FilterNode.suits type n.condition = true)
    (hpath : r.cardinality = .one ∧ path = root.child n.field ∨
      r.cardinality = .many ∧ path = (root.child n.field).child field)
    (hp : c.compileValue n type path = .ok p) :
    ∃ part, c.compileNode nested schema root n = .ok part := by
  have hsupported : n.isSupported = true :=
    isSupported_of_suits (by rw [htype, DeclaredType.ofFieldKind, hidentity]; rfl) hsuits
  unfold compileNode
  dsimp only
  rw [if_pos hsupported, htype, hkind]
  dsimp only [DeclaredType.ofFieldKind]
  split
  · next filter hjoined => exact absurd hjoined ((compileValue_ok hp).ne_joined filter)
  · next hnull =>
    rw [hnull] at hpresent
    cases hpresent
  · rw [hidentity]
    rcases hpath with ⟨hone, rfl⟩ | ⟨hmany, rfl⟩
    · rw [hone]
      exact ⟨_, bind_eq_ok.2 ⟨p, hp, rfl⟩⟩
    · rw [hmany]
      exact ⟨_, bind_eq_ok.2 ⟨p, hp, rfl⟩⟩

/-- A node compiles if it does so with its condition in another order. -/
theorem NodeOutcome.exists_compileNode {part : Compiled} (fuel : Nat)
    (h : NodeOutcome c c.CompilesReordered schema root n part) (hn : n.Reordered schema n') :
    ∃ part', c.compileNode (c.compileLevel fuel) schema root n' = .ok part' := by
  obtain ⟨⟨kind, hkind, htype⟩, hsame, hcondition⟩ := hn
  obtain ⟨condition, rfl⟩ : ∃ condition, n' = { n with condition } := ⟨_, hsame⟩
  clear hsame
  cases h with
  | column hscalar hsuits hp =>
    cases hkind.symm.trans hscalar
    obtain ⟨p, hp⟩ := exists_compileValue hcondition hp
    have hsupported : FilterNode.isSupported { n with condition } = true :=
      isSupported_of_suits (by rw [htype]; rfl) (hcondition.suits_eq ▸ hsuits)
    unfold compileNode
    dsimp only
    rw [htype] at hp
    rw [if_pos hsupported, htype]
    exact ⟨_, bind_eq_ok.2 ⟨p, hp, rfl⟩⟩
  | absent hrelation hnull =>
    cases hkind.symm.trans hrelation
    dsimp only at hcondition
    rw [hnull] at hcondition
    cases hcondition
    have hsupported : FilterNode.isSupported { n with condition := .equals .null } = true := by
      unfold FilterNode.isSupported
      cases n.type.valueType? <;> rfl
    unfold compileNode
    dsimp only
    rw [if_pos hsupported, htype, hkind]
    exact ⟨_, rfl⟩
  | key hrelation hone hidentity hpresent hsuits hp =>
    cases hkind.symm.trans hrelation
    obtain ⟨p, hp⟩ := exists_compileValue hcondition hp
    exact exists_compileNode_of_value hkind htype hidentity (hcondition.isNullTest_eq ▸ hpresent)
      (hcondition.suits_eq ▸ hsuits) (.inl ⟨hone, rfl⟩) hp
  | member hrelation hmany hidentity hpresent hsuits hp =>
    cases hkind.symm.trans hrelation
    obtain ⟨p, hp⟩ := exists_compileValue hcondition hp
    exact exists_compileNode_of_value hkind htype hidentity (hcondition.isNullTest_eq ▸ hpresent)
      (hcondition.suits_eq ▸ hsuits) (.inr ⟨hmany, rfl⟩) hp
  | joined hrelation hjoined hinner =>
    cases hkind.symm.trans hrelation
    dsimp only at hcondition
    rw [hjoined] at hcondition
    cases hcondition with
    | @joined _ filter' hfilter =>
      obtain ⟨reading, hreading, hlevel⟩ := hinner filter' hfilter
      obtain ⟨nodes, hnodes, hperm⟩ := exists_children hreading
      obtain ⟨compiled, hcompiled⟩ := hlevel fuel nodes hperm
      have hsupported : FilterNode.isSupported { n with condition := .joined filter' } = true := rfl
      unfold compileNode
      dsimp only
      rw [if_pos hsupported, htype, hkind]
      exact ⟨_, bind_eq_ok.2 ⟨nodes, hnodes, bind_eq_ok.2 ⟨compiled, hcompiled, rfl⟩⟩⟩

/-- Every level compiles in every order if the filters nested in it do. -/
theorem isPreserved_compilesReordered : c.IsPreserved c.CompilesReordered := by
  intro schema root combinator filter reading parts hreading hperm hparts filter' hfilter
  obtain ⟨reading', hreading', hnodes, -⟩ := FilterReading.exists_ofMap hfilter hreading
  refine ⟨reading', hreading', fun fuel nodes hperm' => ?_⟩
  cases fuel with
  | zero => exact ⟨_, rfl⟩
  | succ fuel =>
    have hpieces : ∀ n' ∈ nodes, ∃ part,
        (do
          let part ← c.compileNode (c.compileLevel fuel) schema root n'
          .ok (n'.combinator, part.negated n'.negation)) = .ok part := by
      intro n' hn'
      obtain ⟨n, hn, hrelated⟩ := hnodes n' (hperm'.mem_iff.1 hn')
      obtain ⟨part, hpart, rfl⟩ := List.mem_map.1 (hperm.mem_iff.2 hn)
      obtain ⟨part', hpart'⟩ := (hparts part hpart).exists_compileNode fuel hrelated
      exact ⟨_, bind_eq_ok.2 ⟨part', hpart', rfl⟩⟩
    obtain ⟨pieces, hpieces⟩ := exists_mapM hpieces
    exact ⟨_, bind_eq_ok.2 ⟨pieces, hpieces, rfl⟩⟩

/-- **A filter map compiles if it does so in another order.** -/
theorem exists_compile_of_reordered {nodes : List FilterNode} {compiled : Compiled}
    (h : Json.Reordered (.obj filter) (.obj filter'))
    (hnodes : FilterNode.ofMap schema c.pageKey combinator filter = .ok nodes)
    (hcompile : c.compile schema nodes = .ok compiled) :
    ∃ nodes' compiled', FilterNode.ofMap schema c.pageKey combinator filter' = .ok nodes' ∧
      c.compile schema nodes' = .ok compiled' := by
  obtain ⟨inner, hinner, -⟩ := compile_induct isPreserved_compilesReordered hnodes hcompile
  obtain ⟨reading', hreading', hlevel⟩ := hinner filter' h
  obtain ⟨compiled', hcompiled'⟩ := hlevel (depth reading'.nodes + 1) reading'.nodes (.refl _)
  refine ⟨reading'.nodes, _, bind_eq_ok.2 ⟨reading', hreading', ?_⟩,
    bind_eq_ok.2 ⟨compiled', hcompiled', rfl⟩⟩
  obtain ⟨reading, hreading, hknown⟩ := bind_eq_ok.1 hnodes
  obtain ⟨found, hfound, -, hunknown⟩ := FilterReading.exists_ofMap h hreading
  cases hreading'.symm.trans hfound
  exact FilterReading.known_of_subset hunknown hknown

end FilterContext

end RowFilter
