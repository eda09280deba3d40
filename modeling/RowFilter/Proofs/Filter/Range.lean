import RowFilter.Proofs.Filter.Typing
import RowFilter.Proofs.Filter.Union
import RowFilter.Proofs.Literal.Ranking
import RowFilter.Proofs.Query.OwnFields

/-!
# Ranges include their bounds

A range on a column is true of the values that meet each of its bounds: those that collate on the
right side of it or as equal and, where the range is one of times of day too, show a time of day
that does. So a range of two bounds is what the ranges of one bound have in common, and nothing lies
in one whose bounds are the wrong way around.
-/

namespace RowFilter

/-! ## Comparisons that are true -/

/-- Only values that are there have an order. -/
theorem Literal.isNull_of_collate {a b : Literal} {o : Ordering} (h : a.collate b = some o) :
    a.isNull = false ∧ b.isNull = false := by
  rw [← Bool.or_eq_false_iff, Bool.eq_false_iff]
  intro hnull
  rw [collate_eq_none (by simpa using hnull)] at h
  cases h

namespace Predicate

variable {R : Type} [Filterable R] {b : Binding R} {expr : Expr} {operator : Comparison}
  {v l low high : Literal}

/-- A comparison with a literal is true where the two have an order and the operator holds of it. -/
theorem evaluate_compare_eq_true (hoperator : operator ≠ .isIn) (hexpr : expr.evaluate b = .ok v) :
    (compare expr operator (.literal l)).evaluate b = .ok (some .true) ↔
      ∃ o, v.collate l = some o ∧ operator.holds o = .true := by
  rw [evaluate_compare hoperator, hexpr, Expr.evaluate_literal]
  by_cases hnull : (v.isNull || l.isNull) = .true
  · rw [Literal.collate_eq_none (by simpa using hnull)]
    simp [bind, Except.bind, hnull]
  · cases hcollate : v.collate l <;>
      simp [bind, Except.bind, hnull, collateOrMismatch, hcollate]

/-- A value lies between two literals where it compares with each of them as it should. -/
theorem evaluate_between_eq_true (hexpr : expr.evaluate b = .ok v) :
    (between expr (.literal low) (.literal high)).evaluate b = .ok (some .true) ↔
      (∃ o, v.collate low = some o ∧ Comparison.greaterThanOrEqual.holds o = .true) ∧
        ∃ o, v.collate high = some o ∧ Comparison.lessThanOrEqual.holds o = .true := by
  rw [evaluate, hexpr, Expr.evaluate_literal, Expr.evaluate_literal]
  change isBetween v low high = _ ↔ _
  unfold isBetween
  by_cases hnull : (v.isNull || low.isNull || high.isNull) = .true
  · rw [if_pos hnull]
    refine iff_of_false nofun ?_
    rintro ⟨⟨_, hlow, _⟩, _, hhigh, _⟩
    obtain ⟨hv, hlow⟩ := Literal.isNull_of_collate hlow
    rw [hv, hlow, (Literal.isNull_of_collate hhigh).2] at hnull
    cases hnull
  · rw [if_neg hnull, Literal.inRange?, RangeBound.admitsAbove, RangeBound.admitsBelow]
    cases v.collate low <;> cases v.collate high <;> simp [Comparison.holds]

end Predicate

theorem Casters.fits_or_string_of_castValue {casters : Casters} {zone : Civil.LocalZone}
    {type : ScalarType} {value : Json} {l : Literal} (htype : type.kind ≠ .other)
    (h : casters.castValue zone type value = .ok l) : l.Fits type.kind ∨ ∃ s, l = .string s := by
  have htext {raw : String} (h : casters.castText zone type raw = .ok l) :
      l.Fits type.kind ∨ ∃ s, l = .string s := by
    obtain ⟨found, hfound, h⟩ := bind_eq_ok.1 h
    cases h
    unfold cast at hfound
    split at hfound
    · cases found with
      | none => exact .inl Literal.fits_null
      | some l => exact .inl (.inr (Cast.kind_of_toLiteral htype hfound))
    · cases hfound
      exact .inr ⟨_, rfl⟩
  cases value with
  | null =>
    cases h
    exact .inl Literal.fits_null
  | str | num | bool => exact htext h
  | arr | obj => cases h

namespace FilterContext

variable {R : Type} [Filterable R] {b : Binding R} {c : FilterContext} {schema : FieldSchema}
  {combinator : Combinator} {key : String} {kind : FieldKind} {type : ScalarType} {path : Path}
  {flags : List ControlFlag} {v l bound : Literal} {operator : Comparison} {ends : Bounds Literal}
  {compiled : Compiled} {fields fields' : FilterMap} {low? high? flags? : Option Json}

/-! ## Values that meet a bound -/

/-- Whether a value of a type is on the right side of a bound, the bound itself included, and with
the flag for times of day its time of day, in UTC, is on that side of the bound's. -/
structure Meets (type : ScalarType) (flags : List ControlFlag) (v : Literal)
    (operator : Comparison) (bound : Literal) : Prop where
  present : v.isNull = false
  collates : ∃ o, (folded type v).collate bound = some o ∧ operator.holds o = true
  clock : .timeOfDay ∈ flags → ∃ t u, v.timeOfDay? = some t ∧ bound.timeOfDay? = some u ∧
    operator.holds (t.order u) = true

/-- What has an order with a value that shows a time of day shows one as well. -/
theorem exists_timeOfDay_of_collate {o : Ordering} (hv : v.kind? = some type.kind)
    (htype : type.hasTimeOfDay = true) (h : v.collate bound = some o) :
    ∃ u, bound.timeOfDay? = some u := by
  cases type <;> cases htype <;> cases v <;> cases hv <;> cases bound <;>
    first
    | exact ⟨_, rfl⟩
    | cases h

theorem evaluate_timeOfDay_eq_true {t : Civil.Time} (hoperator : operator ≠ .isIn)
    (hpath : (Expr.path path).evaluate b = .ok v) :
    (Predicate.compare (.timeOfDay (.path path)) operator (.literal (.time t))).evaluate b =
        .ok (some true) ↔
      ∃ u, v.timeOfDay? = some u ∧ operator.holds (u.order t) = true := by
  constructor
  · intro htrue
    have hevaluates := htrue
    rw [Predicate.evaluate_compare hoperator] at hevaluates
    obtain ⟨l, hexpr, _⟩ := bind_eq_ok.1 hevaluates
    obtain ⟨o, ho, hholds⟩ := (Predicate.evaluate_compare_eq_true hoperator hexpr).1 htrue
    rw [clock_of_timeOfDay (fun _ hv => Except.ok.inj (hv.symm.trans hpath)) hexpr,
      Literal.clock] at ho
    cases hclock : v.timeOfDay? with
    | none =>
      rw [hclock] at ho
      cases ho
    | some u =>
      rw [hclock] at ho
      cases ho
      exact ⟨u, rfl, hholds⟩
  · rintro ⟨u, hclock, hholds⟩
    have hexpr : (Expr.timeOfDay (.path path)).evaluate b = .ok (.time u) := by
      rw [Expr.evaluate_timeOfDay, hpath]
      simp [bind, Except.bind, hclock]
    exact (Predicate.evaluate_compare_eq_true hoperator hexpr).2 ⟨_, rfl, hholds⟩

/-- The predicate of a range whose bounds have been cast. -/
def rangePredicate (type : ScalarType) (path : Path) (flags : List ControlFlag)
    (ends : Bounds Literal) : Predicate :=
  (if flags.contains .timeOfDay then timePredicates path ends else []).foldl .and
    (boundsPredicate (column type path) ends)

theorem isNull_folded (type : ScalarType) (v : Literal) : (folded type v).isNull = v.isNull := by
  unfold folded
  split
  · cases v <;> rfl
  · rfl

theorem evaluate_boundsPredicate_eq_true {expr : Expr} (hexpr : expr.evaluate b = .ok v) :
    (boundsPredicate expr ends).evaluate b = .ok (some true) ↔
      ∀ bound ∈ ends.ends, ∃ o, v.collate bound.2 = some o ∧ bound.1.holds o = true := by
  cases ends with
  | between low high =>
    simp only [Bounds.ends, Bounds.low?, Bounds.high?, Option.map_some, Option.toList_some,
      List.singleton_append, List.forall_mem_cons, List.not_mem_nil, false_implies, implies_true,
      and_true]
    exact Predicate.evaluate_between_eq_true hexpr
  | atLeast low =>
    simp only [Bounds.ends, Bounds.low?, Bounds.high?, Option.map_some, Option.toList_some,
      Option.map_none, Option.toList_none, List.append_nil, List.forall_mem_singleton]
    exact Predicate.evaluate_compare_eq_true (by decide) hexpr
  | atMost high =>
    simp only [Bounds.ends, Bounds.low?, Bounds.high?, Option.map_some, Option.toList_some,
      Option.map_none, Option.toList_none, List.nil_append, List.forall_mem_singleton]
    exact Predicate.evaluate_compare_eq_true (by decide) hexpr

/-- A range is true of the values that meet its bounds. -/
theorem evaluate_rangePredicate_eq_true (hpath : (Expr.path path).evaluate b = .ok v)
    (hfits : v.Fits type.kind) (hflags : .timeOfDay ∈ flags → type.hasTimeOfDay = true) :
    (rangePredicate type path flags ends).evaluate b = .ok (some true) ↔
      ∀ bound ∈ ends.ends, Meets type flags v bound.1 bound.2 := by
  obtain ⟨l, hcolumn, _⟩ := evaluate_column hpath hfits
  have hfolded : l = folded type v :=
    folded_of_column (fun _ hv => Except.ok.inj (hv.symm.trans hpath)) hcolumn
  subst hfolded
  rw [rangePredicate, Predicate.evaluate_foldl_and_eq_true, List.forall_mem_cons,
    evaluate_boundsPredicate_eq_true hcolumn]
  constructor
  · rintro ⟨hcollates, htimes⟩ bound hbound
    obtain ⟨o, ho, hholds⟩ := hcollates bound hbound
    have hpresent : v.isNull = false :=
      (isNull_folded type v).symm.trans (Literal.isNull_of_collate ho).1
    refine ⟨hpresent, ⟨o, ho, hholds⟩, fun hflag => ?_⟩
    have htype := hflags hflag
    have hkept : folded type v = v := by
      cases type <;> cases htype <;> rfl
    -- the bound shows a time of day, so there is a condition on it
    obtain ⟨u, hu⟩ :=
      exists_timeOfDay_of_collate (hfits.kind_of_not_null hpresent) htype (hkept ▸ ho)
    rw [if_pos (List.contains_iff_mem.2 hflag), timePredicates_eq] at htimes
    have htrue := htimes _ (List.mem_filterMap.2 ⟨bound, hbound, by rw [hu]; rfl⟩)
    have hoperator : bound.1 ≠ .isIn := by
      rcases Bounds.operator_of_mem_ends hbound with h | h <;> rw [h] <;> decide
    obtain ⟨t, ht, hholds⟩ := (evaluate_timeOfDay_eq_true hoperator hpath).1 htrue
    exact ⟨t, u, ht, hu, hholds⟩
  · intro hmeets
    refine ⟨fun bound hbound => (hmeets bound hbound).collates, fun q hq => ?_⟩
    split at hq
    · next hflag =>
      rw [timePredicates_eq] at hq
      obtain ⟨bound, hbound, hq⟩ := List.mem_filterMap.1 hq
      obtain ⟨u, hu, rfl⟩ := Option.map_eq_some_iff.1 hq
      obtain ⟨t, u', ht, hu', hholds⟩ :=
        (hmeets bound hbound).clock (List.contains_iff_mem.1 hflag)
      cases hu.symm.trans hu'
      have hoperator : bound.1 ≠ .isIn := by
        rcases Bounds.operator_of_mem_ends hbound with h | h <;> rw [h] <;> decide
      exact (evaluate_timeOfDay_eq_true hoperator hpath).2 ⟨t, ht, hholds⟩
    · cases hq

/-! ## Compiling a range -/

/-- Whether the entries of an object state a range: its bounds and flags where they are, and
nothing else. -/
structure StatesRange (fields : FilterMap) (low? high? flags? : Option Json) : Prop where
  low : fields.get? "from" = low?
  high : fields.get? "to" = high?
  flags : fields.get? "flags" = flags?
  keys : ∀ name ∈ fields.keys, name = "from" ∨ name = "to" ∨ name = "flags"

theorem StatesRange.isRange (h : StatesRange fields low? high? flags?)
    (hbound : low?.isSome = true ∨ high?.isSome = true) : Condition.isRange fields = true := by
  simp only [Condition.isRange, Keyed.contains, h.low, h.high, Bool.and_eq_true, Bool.or_eq_true,
    List.all_eq_true, beq_iff_eq, or_assoc]
  exact ⟨hbound, h.keys⟩

/-- A range is read as it is written, on text as elsewhere. -/
theorem ofValue_range {declared : DeclaredType} {field : String}
    (hrange : Condition.isRange fields = true) :
    Condition.ofValue declared field (.obj fields) = Condition.ofRange field fields := by
  rw [Condition.ofValue, Condition.ofWritten, if_pos hrange]
  cases hcondition : Condition.ofRange field fields with
  | error e => rfl
  | ok condition =>
    obtain ⟨bounds, flags, _, _, rfl⟩ := Condition.ofRange_ok hcondition
    by_cases htext : declared.isText = true
    · exact congrArg Except.ok (if_pos htext)
    · exact congrArg Except.ok (if_neg htext)

/-- Only what an object gives for its bounds and flags matters, and a null counts as nothing. -/
theorem compileMap_range_congr (hkey : c.NamesField schema key kind)
    (hrange : Condition.isRange fields = true) (hrange' : Condition.isRange fields' = true)
    (hfrom : (fields.get? "from").getD .null = (fields'.get? "from").getD .null)
    (hto : (fields.get? "to").getD .null = (fields'.get? "to").getD .null)
    (hflags : (fields.get? "flags").getD .null = (fields'.get? "flags").getD .null) :
    c.compileMap schema combinator [(key, .obj fields)] =
      c.compileMap schema combinator [(key, .obj fields')] := by
  have hread : Reading.ofEntry schema combinator ⟨.none, key, .obj fields⟩ =
      Reading.ofEntry schema combinator ⟨.none, key, .obj fields'⟩ := by
    unfold Reading.ofEntry FilterEntry.field
    rw [hkey.declared]
    simp only [ofValue_range hrange, ofValue_range hrange', Condition.ofRange, hfrom, hto, hflags]
  unfold compileMap FilterNode.ofMap FilterReading.ofMap
  rw [FilterEntry.ofMap_singleton hkey.notPage hkey.notNegation,
    FilterEntry.ofMap_singleton hkey.notPage hkey.notNegation, List.mapM_cons, List.mapM_cons,
    hread]

/-- A range on a column compiles if it has a bound, its flags can be read, the type has the order
and the time of day that it asks for, and its bounds can be cast. -/
theorem compileMap_range (hkey : c.NamesField schema key kind)
    (htype : kind.columnType? = some type) (hrange : Condition.isRange fields = true) :
    c.compileMap schema combinator [(key, .obj fields)] = .ok compiled ↔
      ∃ bounds flags ends,
        Bounds.ofEnds? ((fields.get? "from").getD .null) ((fields.get? "to").getD .null) =
          some bounds ∧
        ControlFlag.ofValue ((fields.get? "flags").getD .null) = .ok flags ∧
        FilterNode.suits type (.range bounds flags) = true ∧
        bounds.convert (c.literal type) = .ok ends ∧
        compiled =
          ⟨rangePredicate type (Path.root.child (Naming.camelCase key)) flags ends, []⟩ := by
  have hcolumn : schema.HasColumn key (.obj fields) kind type :=
    ⟨hkey.declared, htype, fun _ => if_pos hrange⟩
  rw [compileMap_column (FilterEntry.ofMap_singleton hkey.notPage hkey.notNegation) hcolumn]
  simp only [columnOutcome_iff hcolumn, ofValue_range hrange]
  constructor
  · rintro ⟨p, ⟨condition, hcondition, hsuits, hp⟩, rfl⟩
    obtain ⟨bounds, flags, hbounds, hflags, rfl⟩ := Condition.ofRange_ok hcondition
    cases hp with
    | range hends => exact ⟨bounds, flags, _, hbounds, hflags, hsuits, hends, rfl⟩
  · rintro ⟨bounds, flags, ends, hbounds, hflags, hsuits, hends, rfl⟩
    refine ⟨_, ⟨.range bounds flags, ?_, hsuits, .range hends⟩, rfl⟩
    rw [Condition.ofRange, hbounds]
    dsimp only
    rw [hflags]
    rfl

/-! ## Bounds the wrong way around -/

theorem fits_folded (h : v.Fits type.kind) : (folded type v).Fits type.comparedKind := by
  unfold folded ScalarType.comparedKind
  split
  · next htext =>
    rcases h with rfl | hkind
    · exact Literal.fits_null
    · cases type <;> cases htext <;> cases v <;> cases hkind <;> exact .inr rfl
  · exact h

/-- What a value is cast to is of the kind that the type compares, or a text that no caster has
taken. -/
theorem fits_or_string_of_literal {value : Json} (htype : type.kind ≠ .other)
    (h : c.literal type value = .ok l) : l.Fits type.comparedKind ∨ ∃ s, l = .string s := by
  obtain ⟨found, hfound, rfl⟩ := literal_eq_ok.1 h
  have hcast : found.Fits type.kind ∨ ∃ s, found = .string s :=
    Casters.fits_or_string_of_castValue htype hfound
  unfold ScalarType.comparedKind
  split
  · next htext =>
    rcases hcast with hfits | ⟨s, rfl⟩
    · exact .inl (hfits.upper htext)
    · exact .inr ⟨_, rfl⟩
  · exact hcast

/-- A bound that a value of the type has an order with is of the kind that the type compares. -/
theorem kind_of_collate {value : Json} {o : Ordering} (htype : type.kind.isOrdered = true)
    (henum : type.isEnum = false) (hfits : v.Fits type.kind)
    (hliteral : c.literal type value = .ok l) (h : (folded type v).collate l = some o) :
    l.kind? = some type.comparedKind := by
  obtain ⟨hpresent, hbound⟩ := Literal.isNull_of_collate h
  rcases fits_or_string_of_literal (ScalarKind.ne_other_of_isOrdered htype) hliteral with
    hl | ⟨s, rfl⟩
  · exact hl.kind_of_not_null hbound
  · have hkind := (fits_folded hfits).kind_of_not_null hpresent
    generalize folded type v = value at h hkind
    cases type <;> cases htype <;> cases henum <;> cases value <;> cases hkind <;>
      first
      | rfl
      | cases h

/-- No value meets two bounds of which the lower one comes after the upper one. -/
theorem not_meets_of_collate_gt {low high : Json} {h : Literal} (htype : type.kind.isOrdered = true)
    (henum : type.isEnum = false) (hfits : v.Fits type.kind)
    (hlow : c.literal type low = .ok l) (hhigh : c.literal type high = .ok h)
    (hgt : l.collate h = some .gt) :
    ¬ (Meets type flags v .greaterThanOrEqual l ∧ Meets type flags v .lessThanOrEqual h) := by
  rintro ⟨⟨_, ⟨o, ho, hholds⟩, _⟩, _, ⟨o', ho', hholds'⟩, _⟩
  have hkind := (fits_folded hfits).kind_of_not_null (Literal.isNull_of_collate ho).1
  refine Literal.collate_trans (ScalarType.isOrdered_comparedKind htype)
    (kind_of_collate htype henum hfits hlow ho) hkind (kind_of_collate htype henum hfits hhigh ho')
    ?_ ?_ hgt
  · rw [Literal.collate_swap, ho]
    cases o with
    | lt => cases hholds
    | eq | gt => exact nofun
  · rw [ho']
    rintro ⟨⟩
    cases hholds'

/-! ## The parts of a range -/

/-- What a range on a column with one bound or both compiles to. -/
theorem compileMap_states (hkey : c.NamesField schema key kind)
    (htype : kind.columnType? = some type) {bounds : Bounds Json}
    (hfields : StatesRange fields low? high? flags?)
    (hbounds : Bounds.ofEnds? (low?.getD .null) (high?.getD .null) = some bounds) :
    c.compileMap schema combinator [(key, .obj fields)] = .ok compiled ↔
      ∃ flags ends, ControlFlag.ofValue (flags?.getD .null) = .ok flags ∧
        FilterNode.suits type (.range bounds flags) = true ∧
        bounds.convert (c.literal type) = .ok ends ∧
        compiled =
          ⟨rangePredicate type (Path.root.child (Naming.camelCase key)) flags ends, []⟩ := by
  have hrange : Condition.isRange fields = true := by
    refine hfields.isRange ?_
    cases low? with
    | some low => exact .inl rfl
    | none =>
      cases high? with
      | some high => exact .inr rfl
      | none => cases hbounds
  rw [compileMap_range hkey htype hrange, hfields.low, hfields.high, hfields.flags, hbounds]
  constructor
  · rintro ⟨_, flags, ends, ⟨⟩, h⟩
    exact ⟨flags, ends, h⟩
  · rintro ⟨flags, ends, h⟩
    exact ⟨bounds, flags, ends, rfl, h⟩

/-- Whether a type has the order and the time of day that a range with some flags asks for. -/
def SuitsRange (type : ScalarType) (flags : List ControlFlag) : Prop :=
  (type.isBool = false ∧ type.isEnum = false) ∧ (.timeOfDay ∈ flags → type.hasTimeOfDay = true)

theorem suits_range {bounds : Bounds Json} :
    FilterNode.suits type (.range bounds flags) = true ↔ SuitsRange type flags := by
  simp only [FilterNode.suits, Condition.flags, Bool.and_eq_true, Bool.or_eq_true,
    Bool.not_eq_true', SuitsRange, ← List.contains_iff_mem, ← Bool.not_eq_true, imp_iff_not_or]

section

variable {low high : Json}

theorem compileMap_between (hkey : c.NamesField schema key kind)
    (htype : kind.columnType? = some type) (hlow : low.isNull = false) (hhigh : high.isNull = false)
    (hfields : StatesRange fields (some low) (some high) flags?) :
    c.compileMap schema combinator [(key, .obj fields)] = .ok compiled ↔
      ∃ flags l h, ControlFlag.ofValue (flags?.getD .null) = .ok flags ∧ SuitsRange type flags ∧
        c.literal type low = .ok l ∧ c.literal type high = .ok h ∧
        compiled = ⟨rangePredicate type (Path.root.child (Naming.camelCase key)) flags
          (.between l h), []⟩ := by
  have hbounds : Bounds.ofEnds? low high = some (.between low high) := by
    rw [Bounds.ofEnds?, hlow, hhigh]
  rw [compileMap_states hkey htype hfields hbounds]
  simp only [suits_range, Bounds.convert, bind_eq_ok]
  constructor
  · rintro ⟨flags, _, hflags, hsuits, ⟨l, hl, h, hh, ⟨⟩⟩, rfl⟩
    exact ⟨flags, l, h, hflags, hsuits, hl, hh, rfl⟩
  · rintro ⟨flags, l, h, hflags, hsuits, hl, hh, rfl⟩
    exact ⟨flags, _, hflags, hsuits, ⟨l, hl, h, hh, rfl⟩, rfl⟩

theorem compileMap_atLeast (hkey : c.NamesField schema key kind)
    (htype : kind.columnType? = some type) (hlow : low.isNull = false)
    (hfields : StatesRange fields (some low) none flags?) :
    c.compileMap schema combinator [(key, .obj fields)] = .ok compiled ↔
      ∃ flags l, ControlFlag.ofValue (flags?.getD .null) = .ok flags ∧ SuitsRange type flags ∧
        c.literal type low = .ok l ∧
        compiled = ⟨rangePredicate type (Path.root.child (Naming.camelCase key)) flags
          (.atLeast l), []⟩ := by
  have hbounds : Bounds.ofEnds? low .null = some (.atLeast low) := by
    rw [Bounds.ofEnds?, hlow]
    rfl
  rw [compileMap_states hkey htype hfields hbounds]
  simp only [suits_range, Bounds.convert, bind_eq_ok]
  constructor
  · rintro ⟨flags, _, hflags, hsuits, ⟨l, hl, ⟨⟩⟩, rfl⟩
    exact ⟨flags, l, hflags, hsuits, hl, rfl⟩
  · rintro ⟨flags, l, hflags, hsuits, hl, rfl⟩
    exact ⟨flags, _, hflags, hsuits, ⟨l, hl, rfl⟩, rfl⟩

theorem compileMap_atMost (hkey : c.NamesField schema key kind)
    (htype : kind.columnType? = some type) (hhigh : high.isNull = false)
    (hfields : StatesRange fields none (some high) flags?) :
    c.compileMap schema combinator [(key, .obj fields)] = .ok compiled ↔
      ∃ flags h, ControlFlag.ofValue (flags?.getD .null) = .ok flags ∧ SuitsRange type flags ∧
        c.literal type high = .ok h ∧
        compiled = ⟨rangePredicate type (Path.root.child (Naming.camelCase key)) flags
          (.atMost h), []⟩ := by
  have hbounds : Bounds.ofEnds? .null high = some (.atMost high) := by
    rw [Bounds.ofEnds?, hhigh]
    rfl
  rw [compileMap_states hkey htype hfields hbounds]
  simp only [suits_range, Bounds.convert, bind_eq_ok]
  constructor
  · rintro ⟨flags, _, hflags, hsuits, ⟨h, hh, ⟨⟩⟩, rfl⟩
    exact ⟨flags, h, hflags, hsuits, hh, rfl⟩
  · rintro ⟨flags, h, hflags, hsuits, hh, rfl⟩
    exact ⟨flags, _, hflags, hsuits, ⟨h, hh, rfl⟩, rfl⟩

/-- A bound that is null counts as absent, where there is another one. -/
theorem compileMap_null_bound (hkey : c.NamesField schema key kind)
    (hfields : StatesRange fields low? high? flags?)
    (hfields' : StatesRange fields' low?' high?' flags?)
    (hlow : low?.getD .null = low?'.getD .null) (hhigh : high?.getD .null = high?'.getD .null)
    (hbound : low?.isSome = true ∨ high?.isSome = true)
    (hbound' : low?'.isSome = true ∨ high?'.isSome = true) :
    c.compileMap schema combinator [(key, .obj fields)] =
      c.compileMap schema combinator [(key, .obj fields')] := by
  refine compileMap_range_congr hkey (hfields.isRange hbound) (hfields'.isRange hbound') ?_ ?_ ?_
  · rw [hfields.low, hfields'.low, hlow]
  · rw [hfields.high, hfields'.high, hhigh]
  · rw [hfields.flags, hfields'.flags]

end

theorem evaluate_own_field {record : R} {field : String}
    (hvalue : (Filterable.value? record field).getD .null = v) :
    (Expr.path (Path.root.child field)).evaluate (Binding.root record) = .ok v := by
  simp [Expr.evaluate_path, hvalue]

/-- A record passes a range if the value of its field meets the bounds. -/
theorem passes_rangePredicate {record : R} {field : String}
    (hvalue : (Filterable.value? record field).getD .null = v) (hfits : v.Fits type.kind)
    (hsuits : SuitsRange type flags) :
    (rangePredicate type (Path.root.child field) flags ends).passes record [] = .ok true ↔
      ∀ bound ∈ ends.ends, Meets type flags v bound.1 bound.2 := by
  rw [Predicate.passes_alone_iff,
    evaluate_rangePredicate_eq_true (evaluate_own_field hvalue) hfits hsuits.2]

/-- With the built-in casters a range can be decided on every record. -/
theorem exists_passes_rangePredicate {record : R} {field : String} {bounds : Bounds Json}
    (hcasters : c.casters = .builtIn) (htype : type.kind.isOrdered = true)
    (hvalue : (Filterable.value? record field).getD .null = v) (hfits : v.Fits type.kind)
    (hsuits : SuitsRange type flags) (hends : bounds.convert (c.literal type) = .ok ends) :
    ∃ found, (rangePredicate type (Path.root.child field) flags ends).passes record [] =
      .ok found := by
  have houtcome : ValueOutcome c type (Path.root.child field) (.range bounds flags)
      (rangePredicate type (Path.root.child field) flags ends) := .range hends
  obtain ⟨t, ht⟩ := houtcome.evaluates (suits_range.2 hsuits) hcasters htype
    (evaluate_own_field hvalue) hfits
  exact ⟨_, Predicate.passes_alone.2 ⟨t, ht, rfl⟩⟩

/-- **A range includes its bounds, and is the intersection of its halves.** A range of two bounds on
a column compiles if the ranges of one bound with the same flags do. It is true of a record exactly
if both of them are, and each of these is true exactly if the value meets its bound. So no record is
in a range whose lower bound comes after the upper one. A bound that is null counts as absent. -/
theorem range_includes_bounds (R : Type) [Filterable R] (combinator : Combinator)
    (hkey : c.NamesField schema key kind) (htype : kind.columnType? = some type)
    (hordered : type.kind.isOrdered = true) {low high : Json} (hlow : low.isNull = false)
    (hhigh : high.isNull = false) {both lower upper : FilterMap}
    (hboth : StatesRange both (some low) (some high) flags?)
    (hlower : StatesRange lower (some low) none flags?)
    (hupper : StatesRange upper none (some high) flags?) :
    ((∃ compiled, c.compileMap schema combinator [(key, .obj both)] = .ok compiled) ↔
      (∃ first, c.compileMap schema combinator [(key, .obj lower)] = .ok first) ∧
        ∃ last, c.compileMap schema combinator [(key, .obj upper)] = .ok last) ∧
    (∀ compiled first last, c.compileMap schema combinator [(key, .obj both)] = .ok compiled →
      c.compileMap schema combinator [(key, .obj lower)] = .ok first →
      c.compileMap schema combinator [(key, .obj upper)] = .ok last →
      ∃ flags l h, ControlFlag.ofValue (flags?.getD .null) = .ok flags ∧
        c.literal type low = .ok l ∧ c.literal type high = .ok h ∧
        ∀ (record : R) (v : Literal),
          (Filterable.value? record (Naming.camelCase key)).getD .null = v → v.Fits type.kind →
          (compiled.predicate.passes record compiled.joins = .ok true ↔
            first.predicate.passes record first.joins = .ok true ∧
              last.predicate.passes record last.joins = .ok true) ∧
          (first.predicate.passes record first.joins = .ok true ↔
            Meets type flags v .greaterThanOrEqual l) ∧
          (last.predicate.passes record last.joins = .ok true ↔
            Meets type flags v .lessThanOrEqual h) ∧
          (l.collate h = some .gt → compiled.predicate.passes record compiled.joins ≠ .ok true) ∧
          (c.casters = .builtIn →
            ∃ found, compiled.predicate.passes record compiled.joins = .ok found)) ∧
    (∀ fields, StatesRange fields (some .null) (some high) flags? →
      c.compileMap schema combinator [(key, .obj fields)] =
        c.compileMap schema combinator [(key, .obj upper)]) ∧
    ∀ fields, StatesRange fields (some low) (some .null) flags? →
      c.compileMap schema combinator [(key, .obj fields)] =
        c.compileMap schema combinator [(key, .obj lower)] := by
  refine ⟨?_, ?_, fun fields hfields => ?_, fun fields hfields => ?_⟩
  · simp only [compileMap_between hkey htype hlow hhigh hboth,
      compileMap_atLeast hkey htype hlow hlower, compileMap_atMost hkey htype hhigh hupper]
    constructor
    · rintro ⟨_, flags, l, h, hflags, hsuits, hl, hh, -⟩
      exact ⟨⟨_, flags, l, hflags, hsuits, hl, rfl⟩, _, flags, h, hflags, hsuits, hh, rfl⟩
    · rintro ⟨⟨_, flags, l, hflags, hsuits, hl, -⟩, _, _, h, -, -, hh, -⟩
      exact ⟨_, flags, l, h, hflags, hsuits, hl, hh, rfl⟩
  · intro compiled first last hcompiled hfirst hlast
    obtain ⟨flags, l, h, hflags, hsuits, hl, hh, rfl⟩ :=
      (compileMap_between hkey htype hlow hhigh hboth).1 hcompiled
    obtain ⟨_, _, hflags', -, hl', rfl⟩ := (compileMap_atLeast hkey htype hlow hlower).1 hfirst
    cases hflags.symm.trans hflags'
    cases hl.symm.trans hl'
    obtain ⟨_, _, hflags', -, hh', rfl⟩ := (compileMap_atMost hkey htype hhigh hupper).1 hlast
    cases hflags.symm.trans hflags'
    cases hh.symm.trans hh'
    refine ⟨flags, l, h, hflags, hl, hh, fun record v hvalue hfits => ?_⟩
    have hbetween :
        (rangePredicate type (Path.root.child (Naming.camelCase key)) flags
          (.between l h)).passes record [] = .ok true ↔
        Meets type flags v .greaterThanOrEqual l ∧ Meets type flags v .lessThanOrEqual h :=
      (passes_rangePredicate hvalue hfits hsuits).trans <|
        List.forall_mem_cons.trans (and_congr_right' List.forall_mem_singleton)
    have hatLeast :
        (rangePredicate type (Path.root.child (Naming.camelCase key)) flags
          (.atLeast l)).passes record [] = .ok true ↔ Meets type flags v .greaterThanOrEqual l :=
      (passes_rangePredicate hvalue hfits hsuits).trans List.forall_mem_singleton
    have hatMost :
        (rangePredicate type (Path.root.child (Naming.camelCase key)) flags
          (.atMost h)).passes record [] = .ok true ↔ Meets type flags v .lessThanOrEqual h :=
      (passes_rangePredicate hvalue hfits hsuits).trans List.forall_mem_singleton
    refine ⟨?_, hatLeast, hatMost, fun hgt => ?_, fun hcasters => ?_⟩
    · rw [hbetween, hatLeast, hatMost]
    · rw [ne_eq, hbetween]
      exact not_meets_of_collate_gt hordered hsuits.1.2 hfits hl hh hgt
    · have hends : (Bounds.between low high).convert (c.literal type) = .ok (.between l h) := by
        rw [Bounds.convert, hl, hh]
        rfl
      exact exists_passes_rangePredicate hcasters hordered hvalue hfits hsuits hends
  · exact compileMap_null_bound hkey hfields hupper rfl rfl (.inl rfl) (.inr rfl)
  · exact compileMap_null_bound hkey hfields hlower rfl rfl (.inl rfl) (.inl rfl)

/-- A train that leaves at half past ten in UTC leaves between eleven on a clock that is one hour
ahead and half past twelve on one that is two hours ahead. -/
theorem range_includes_bounds_trains :
    let c : FilterContext := ⟨.empty, "page", .builtIn, .utc⟩
    let schema : FieldSchema := ⟨"train", "train", none, [("leaves", .scalar .offsetDateTime)]⟩
    let low : Json := .str "2024-01-01T11:00:00+01:00"
    let high : Json := .str "2024-12-31T12:30:00+02:00"
    let both : FilterMap := [("from", low), ("to", high), ("flags", .str "time_of_day")]
    let lower : FilterMap := [("from", low), ("flags", .str "time_of_day")]
    let upper : FilterMap := [("to", high), ("flags", .str "time_of_day")]
    let train : Document :=
      ⟨[("leaves", .offsetDateTime ⟨⟨⟨⟨19889⟩, ⟨37800, 0⟩⟩⟩, 7200⟩)], []⟩
    ∃ compiled first last, c.compileMap schema .and [("leaves", .obj both)] = .ok compiled ∧
      c.compileMap schema .and [("leaves", .obj lower)] = .ok first ∧
      c.compileMap schema .and [("leaves", .obj upper)] = .ok last ∧
      first.predicate.passes train first.joins = .ok true ∧
      last.predicate.passes train last.joins = .ok true ∧
      compiled.predicate.passes train compiled.joins = .ok true := by
  intro c schema low high both lower upper train
  have hkey : c.NamesField schema "leaves" (.scalar .offsetDateTime) :=
    ⟨by decide +kernel, by decide, by decide +kernel⟩
  have hboth : StatesRange both (some low) (some high) (some (.str "time_of_day")) :=
    ⟨rfl, rfl, rfl, by decide⟩
  have hlower : StatesRange lower (some low) none (some (.str "time_of_day")) :=
    ⟨rfl, rfl, rfl, by decide⟩
  have hupper : StatesRange upper none (some high) (some (.str "time_of_day")) :=
    ⟨rfl, rfl, rfl, by decide⟩
  have hflags : ControlFlag.ofValue (.str "time_of_day") = .ok [.timeOfDay] := by decide +kernel
  have hsuits : SuitsRange .offsetDateTime [.timeOfDay] := ⟨⟨rfl, rfl⟩, fun _ => rfl⟩
  have hl : c.literal .offsetDateTime low =
      .ok (.offsetDateTime ⟨⟨⟨⟨19723⟩, ⟨36000, 0⟩⟩⟩, 3600⟩) :=
    literal_eq_ok.2 ⟨_, by decide +kernel, rfl⟩
  have hh : c.literal .offsetDateTime high =
      .ok (.offsetDateTime ⟨⟨⟨⟨20088⟩, ⟨37800, 0⟩⟩⟩, 7200⟩) :=
    literal_eq_ok.2 ⟨_, by decide +kernel, rfl⟩
  have hcompiled : c.compileMap schema .and [("leaves", .obj both)] = .ok _ :=
    (compileMap_between hkey rfl rfl rfl hboth).2 ⟨_, _, _, hflags, hsuits, hl, hh, rfl⟩
  have hfirst : c.compileMap schema .and [("leaves", .obj lower)] = .ok _ :=
    (compileMap_atLeast hkey rfl rfl hlower).2 ⟨_, _, hflags, hsuits, hl, rfl⟩
  have hlast : c.compileMap schema .and [("leaves", .obj upper)] = .ok _ :=
    (compileMap_atMost hkey rfl rfl hupper).2 ⟨_, _, hflags, hsuits, hh, rfl⟩
  obtain ⟨flags, l, h, hflags', hl', hh', hpasses⟩ :=
    (range_includes_bounds Document .and hkey rfl rfl rfl rfl hboth hlower hupper).2.1 _ _ _
      hcompiled hfirst hlast
  cases hflags.symm.trans hflags'
  cases hl.symm.trans hl'
  cases hh.symm.trans hh'
  obtain ⟨hhalves, hlow, hhigh, -⟩ := hpasses train _ rfl (.inr rfl)
  have hpassesLow := hlow.2 ⟨rfl, ⟨.gt, by decide, rfl⟩, fun _ => ⟨_, _, rfl, rfl, by decide⟩⟩
  have hpassesHigh := hhigh.2 ⟨rfl, ⟨.lt, by decide, rfl⟩, fun _ => ⟨_, _, rfl, rfl, by decide⟩⟩
  exact ⟨_, _, _, hcompiled, hfirst, hlast, hpassesLow, hpassesHigh,
    hhalves.2 ⟨hpassesLow, hpassesHigh⟩⟩

end FilterContext

end RowFilter
