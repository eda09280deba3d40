import RowFilter.Proofs.Filter.Meaning
import RowFilter.Proofs.Filter.Outcome
import RowFilter.Proofs.Text.UpperCase

/-!
# Compiled conditions on columns mean what their values say

What is compiled from the value that a filter map gives for a column is as true of the column as the
value says: the column is put in upper case where the comparand is, the items of a list are the
candidates, and a range is the conjunction of the bounds that are there.
-/

namespace RowFilter

theorem Json.leavesOfItems_upperItems (values : List Json) :
    leavesOfItems (upperItems values) = (leavesOfItems values).map upper := by
  refine leavesOfItems.induct (fun value => value.upper.leaves = value.leaves.map upper)
    (fun values => leavesOfItems (upperItems values) = (leavesOfItems values).map upper)
    ?_ ?_ ?_ ?_ values
  · exact fun items ih => ih
  · intro value hlist
    cases value with
    | arr items => exact (hlist items rfl).elim
    | null | bool | num | str | obj => rfl
  · rfl
  · intro value rest ihvalue ihrest
    rw [upperItems, leavesOfItems, leavesOfItems, List.map_append, ihvalue, ihrest]

namespace FilterContext

variable {R : Type} [Filterable R] {b : Binding R} {c : FilterContext} {type : ScalarType}
  {path : Path} {value : Json} {values : List Json} {v l : Literal} {ls : List Literal}

/-! ## Both sides of a comparison -/

/-- A column has the value of its path, texts in upper case. -/
theorem folded_of_column (hpath : ∀ v', (Expr.path path).evaluate b = .ok v' → v' = v)
    (h : (column type path).evaluate b = .ok l) : l = folded type v := by
  unfold column at h
  unfold folded
  split at h
  · next htext =>
    rw [if_pos htext]
    rw [Expr.evaluate_upper] at h
    obtain ⟨v', hv', h⟩ := bind_eq_ok.1 h
    rw [hpath v' hv'] at h
    cases v <;> cases h <;> rfl
  · next htext =>
    rw [if_neg htext]
    exact hpath l h

theorem clock_of_timeOfDay (hpath : ∀ v', (Expr.path path).evaluate b = .ok v' → v' = v)
    (h : (Expr.timeOfDay (.path path)).evaluate b = .ok l) : l = v.clock := by
  rw [Expr.evaluate_timeOfDay] at h
  obtain ⟨v', hv', h⟩ := bind_eq_ok.1 h
  rw [hpath v' hv'] at h
  unfold Literal.clock
  split at h
  · next t ht =>
    cases h
    rw [ht]
    rfl
  · next ht =>
    split at h <;> cases h
    rw [ht]
    rfl

theorem upper_eq_folded (h : type.isText = true → l.folded = l.upper) :
    (if type.isText then l.upper else l) = folded type l := by
  unfold folded
  split
  · next htext => exact (h htext).symm
  · rfl

theorem literal_ok (h : c.literal type value = .ok l) :
    l = comparand type (c.casters.castValue c.zone type value) := by
  obtain ⟨l', hl', h⟩ := bind_eq_ok.1 h
  rw [mapError_eq_ok] at hl'
  cases h
  rw [hl']
  exact upper_eq_folded fun htext => Casters.folded_of_castValue htext hl'

theorem candidates_ok (h : c.candidates type values = .ok ls) :
    ls = (Json.leavesOfItems values).map fun value =>
      comparand type (c.casters.castLeaf c.zone type value) := by
  obtain ⟨ls', hls', h⟩ := bind_eq_ok.1 h
  rw [mapError_eq_ok] at hls'
  have hall := Casters.forall₂_of_castList hls'
  have hls : ls = ls'.map fun l => if type.isText then l.upper else l := by
    cases h
    split
    · rfl
    · exact (List.map_id' ls').symm
  rw [hls]
  generalize Json.leavesOfItems values = leaves at hall
  clear h hls hls'
  induction hall with
  | nil => rfl
  | @cons value l leaves ls' hl _ ih =>
    rw [List.map_cons, List.map_cons, ih, hl]
    exact congrArg (· :: _) (upper_eq_folded fun htext => Casters.folded_of_castLeaf htext hl)

theorem isNull_of_literal (hvalue : value.isNull = false) (htype : type.isEnum = false)
    (h : c.literal type value = .ok l) : l.isNull = false := by
  obtain ⟨l', hl', h⟩ := bind_eq_ok.1 h
  rw [mapError_eq_ok] at hl'
  have hpresent := Casters.isNull_of_castValue hvalue htype hl'
  cases h
  split
  · cases l' <;> exact hpresent
  · exact hpresent

/-! ## Ranges -/

variable {fields : FilterMap} {bounds : Bounds Json} {ends : Bounds Literal}

theorem boundsOf_of_convert
    (hbounds : Bounds.ofEnds? ((fields.get? "from").getD .null) ((fields.get? "to").getD .null) =
      some bounds)
    (hends : bounds.convert (c.literal type) = .ok ends) :
    c.boundsOf type fields = ends.ends ∧
      (type.isEnum = false → ∀ bound ∈ ends.ends, bound.2.isNull = false) := by
  unfold boundsOf
  generalize (fields.get? "from").getD .null = low at hbounds ⊢
  generalize (fields.get? "to").getD .null = high at hbounds ⊢
  unfold Bounds.ofEnds? at hbounds
  split at hbounds
  · next hlow hhigh =>
    cases hbounds
    obtain ⟨l, hl, hends⟩ := bind_eq_ok.1 hends
    obtain ⟨h, hh, hends⟩ := bind_eq_ok.1 hends
    cases hends
    dsimp only
    rw [hlow, hhigh, ← literal_ok hl, ← literal_ok hh]
    refine ⟨rfl, fun htype => List.forall_mem_cons.2 ⟨isNull_of_literal hlow htype hl,
      List.forall_mem_singleton.2 (isNull_of_literal hhigh htype hh)⟩⟩
  · next hlow hhigh =>
    cases hbounds
    obtain ⟨l, hl, hends⟩ := bind_eq_ok.1 hends
    cases hends
    dsimp only
    rw [hlow, hhigh, ← literal_ok hl]
    exact ⟨rfl, fun htype => List.forall_mem_singleton.2 (isNull_of_literal hlow htype hl)⟩
  · next hlow hhigh =>
    cases hbounds
    obtain ⟨h, hh, hends⟩ := bind_eq_ok.1 hends
    cases hends
    dsimp only
    rw [hlow, hhigh, ← literal_ok hh]
    exact ⟨rfl, fun htype => List.forall_mem_singleton.2 (isNull_of_literal hhigh htype hh)⟩
  · cases hbounds

theorem means_boundsPredicate {expr : Expr} (hexpr : ∀ l', expr.evaluate b = .ok l' → l' = l)
    (hpresent : ∀ bound ∈ ends.ends, bound.2.isNull = false) :
    (boundsPredicate expr ends).Means b
      (Truth.all (ends.ends.map fun bound => l.compareTruth bound.1 bound.2)) := by
  cases ends with
  | between low high =>
    obtain ⟨hlow, hhigh⟩ := List.forall_mem_cons.1 hpresent
    have hbetween := Predicate.means_between hexpr hlow (hhigh _ (List.mem_singleton_self _))
    rwa [← Truth.true_and (l.compareTruth .greaterThanOrEqual low)] at hbetween
  | atLeast low =>
    have hcompare : (Predicate.compare expr .greaterThanOrEqual (.literal low)).Means b
        (l.compareTruth .greaterThanOrEqual low) := Predicate.means_compare (by decide) hexpr
    rwa [← Truth.true_and (l.compareTruth .greaterThanOrEqual low)] at hcompare
  | atMost high =>
    have hcompare : (Predicate.compare expr .lessThanOrEqual (.literal high)).Means b
        (l.compareTruth .lessThanOrEqual high) := Predicate.means_compare (by decide) hexpr
    rwa [← Truth.true_and (l.compareTruth .lessThanOrEqual high)] at hcompare

theorem means_timePredicates (hpath : ∀ v', (Expr.path path).evaluate b = .ok v' → v' = v) :
    List.Forall₂ (fun q t => q.Means b t) (timePredicates path ends)
      (ends.ends.filterMap fun bound => bound.2.timeOfDay?.map fun t =>
        v.clock.compareTruth bound.1 (.time t)) := by
  rw [timePredicates_eq]
  have hbound : ∀ bound ∈ ends.ends, bound.1 ≠ .isIn := by
    intro bound hbound hisIn
    rcases Bounds.operator_of_mem_ends hbound with h | h <;> cases hisIn.symm.trans h
  generalize ends.ends = bounds at hbound
  induction bounds with
  | nil => exact .nil
  | cons bound rest ih =>
    obtain ⟨hfirst, hrest⟩ := List.forall_mem_cons.1 hbound
    cases ht : bound.2.timeOfDay? with
    | none =>
      rw [List.filterMap_cons_none (by rw [ht]; rfl), List.filterMap_cons_none (by rw [ht]; rfl)]
      exact ih hrest
    | some t =>
      rw [List.filterMap_cons_some (by rw [ht]; rfl), List.filterMap_cons_some (by rw [ht]; rfl)]
      exact .cons (Predicate.means_compare hfirst fun _ => clock_of_timeOfDay hpath) (ih hrest)

/-! ## Conditions -/

variable {declared : DeclaredType} {field : String} {condition : Condition} {p : Predicate}

theorem means_absent (hpath : ∀ v', (Expr.path path).evaluate b = .ok v' → v' = v)
    (hcondition : condition = .equals .null) (h : ValueOutcome c type path condition p) :
    p.Means b (some v.isNull) := by
  cases h with
  | absent =>
    intro t ht
    obtain ⟨v', hv', ht⟩ := bind_eq_ok.1 ht
    cases ht
    rw [hpath v' hv']
  | equals hpresent =>
    cases hcondition
    cases hpresent
  | like | isIn | range => cases hcondition

theorem means_pattern {pattern : String}
    (hpath : ∀ v', (Expr.path path).evaluate b = .ok v' → v' = v)
    (hcondition : condition = .like pattern) (h : ValueOutcome c type path condition p) :
    p.Means b ((folded type v).likeTruth (Text.upper pattern)) := by
  cases h with
  | like =>
    cases hcondition
    exact Predicate.means_like fun _ => folded_of_column hpath
  | absent | equals | isIn | range => cases hcondition

theorem means_equals {taken : Json} (hpath : ∀ v', (Expr.path path).evaluate b = .ok v' → v' = v)
    (hcondition : condition = .equals taken) (htaken : taken.isNull = false)
    (h : ValueOutcome c type path condition p) :
    p.Means b ((folded type v).compareTruth .equal
      (comparand type (c.casters.castValue c.zone type taken))) := by
  cases h with
  | absent =>
    cases hcondition
    cases htaken
  | equals _ hl =>
    cases hcondition
    rw [← literal_ok hl]
    exact Predicate.means_compare (by decide) fun _ => folded_of_column hpath
  | like | isIn | range => cases hcondition

theorem means_candidates (hpath : ∀ v', (Expr.path path).evaluate b = .ok v' → v' = v)
    (hcondition : condition = .isIn (if type.isText then Json.upperItems values else values))
    (h : ValueOutcome c type path condition p) :
    p.Means b ((folded type v).memberTruth (c.candidatesOf type values)) := by
  cases h with
  | absent | equals | like | range => cases hcondition
  | @isIn _ ls hls =>
    cases hcondition
    have hcandidates : ls = c.candidatesOf type values := by
      rw [candidates_ok hls]
      unfold candidatesOf taken
      split
      · rw [Json.leavesOfItems_upperItems, List.map_map]
        rfl
      · rfl
    rw [← hcandidates]
    exact Predicate.means_isIn fun _ => folded_of_column hpath

theorem means_range (hpath : ∀ v', (Expr.path path).evaluate b = .ok v' → v' = v)
    (hrange : Condition.ofRange field fields = .ok condition)
    (hsuits : FilterNode.suits type condition = true)
    (h : ValueOutcome c type path condition p) :
    p.Means b (c.rangeTruth type v fields) := by
  obtain ⟨bounds, flags, hbounds, hflags, rfl⟩ := Condition.ofRange_ok hrange
  cases h with
  | @range _ _ ends hends =>
    obtain ⟨hends, hpresent⟩ := boundsOf_of_convert hbounds hends
    have henum : type.isEnum = false := by
      simp only [FilterNode.suits, Bool.and_eq_true, Bool.not_eq_true'] at hsuits
      exact hsuits.1.2
    have hcolumn : (boundsPredicate (column type path) ends).Means b
        (Truth.all (ends.ends.map fun bound => (folded type v).compareTruth bound.1 bound.2)) :=
      means_boundsPredicate (fun _ => folded_of_column hpath) (hpresent henum)
    unfold rangeTruth boundsTimeOfDay
    rw [hends, hflags, Truth.all, List.foldl_append]
    dsimp only
    refine hcolumn.foldl_and ?_
    split
    · exact means_timePredicates hpath
    · exact .nil

/-- **A compiled condition on a column means what its value says** of the value of the column. -/
theorem ValueOutcome.means (hpath : ∀ v', (Expr.path path).evaluate b = .ok v' → v' = v)
    (hdeclared : declared.valueType? = some type)
    (hcondition : Condition.ofValue declared field value = .ok condition)
    (hsuits : FilterNode.suits type condition = true)
    (h : ValueOutcome c type path condition p) : p.Means b (c.valueTruth type v value) := by
  obtain ⟨written, hwritten, hupper⟩ := Condition.ofValue_ok hcondition
  rw [DeclaredType.isText, hdeclared, Option.any_some] at hupper
  cases value with
  | null =>
    cases hwritten
    refine means_absent hpath ?_ h
    rw [hupper]
    split <;> rfl
  | bool | num =>
    cases hwritten
    refine means_equals hpath ?_ rfl h
    rw [hupper]
    split <;> rfl
  | str s =>
    cases hwritten
    rw [valueTruth]
    by_cases hpattern : Condition.isPattern s = true
    · rw [if_pos hpattern] at hupper ⊢
      -- a pattern is put in upper case when it is read, and again when it is compiled
      obtain ⟨pattern, hlike, hfolded⟩ :
          ∃ pattern, condition = .like pattern ∧ Text.upper pattern = Text.upper s := by
        split at hupper
        · exact ⟨_, hupper, Text.upper_upper s⟩
        · exact ⟨_, hupper, rfl⟩
      rw [← hfolded]
      exact means_pattern hpath hlike h
    · rw [if_neg hpattern] at hupper ⊢
      refine means_equals hpath (hupper.trans ?_) ?_ h
      · unfold taken
        split <;> rfl
      · unfold taken
        split <;> rfl
  | arr items =>
    cases hwritten
    refine means_candidates hpath ?_ h
    rw [hupper]
    split <;> rfl
  | obj fields =>
    rw [Condition.ofWritten] at hwritten
    rw [valueTruth]
    split at hwritten
    · next hrange =>
      rw [if_pos hrange]
      have hkept : condition = written := by
        obtain ⟨bounds, flags, _, _, rfl⟩ := Condition.ofRange_ok hwritten
        rw [hupper]
        split <;> rfl
      exact means_range hpath (hkept ▸ hwritten) hsuits h
    · next hrange =>
      rw [if_neg hrange]
      cases hwritten
      by_cases hrelation : declared.isRelation = true
      · rw [if_pos hrelation] at hupper
        have hjoined : condition = .joined fields := by
          rw [hupper]
          split <;> rfl
        exact absurd hjoined (h.ne_joined fields)
      · rw [if_neg hrelation] at hupper
        refine means_candidates hpath ?_ h
        rw [hupper]
        split <;> rfl

end FilterContext

end RowFilter
