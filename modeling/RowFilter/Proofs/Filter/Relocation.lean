import RowFilter.Proofs.Filter.Typing
import RowFilter.Proofs.Literal.Interchange

/-!
# A condition on two columns

A condition that compiles for one column of a type compiles for every other. Where the two columns
hold one value, its two predicates agree; where a column holds none, its predicate is unknown unless
the condition is that there is none.
-/

namespace RowFilter

variable {R : Type} [Filterable R] {b b' : Binding R} {kind : ScalarKind} {x y l : Literal}

/-! ## Predicates that agree -/

namespace Predicate

/-- Whether two predicates, each under its own choice of joined records, have one truth value or
both fail. -/
def Agree (b b' : Binding R) (p q : Predicate) : Prop :=
  ∀ t, p.evaluate b = .ok t ↔ q.evaluate b' = .ok t

variable {p q p' q' : Predicate}

theorem Agree.not (h : Agree b b' p q) : Agree b b' (.not p) (.not q) := by
  intro t
  simp only [evaluate, bind_eq_ok, h _]

theorem Agree.and (h : Agree b b' p q) (h' : Agree b b' p' q') :
    Agree b b' (.and p p') (.and q q') := by
  intro t
  rw [evaluate, evaluate, bind_eq_ok, bind_eq_ok]
  refine exists_congr fun l => and_congr (h l) ?_
  split
  · exact Iff.rfl
  · simp only [bind_eq_ok, h' _]

theorem Agree.foldl_and {ps qs : List Predicate} (h : Agree b b' p q)
    (hall : List.Forall₂ (Agree b b') ps qs) : Agree b b' (ps.foldl .and p) (qs.foldl .and q) := by
  induction hall generalizing p q with
  | nil => exact h
  | cons hfirst _ ih => exact ih (h.and hfirst)

theorem Agree.negation (negation : Negation) (h : Agree b b' p q) :
    Agree b b' (negation.apply p) (negation.apply q) := by
  cases negation with
  | none => exact h
  | not => exact h.not

end Predicate

/-! ## Expressions that read one value -/

/-- Whether two expressions, each under its own choice of joined records, read one value of a
kind. -/
def Expr.ReadAlike (b b' : Binding R) (kind : ScalarKind) (e e' : Expr) : Prop :=
  ∃ x y, e.evaluate b = .ok x ∧ e'.evaluate b' = .ok y ∧ x.Same y ∧ x.kind? = some kind

theorem collateOrMismatch_same (hsame : x.Same y) (hx : x.kind? = some kind)
    (hl : l.IsCastTo kind) (o : Ordering) :
    collateOrMismatch x l = .ok o ↔ collateOrMismatch y l = .ok o := by
  rw [collateOrMismatch, collateOrMismatch, hsame.collate_eq hx hl]
  cases y.collate l <;> simp

theorem Predicate.isMember_same {ls : List Literal} (hsame : x.Same y) (hx : x.kind? = some kind)
    (hls : ∀ l ∈ ls, l.IsCastTo kind) (t : Truth) :
    isMember b x (ls.map .literal) = .ok t ↔ isMember b' y (ls.map .literal) = .ok t := by
  induction ls generalizing t with
  | nil => exact Iff.rfl
  | cons l rest ih =>
    obtain ⟨hl, hrest⟩ := List.forall_mem_cons.1 hls
    simp only [List.map_cons, isMember, Expr.evaluate_literal, bind_eq_ok, Except.ok.injEq,
      exists_eq_left']
    split
    · simp only [bind_eq_ok, ih hrest]
    · simp only [bind_eq_ok, collateOrMismatch_same hsame hx hl]
      refine exists_congr fun o => and_congr_right fun _ => ?_
      split
      · exact Iff.rfl
      · exact ih hrest t

theorem Predicate.isBetween_same {low high : Literal} (hsame : x.Same y) (hx : x.kind? = some kind)
    (hlow : low.IsCastTo kind) (hhigh : high.IsCastTo kind) (t : Truth) :
    isBetween x low high = .ok t ↔ isBetween y low high = .ok t := by
  have hrange : x.inRange? (.included low) (.included high) =
      y.inRange? (.included low) (.included high) := by
    simp only [Literal.inRange?, RangeBound.admitsAbove, RangeBound.admitsBelow,
      hsame.collate_eq hx hlow, hsame.collate_eq hx hhigh]
  rw [isBetween, isBetween, hrange, hsame.isNull_eq]
  split
  · exact Iff.rfl
  · cases y.inRange? (.included low) (.included high) <;> simp

namespace Expr.ReadAlike

variable {e e' : Expr}

theorem compare (h : e.ReadAlike b b' kind e') {operator : Comparison}
    (hoperator : operator ≠ .isIn) (hl : l.IsCastTo kind) :
    Predicate.Agree b b' (.compare e operator (.literal l))
      (.compare e' operator (.literal l)) := by
  obtain ⟨x, y, hx, hy, hsame, hkind⟩ := h
  intro t
  rw [Predicate.evaluate_compare hoperator, Predicate.evaluate_compare hoperator, hx, hy]
  simp only [Expr.evaluate_literal, bind_eq_ok, Except.ok.injEq, exists_eq_left', hsame.isNull_eq]
  split
  · exact Iff.rfl
  · simp only [bind_eq_ok, collateOrMismatch_same hsame hkind hl]

theorem isIn (h : e.ReadAlike b b' kind e') {ls : List Literal}
    (hls : ∀ l ∈ ls, l.IsCastTo kind) :
    Predicate.Agree b b' (.compare e .isIn (.list (ls.map .literal)))
      (.compare e' .isIn (.list (ls.map .literal))) := by
  obtain ⟨x, y, hx, hy, hsame, hkind⟩ := h
  intro t
  rw [Predicate.evaluate, Predicate.evaluate, hx, hy]
  simp only [bind_eq_ok, Except.ok.injEq, exists_eq_left', hsame.isNull_eq]
  split
  · exact Iff.rfl
  · exact Predicate.isMember_same hsame hkind hls t

theorem between (h : e.ReadAlike b b' kind e') {low high : Literal} (hlow : low.IsCastTo kind)
    (hhigh : high.IsCastTo kind) :
    Predicate.Agree b b' (.between e (.literal low) (.literal high))
      (.between e' (.literal low) (.literal high)) := by
  obtain ⟨x, y, hx, hy, hsame, hkind⟩ := h
  intro t
  rw [Predicate.evaluate, Predicate.evaluate, hx, hy]
  exact Predicate.isBetween_same hsame hkind hlow hhigh t

theorem like (h : e.ReadAlike b b' kind e') (pattern : String) :
    Predicate.Agree b b' (.like e pattern) (.like e' pattern) := by
  obtain ⟨x, y, hx, hy, hsame, _⟩ := h
  intro t
  rw [Predicate.evaluate, Predicate.evaluate, hx, hy]
  simp only [bind_eq_ok, Except.ok.injEq, exists_eq_left', hsame.isNull_eq, hsame.characters_eq]
  cases y.characters? with
  | some s => exact Iff.rfl
  | none => cases y.isNull <;> simp

theorem isNull (h : e.ReadAlike b b' kind e') : Predicate.Agree b b' (.isNull e) (.isNull e') := by
  obtain ⟨x, y, hx, hy, hsame, _⟩ := h
  intro t
  rw [Predicate.evaluate, Predicate.evaluate, hx, hy]
  simp only [bind_eq_ok, Except.ok.injEq, exists_eq_left', hsame.isNull_eq]

theorem timeOfDay {type : ScalarType} (h : e.ReadAlike b b' type.kind e')
    (htype : type.hasTimeOfDay = true) :
    (Expr.timeOfDay e).ReadAlike b b' .time (.timeOfDay e') := by
  obtain ⟨x, y, hx, hy, hsame, hkind⟩ := h
  obtain ⟨t, ht⟩ := Literal.exists_timeOfDay hkind htype
  have ht' := hsame.timeOfDay_eq ▸ ht
  refine ⟨.time t, .time t, ?_, ?_, .refl _, rfl⟩
  · simp [Expr.evaluate_timeOfDay, bind, Except.bind, hx, ht]
  · simp [Expr.evaluate_timeOfDay, bind, Except.bind, hy, ht']

end Expr.ReadAlike

theorem Literal.Same.eq_of_text {type : ScalarType} (h : x.Same y) (hx : x.kind? = some type.kind)
    (htype : type.isText = true) : x = y := by
  cases h with
  | refl => rfl
  | decimal | offsetDateTime => cases type <;> cases htype <;> cases hx

namespace FilterContext

variable {c : FilterContext} {type : ScalarType} {path path' : Path} {value : Json}
  {values : List Json} {ls : List Literal} {condition : Condition} {p q : Predicate}

theorem readAlike_column (h : (Expr.path path).ReadAlike b b' type.kind (.path path')) :
    (column type path).ReadAlike b b' type.comparedKind (column type path') := by
  obtain ⟨x, y, hx, hy, hsame, hkind⟩ := h
  unfold column ScalarType.comparedKind
  split
  · next htext =>
    -- a text has one writing only
    cases hsame.eq_of_text hkind htext
    have hupper : ∀ {b : Binding R} {path : Path}, (Expr.path path).evaluate b = .ok x →
        (Expr.upper (.path path)).evaluate b = .ok x.upper := by
      intro b path hx
      rw [Expr.evaluate_upper, hx]
      cases type <;> cases htext <;> cases x <;> cases hkind <;> rfl
    refine ⟨x.upper, x.upper, hupper hx, hupper hy, .refl _, ?_⟩
    cases type <;> cases htext <;> cases x <;> cases hkind <;> rfl
  · exact ⟨x, y, hx, hy, hsame, hkind⟩

/-! ## What a condition compares with -/

theorem isCastTo_compared (h : l.IsCastTo type.kind) :
    (if type.isText then l.upper else l).IsCastTo type.comparedKind := by
  unfold ScalarType.comparedKind
  split
  · next htext =>
    rcases h with h | ⟨s, rfl⟩
    · exact .inl (h.upper htext)
    · exact .inr ⟨_, rfl⟩
  · exact h

theorem isCastTo_of_literal (htype : type.kind ≠ .other) (h : c.literal type value = .ok l) :
    l.IsCastTo type.comparedKind := by
  obtain ⟨found, hfound, h⟩ := bind_eq_ok.1 h
  cases h
  exact isCastTo_compared (Casters.isCastTo_of_castValue htype (mapError_eq_ok.1 hfound))

theorem isCastTo_of_candidates (htype : type.kind ≠ .other)
    (h : c.candidates type values = .ok ls) : ∀ l ∈ ls, l.IsCastTo type.comparedKind := by
  obtain ⟨found, hfound, h⟩ := bind_eq_ok.1 h
  have hls : ls = found.map fun l => if type.isText then l.upper else l := by
    cases h
    split
    · rfl
    · exact (List.map_id' found).symm
  rw [hls, List.forall_mem_map]
  intro l hl
  exact isCastTo_compared (Casters.isCastTo_of_castList htype (mapError_eq_ok.1 hfound) l hl)

/-! ## The same condition on another column -/

theorem ValueOutcome.relocate (h : ValueOutcome c type path condition p) (path' : Path) :
    ∃ q, ValueOutcome c type path' condition q := by
  cases h with
  | absent => exact ⟨_, .absent⟩
  | equals hpresent hl => exact ⟨_, .equals hpresent hl⟩
  | like pattern => exact ⟨_, .like pattern⟩
  | isIn hls => exact ⟨_, .isIn hls⟩
  | range hends => exact ⟨_, .range hends⟩

theorem agree_boundsPredicate {ends : Bounds Literal}
    (hread : (column type path).ReadAlike b b' kind (column type path'))
    (hends : ∀ l, ends.low? = some l ∨ ends.high? = some l → l.IsCastTo kind) :
    Predicate.Agree b b' (boundsPredicate (column type path) ends)
      (boundsPredicate (column type path') ends) := by
  cases ends with
  | between low high => exact hread.between (hends low (.inl rfl)) (hends high (.inr rfl))
  | atLeast low => exact hread.compare (by decide) (hends low (.inl rfl))
  | atMost high => exact hread.compare (by decide) (hends high (.inr rfl))

theorem agree_timePredicates {ends : Bounds Literal}
    (hread : (Expr.timeOfDay (.path path)).ReadAlike b b' .time (.timeOfDay (.path path'))) :
    List.Forall₂ (Predicate.Agree b b') (timePredicates path ends) (timePredicates path' ends) := by
  have hends : List.Forall₂ (fun bound bound' => bound = bound' ∧ bound.1 ≠ .isIn)
      ends.ends ends.ends := by
    refine List.forall₂_same.2 fun bound hbound => ⟨rfl, ?_⟩
    rcases Bounds.operator_of_mem_ends hbound with h | h <;> rw [h] <;> decide
  rw [timePredicates_eq, timePredicates_eq]
  refine List.rel_filterMap ?_ hends
  rintro bound _ ⟨rfl, hbound⟩
  dsimp only
  cases bound.2.timeOfDay? with
  | none => exact .none
  | some t => exact .some (hread.compare hbound (.inl (.inr rfl)))

/-- Where two columns hold one value, the predicates of a condition on the one and on the other
agree. -/
theorem ValueOutcome.agree (hp : ValueOutcome c type path condition p)
    (hq : ValueOutcome c type path' condition q) (hsuits : FilterNode.suits type condition = true)
    (htype : type.kind ≠ .other)
    (hread : (Expr.path path).ReadAlike b b' type.kind (.path path')) :
    Predicate.Agree b b' p q := by
  have hcolumn := readAlike_column hread
  cases hp with
  | absent =>
    cases hq with
    | absent => exact hread.isNull
    | equals hpresent => cases hpresent
  | equals hpresent hl =>
    cases hq with
    | absent => cases hpresent
    | equals _ hl' =>
      cases hl.symm.trans hl'
      exact hcolumn.compare (by decide) (isCastTo_of_literal htype hl)
  | like pattern =>
    cases hq
    exact hcolumn.like _
  | isIn hls =>
    cases hq with
    | isIn hls' =>
      cases hls.symm.trans hls'
      exact hcolumn.isIn (isCastTo_of_candidates htype hls)
  | @range bounds flags ends hends =>
    cases hq with
    | range hends' =>
      cases hends.symm.trans hends'
      refine Predicate.Agree.foldl_and (agree_boundsPredicate hcolumn fun l hl => ?_) ?_
      · obtain ⟨value, hvalue⟩ := Bounds.exists_of_convert hends hl
        exact isCastTo_of_literal htype hvalue
      · split
        · next hflag =>
          have htime : type.hasTimeOfDay = true := by
            have hflags := (Bool.and_eq_true_iff.1 hsuits).2
            rwa [Condition.flags, hflag] at hflags
          exact agree_timePredicates (hread.timeOfDay htime)
        · exact .nil

/-! ## Columns without a value -/

theorem evaluate_compare_of_null {e : Expr} {operator : Comparison} (hoperator : operator ≠ .isIn)
    (he : e.evaluate b = .ok .null) (l : Literal) :
    (Predicate.compare e operator (.literal l)).evaluate b = .ok none := by
  rw [Predicate.evaluate_compare hoperator, he]
  rfl

/-- A condition on a column without a value is unknown, unless it tests for that. -/
theorem ValueOutcome.evaluate_of_null (h : ValueOutcome c type path condition p)
    (hpresent : condition.isNullTest = false) (hnull : (Expr.path path).evaluate b = .ok .null) :
    p.evaluate b = .ok none := by
  have hcolumn : (column type path).evaluate b = .ok .null := by
    unfold column
    split
    · rw [Expr.evaluate_upper, hnull]
      rfl
    · exact hnull
  cases h with
  | absent => cases hpresent
  | equals => exact evaluate_compare_of_null (by decide) hcolumn _
  | like | isIn =>
    rw [Predicate.evaluate, hcolumn]
    rfl
  | @range bounds flags ends hends =>
    refine Predicate.foldl_and_induct (motive := fun q => q.evaluate b = .ok none)
      (fun p q hp hq => ?_) ?_ fun q hq => ?_
    · rw [Predicate.evaluate, hp, hq]
      rfl
    · cases ends with
      | between low high =>
        rw [boundsPredicate, Predicate.evaluate, hcolumn]
        rfl
      | atLeast low => exact evaluate_compare_of_null (by decide) hcolumn _
      | atMost high => exact evaluate_compare_of_null (by decide) hcolumn _
    · split at hq
      · obtain ⟨operator, t, hoperator, rfl⟩ := exists_of_mem_timePredicates hq
        refine evaluate_compare_of_null ?_ (by rw [Expr.evaluate_timeOfDay, hnull]; rfl) _
        rcases hoperator with rfl | rfl <;> decide
      · cases hq

end FilterContext

end RowFilter
