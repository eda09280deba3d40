import RowFilter.Proofs.Literal.Kind
import RowFilter.Proofs.Query.Evaluation

/-!
# Comparable values

A predicate has a truth value under a choice of joined records if whatever it compares is of one
kind that has an order, or absent.
-/

namespace RowFilter

/-- Whether a predicate has a truth value under a choice of joined records. -/
def Predicate.Evaluates {R : Type} [Filterable R] (b : Binding R) (p : Predicate) : Prop :=
  ∃ t, p.evaluate b = .ok t

namespace Predicate

variable {R : Type} [Filterable R] {b : Binding R} {p q : Predicate}

theorem evaluates_true : Evaluates b true := ⟨_, rfl⟩

theorem Evaluates.and (hp : p.Evaluates b) (hq : q.Evaluates b) : (and p q).Evaluates b := by
  obtain ⟨l, hl⟩ := hp
  obtain ⟨r, hr⟩ := hq
  unfold Evaluates
  rw [evaluate, hl, hr]
  by_cases hfalse : l = some .false
  · exact ⟨_, if_pos hfalse⟩
  · exact ⟨_, if_neg hfalse⟩

theorem Evaluates.or (hp : p.Evaluates b) (hq : q.Evaluates b) : (or p q).Evaluates b := by
  obtain ⟨l, hl⟩ := hp
  obtain ⟨r, hr⟩ := hq
  unfold Evaluates
  rw [evaluate, hl, hr]
  by_cases htrue : l = some .true
  · exact ⟨_, if_pos htrue⟩
  · exact ⟨_, if_neg htrue⟩

theorem Evaluates.not (h : p.Evaluates b) : (not p).Evaluates b := by
  obtain ⟨t, ht⟩ := h
  exact ⟨_, by rw [evaluate, ht]; rfl⟩

variable {kind : ScalarKind} {left right : Expr} {l r : Literal}

/-- Two values of one ordered kind can be compared, and so can an absent value with any. -/
theorem evaluates_compare {operator : Comparison} (hoperator : operator ≠ .isIn)
    (hkind : kind.isOrdered = .true) (hleft : left.evaluate b = .ok l) (hl : l.Fits kind)
    (hright : right.evaluate b = .ok r) (hr : r.Fits kind) :
    (compare left operator right).Evaluates b := by
  unfold Evaluates
  rw [evaluate_compare hoperator, hleft, hright]
  cases hnull : l.isNull || r.isNull with
  | true => exact ⟨_, if_pos hnull⟩
  | false =>
    obtain ⟨hlnull, hrnull⟩ := Bool.or_eq_false_iff.1 hnull
    obtain ⟨o, ho⟩ :=
      Literal.exists_collate (hl.kind_of_not_null hlnull) (hr.kind_of_not_null hrnull) hkind
    refine ⟨some (operator.holds o), ?_⟩
    simp [bind, Except.bind, hlnull, hrnull, collateOrMismatch, ho]

theorem isMember_of_fits (hkind : kind.isOrdered = .true) (hl : l.kind? = some kind)
    {ls : List Literal} (hls : ∀ r ∈ ls, r.Fits kind) :
    ∃ t, isMember b l (ls.map .literal) = .ok t := by
  induction ls with
  | nil => exact ⟨_, rfl⟩
  | cons r rest ih =>
    obtain ⟨hr, hrest⟩ := List.forall_mem_cons.1 hls
    obtain ⟨t, ht⟩ := ih hrest
    rw [List.map_cons, isMember, Expr.evaluate_literal, ht]
    cases hnull : r.isNull with
    | true => exact ⟨_, if_pos hnull⟩
    | false =>
      obtain ⟨o, ho⟩ := Literal.exists_collate hl (hr.kind_of_not_null hnull) hkind
      refine ⟨if o = .eq then some .true else t, ?_⟩
      by_cases heq : o = .eq <;>
        simp [bind, Except.bind, hnull, collateOrMismatch, ho, heq]

theorem evaluates_isIn (hkind : kind.isOrdered = .true) (hleft : left.evaluate b = .ok l)
    (hl : l.Fits kind) {ls : List Literal} (hls : ∀ r ∈ ls, r.Fits kind) :
    (compare left .isIn (.list (ls.map .literal))).Evaluates b := by
  unfold Evaluates
  rw [evaluate, hleft]
  cases hnull : l.isNull with
  | true => exact ⟨_, if_pos hnull⟩
  | false =>
    obtain ⟨t, ht⟩ : ∃ t, isMember b l (ls.map .literal) = .ok t :=
      isMember_of_fits hkind (hl.kind_of_not_null hnull) hls
    exact ⟨t, (if_neg (by simp [hnull])).trans ht⟩

theorem evaluates_between (hkind : kind.isOrdered = .true) {expr low high : Expr}
    {value lowValue highValue : Literal} (hexpr : expr.evaluate b = .ok value)
    (hvalue : value.Fits kind) (hlow : low.evaluate b = .ok lowValue)
    (hlowValue : lowValue.Fits kind) (hhigh : high.evaluate b = .ok highValue)
    (hhighValue : highValue.Fits kind) : (between expr low high).Evaluates b := by
  unfold Evaluates
  rw [evaluate, hexpr, hlow, hhigh]
  cases hnull : value.isNull || lowValue.isNull || highValue.isNull with
  | true => exact ⟨_, if_pos hnull⟩
  | false =>
    simp only [Bool.or_eq_false_iff] at hnull
    have hkindOf := hvalue.kind_of_not_null hnull.1.1
    obtain ⟨above, habove⟩ :=
      Literal.exists_collate hkindOf (hlowValue.kind_of_not_null hnull.1.2) hkind
    obtain ⟨below, hbelow⟩ :=
      Literal.exists_collate hkindOf (hhighValue.kind_of_not_null hnull.2) hkind
    refine ⟨some (above != .lt && below != .gt), ?_⟩
    simp [bind, Except.bind, isBetween, hnull, Literal.inRange?, RangeBound.admitsAbove,
      RangeBound.admitsBelow, habove, hbelow]

end Predicate

end RowFilter
