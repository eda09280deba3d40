import RowFilter.Proofs.Query.Truth

/-!
# Membership as a disjunction

A membership test compares with the candidates one after another, as the disjunction of equalities
does: both stop at the first equal candidate, both pass over an absent one and remember it, and both
fail where two values cannot be compared.
-/

namespace RowFilter

variable {R : Type} [Filterable R] {b : Binding R}

theorem Truth.unknown_or (t : Truth) :
    Truth.or none t = if t = some true then some true else none := by
  rcases t with _ | _ | _ <;> rfl

namespace Predicate

variable {p q : Predicate} {ps : List Predicate}

/-- The disjunction of predicates, the later ones joined to those before them. -/
def anyOf : List Predicate → Predicate
  | [] => false
  | p :: ps => ps.foldl or p

/-! ## Disjunctions -/

theorem evaluate_or_congr {p' q' : Predicate} (hp : p.evaluate b = p'.evaluate b)
    (hq : q.evaluate b = q'.evaluate b) : (or p q).evaluate b = (or p' q').evaluate b := by
  rw [evaluate, evaluate, hp, hq]

/-- How disjunctions are nested makes no difference, not even for what fails. -/
theorem evaluate_or_assoc (p q r : Predicate) :
    (or (or p q) r).evaluate b = (or p (or q r)).evaluate b := by
  simp only [evaluate]
  -- both sides stop at the first of the three that is true or fails
  cases p.evaluate b with
  | error e => rfl
  | ok t =>
    cases q.evaluate b with
    | error e => rcases t with _ | _ | _ <;> rfl
    | ok u =>
      cases r.evaluate b with
      | error e => rcases t with _ | _ | _ <;> rcases u with _ | _ | _ <;> rfl
      | ok v =>
        rcases t with _ | _ | _ <;> rcases u with _ | _ | _ <;> rcases v with _ | _ | _ <;> rfl

theorem evaluate_foldl_or_congr {p' : Predicate} (h : p.evaluate b = p'.evaluate b) :
    (ps.foldl or p).evaluate b = (ps.foldl or p').evaluate b := by
  induction ps generalizing p p' with
  | nil => exact h
  | cons q ps ih => exact ih (evaluate_or_congr h rfl)

/-- The first of several predicates is evaluated before the disjunction of the others. -/
theorem evaluate_anyOf_cons (p q : Predicate) (ps : List Predicate) :
    (anyOf (p :: q :: ps)).evaluate b = (or p (anyOf (q :: ps))).evaluate b := by
  rw [anyOf, anyOf, List.foldl_cons]
  induction ps generalizing q with
  | nil => rfl
  | cons r ps ih =>
    rw [List.foldl_cons, List.foldl_cons, ← ih]
    exact evaluate_foldl_or_congr (evaluate_or_assoc p q r)

/-! ## Membership -/

variable {left : Expr} {value l : Literal} {ls : List Literal} {e : EvalError}

theorem evaluate_anyOf_error (hleft : left.evaluate b = .error e) (l : Literal)
    (ls : List Literal) :
    (anyOf ((l :: ls).map fun l => compare left .equal (.literal l))).evaluate b = .error e := by
  have hcompare : ∀ l, (compare left .equal (.literal l)).evaluate b = .error e := by
    intro l
    rw [evaluate_compare (by decide), hleft]
    rfl
  cases ls with
  | nil => exact hcompare l
  | cons l' ls =>
    rw [List.map_cons, List.map_cons, evaluate_anyOf_cons, evaluate, hcompare]
    rfl

theorem evaluate_anyOf_absent (hleft : left.evaluate b = .ok value) (hnull : value.isNull = .true)
    (l : Literal) (ls : List Literal) :
    (anyOf ((l :: ls).map fun l => compare left .equal (.literal l))).evaluate b = .ok none := by
  have hcompare : ∀ l, (compare left .equal (.literal l)).evaluate b = .ok none := by
    intro l
    rw [evaluate_compare (by decide), hleft]
    simp [Expr.evaluate_literal, hnull, bind, Except.bind]
  induction ls generalizing l with
  | nil => exact hcompare l
  | cons l' ls ih =>
    have ih := ih l'
    rw [List.map_cons] at ih
    rw [List.map_cons, List.map_cons, evaluate_anyOf_cons, evaluate, hcompare, ih]
    rfl

theorem evaluate_equal_literal (hleft : left.evaluate b = .ok value)
    (hpresent : value.isNull = .false) (l : Literal) :
    (compare left .equal (.literal l)).evaluate b =
      if l.isNull then .ok none
      else (collateOrMismatch value l).map fun o => some (o == .eq) := by
  rw [evaluate_compare (by decide), hleft]
  simp only [Expr.evaluate_literal, hpresent, Bool.false_or, bind, Except.bind]
  cases collateOrMismatch value l <;> rfl

/-- A membership test compares with the first candidate, and goes on where that has not decided. -/
theorem isMember_cons (hleft : left.evaluate b = .ok value) (hpresent : value.isNull = .false)
    (l : Literal) (rest : List Expr) :
    isMember b value (.literal l :: rest) = (do
      let t ← (compare left .equal (.literal l)).evaluate b
      if t = some .true then
        .ok (some .true)
      else
        let r ← isMember b value rest
        .ok (Truth.or t r)) := by
  rw [isMember, Expr.evaluate_literal, evaluate_equal_literal hleft hpresent]
  cases hnull : l.isNull with
  | true =>
    simp only [bind, Except.bind, hnull, if_pos, Truth.unknown_or]
    rfl
  | false =>
    simp only [bind, Except.bind, hnull]
    cases collateOrMismatch value l with
    | error e => rfl
    | ok o =>
      cases o with
      | eq => rfl
      | lt | gt =>
        simp only [Except.map]
        cases isMember b value rest with
        | error e => rfl
        | ok r => rcases r with _ | _ | _ <;> rfl

theorem isMember_eq_anyOf (hleft : left.evaluate b = .ok value) (hpresent : value.isNull = .false)
    (l : Literal) (ls : List Literal) :
    isMember b value ((l :: ls).map .literal) =
      (anyOf ((l :: ls).map fun l => compare left .equal (.literal l))).evaluate b := by
  induction ls generalizing l with
  | nil =>
    rw [List.map_singleton, List.map_singleton, isMember_cons hleft hpresent, anyOf, List.foldl_nil]
    cases (compare left .equal (.literal l)).evaluate b with
    | error e => rfl
    | ok t => rcases t with _ | _ | _ <;> rfl
  | cons l' ls ih =>
    have ih := ih l'
    rw [List.map_cons, List.map_cons] at ih
    rw [List.map_cons, List.map_cons, isMember_cons hleft hpresent, List.map_cons, ih,
      List.map_cons, evaluate_anyOf_cons]
    rfl

/-- **A membership test is the disjunction of equalities** with its candidates, of which there is at
least one: the two have one truth value, or fail alike. -/
theorem evaluate_isIn_eq_anyOf (left : Expr) (l : Literal) (ls : List Literal) :
    (compare left .isIn (.list ((l :: ls).map .literal))).evaluate b =
      (anyOf ((l :: ls).map fun l => compare left .equal (.literal l))).evaluate b := by
  rw [evaluate]
  cases hleft : left.evaluate b with
  | error e => exact (evaluate_anyOf_error hleft l ls).symm
  | ok value =>
    cases hnull : value.isNull with
    | true =>
      rw [evaluate_anyOf_absent hleft hnull]
      exact if_pos hnull
    | false =>
      rw [← isMember_eq_anyOf hleft hnull]
      exact if_neg (by simp [hnull])

end Predicate

end RowFilter
