import RowFilter.Proofs.Success
import RowFilter.Query.Sql

/-!
# The shape of a selection

What is left of a selection without the values of its literals and without its patterns is its
shape. Rendering a shape gives the fragments of the selection without the values of their arguments,
so that selections of one shape have the same text or fail alike.
-/

namespace RowFilter

/-! ## Shapes -/

/-- Whether a value is absent, and nothing else about it. -/
def Literal.masked : Literal → Literal
  | null => null
  | _ => string ""

namespace Expr

mutual

/-- The expression without the values of its literals. -/
def masked : Expr → Expr
  | literal l => literal l.masked
  | path p => path p
  | upper inner => upper inner.masked
  | timeOfDay inner => timeOfDay inner.masked
  | list items => list (maskedAll items)

/-- The expressions without the values of their literals. -/
def maskedAll : List Expr → List Expr
  | [] => []
  | e :: rest => e.masked :: maskedAll rest

end

end Expr

namespace Predicate

/-- The predicate without the values of its literals and without its patterns. -/
def masked : Predicate → Predicate
  | compare left operator right => compare left.masked operator right.masked
  | like expr _ => like expr.masked ""
  | between expr low high => between expr.masked low.masked high.masked
  | isNull expr => isNull expr.masked
  | and left right => and left.masked right.masked
  | or left right => or left.masked right.masked
  | not inner => not inner.masked
  | true => true
  | false => false

end Predicate

/-- The selection without the values of its literals and without its patterns. -/
def Selection.masked (s : Selection) : Selection := { s with predicate := s.predicate.masked }

theorem Selection.exists_of_masked {s t : Selection} (h : s.masked = t.masked) :
    ∃ p, t = { s with predicate := p } ∧ s.predicate.masked = p.masked := by
  obtain ⟨p, joins, orderBy, limit, offset⟩ := s
  obtain ⟨q, joins', orderBy', limit', offset'⟩ := t
  simp only [Selection.masked, Selection.mk.injEq] at h
  obtain ⟨hmasked, rfl, rfl, rfl, rfl⟩ := h
  exact ⟨q, rfl, hmasked⟩

namespace Sql

/-- The fragment without the value of its argument. -/
def Fragment.masked : Fragment → Fragment
  | text s => text s
  | argument l => argument l.masked

/-! ## Rendering a shape -/

variable {fs : List Fragment} {scope : Scope}

theorem numberedText_masked (n : Nat) (fs : List Fragment) :
    numberedText n (fs.map Fragment.masked) = numberedText n fs := by
  fun_induction numberedText n fs with
  | case1 => rfl
  | case2 n s rest ih => rw [List.map_cons, Fragment.masked, numberedText, ih]
  | case3 n l rest ih => rw [List.map_cons, Fragment.masked, numberedText, ih]

theorem ofLiteral_masked (l : Literal) : ofLiteral l.masked = (ofLiteral l).masked := by
  cases l <;> rfl

theorem ofItems_masked (items : List Expr) :
    ofItems (Expr.maskedAll items) = List.map Fragment.masked <$> ofItems items := by
  fun_induction ofItems items with
  | case1 => rfl
  | case2 l =>
    rw [Expr.maskedAll, Expr.masked, Expr.maskedAll, ofItems, ofLiteral_masked]
    rfl
  | case3 l rest hrest ih =>
    obtain ⟨e, others, rfl⟩ := List.exists_cons_of_ne_nil hrest
    rw [Expr.maskedAll, Expr.masked, ofItems, ih, bind_map_left, map_bind, ofLiteral_masked]
    · rfl
    · exact List.cons_ne_nil _ _
  | case4 items hnil hone hmore =>
    cases items with
    | nil => exact absurd rfl hnil
    | cons e rest =>
      cases e with
      | literal l => exact absurd rfl (hmore l rest)
      | _ => rfl

theorem ofExpr_masked (scope : Scope) (e : Expr) :
    ofExpr scope e.masked = List.map Fragment.masked <$> ofExpr scope e := by
  fun_induction ofExpr scope e with
  | case1 l => rw [Expr.masked, ofExpr, ofLiteral_masked]; rfl
  | case2 p => rw [Expr.masked, ofExpr, map_bind]; rfl
  | case3 inner ih => simp [Expr.masked, ofExpr, ih, Fragment.masked]
  | case4 inner ih => simp [Expr.masked, ofExpr, ih, Fragment.masked]
  | case5 items => simp [Expr.masked, ofExpr, ofItems_masked, Fragment.masked]

/-- Whether a list on the right of a membership test is empty shows in its shape. -/
theorem ofComparison_masked (scope : Scope) (left : Expr) (operator : Comparison) (right : Expr) :
    ofComparison scope left.masked operator right.masked =
      List.map Fragment.masked <$> ofComparison scope left operator right := by
  by_cases hempty : operator = .isIn ∧ right = .list []
  · obtain ⟨rfl, rfl⟩ := hempty
    rfl
  · have hmasked : operator = .isIn → right.masked = .list [] → False := by
      intro hin hright
      cases right with
      | list items =>
        cases items with
        | nil => exact hempty ⟨hin, rfl⟩
        | cons e rest => simp [Expr.masked, Expr.maskedAll] at hright
      | _ => simp [Expr.masked] at hright
    rw [ofComparison, ofComparison, ofExpr_masked, ofExpr_masked]
    · simp [Fragment.masked]
    · exact fun hin hright => hempty ⟨hin, hright⟩
    · exact hmasked

theorem ofPredicate_masked (scope : Scope) (p : Predicate) :
    ofPredicate scope p.masked = List.map Fragment.masked <$> ofPredicate scope p := by
  induction p with
  | compare left operator right => exact ofComparison_masked scope left operator right
  | like expr pattern =>
    simp [Predicate.masked, ofPredicate, ofExpr_masked, Fragment.masked, Literal.masked]
  | between expr low high =>
    simp [Predicate.masked, ofPredicate, ofExpr_masked, Fragment.masked]
  | isNull expr => simp [Predicate.masked, ofPredicate, ofExpr_masked, Fragment.masked]
  | and left right ihl ihr => simp [Predicate.masked, ofPredicate, ihl, ihr, Fragment.masked]
  | or left right ihl ihr => simp [Predicate.masked, ofPredicate, ihl, ihr, Fragment.masked]
  | not inner ih => simp [Predicate.masked, ofPredicate, ih, Fragment.masked]
  | true => rfl
  | false => rfl

/-! ## One text for one shape -/

section Shape

variable {table : String} {s : Selection} {p q : Predicate}

theorem condition_congr (h : p.masked = q.masked) (scope : Scope) :
    List.map Fragment.masked <$> ofPredicate scope p =
      List.map Fragment.masked <$> ofPredicate scope q := by
  rw [← ofPredicate_masked, ← ofPredicate_masked, h]

theorem numberedText_congr {fs gs : List Fragment} {n : Nat}
    (h : fs.map Fragment.masked = gs.map Fragment.masked) :
    numberedText n fs = numberedText n gs := by
  rw [← numberedText_masked, h, numberedText_masked]

theorem fromWhere_congr (h : p.masked = q.masked) :
    List.map Fragment.masked <$> fromWhere table { s with predicate := p } =
      List.map Fragment.masked <$> fromWhere table { s with predicate := q } := by
  refine map_bind_congr (f := id) rfl fun joins _ hjoins => ?_
  obtain rfl : joins = _ := hjoins
  refine map_bind_congr (condition_congr h _) fun fs gs hfs => ?_
  simp [hfs]

theorem whereClause_congr (h : p.masked = q.masked) :
    Statement.text <$> whereClause p = Statement.text <$> whereClause q :=
  map_bind_congr (condition_congr h _) fun _ _ hfs =>
    congrArg Except.ok (numberedText_congr hfs)

theorem select_congr (h : p.masked = q.masked) :
    Statement.text <$> select table { s with predicate := p } =
      Statement.text <$> select table { s with predicate := q } := by
  refine map_bind_congr (fromWhere_congr h) fun rows rows' hrows => ?_
  refine map_bind_congr (f := id) rfl fun order _ horder => ?_
  obtain rfl : order = _ := horder
  refine congrArg Except.ok (numberedText_congr ?_)
  simp [hrows]

theorem count_congr (h : p.masked = q.masked) :
    Statement.text <$> count table { s with predicate := p } =
      Statement.text <$> count table { s with predicate := q } := by
  refine map_bind_congr (fromWhere_congr h) fun rows rows' hrows => ?_
  refine congrArg Except.ok (numberedText_congr ?_)
  simp [hrows]

end Shape

end Sql

end RowFilter
