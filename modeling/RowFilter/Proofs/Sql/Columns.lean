import RowFilter.Proofs.Query.Scope

/-!
# Columns in SQL

The columns that the SQL form of a predicate names are the pieces of its text that begin with a
quote. They belong to the paths that the predicate reads, in order, except that a test for
membership in an empty list is written without a column.
-/

namespace RowFilter

/-- The paths whose columns the SQL form of a predicate names, in order. -/
def Predicate.columns : Predicate → List Path
  | compare _ .isIn (.list []) => []
  | compare left _ right => left.paths ++ right.paths
  | like expr _ => expr.paths
  | between expr low high => expr.paths ++ low.paths ++ high.paths
  | isNull expr => expr.paths
  | and left right => left.columns ++ right.columns
  | or left right => left.columns ++ right.columns
  | not inner => inner.columns
  | true => []
  | false => []

namespace Predicate

theorem columns_compare {left right : Expr} {operator : Comparison}
    (h : operator = .isIn → right ≠ .list []) :
    (compare left operator right).columns = left.paths ++ right.paths :=
  columns.eq_2 left operator right h

theorem columns_subset (p : Predicate) : p.columns ⊆ p.paths := by
  induction p with
  | compare left operator right =>
    by_cases hempty : operator = .isIn ∧ right = .list []
    · obtain ⟨rfl, rfl⟩ := hempty
      exact List.nil_subset _
    · rw [columns_compare fun hisIn hlist => hempty ⟨hisIn, hlist⟩]
      exact List.Subset.refl _
  | and left right ihl ihr | or left right ihl ihr =>
    intro q hq
    rcases List.mem_append.1 hq with hq | hq
    · exact List.mem_append_left _ (ihl hq)
    · exact List.mem_append_right _ (ihr hq)
  | not inner ih => exact ih
  | like | between | isNull | true | false => exact List.Subset.refl _

end Predicate

namespace Sql

/-- The text of a fragment that is a column. Nothing else in a condition begins with a quote. -/
def Fragment.column? : Fragment → Option String
  | .text s => if s.toList.head? = some '"' then some s else none
  | .argument _ => none

variable {scope : Scope} {fs : List Fragment}

theorem toList_identifier (name : String) :
    (identifier name).toList = '"' :: ((Text.doubled '"' name).toList ++ ['"']) := by
  simp [identifier]

theorem column?_column {p : Path} {c : String} (h : scope.column p = .ok c) :
    (Fragment.text c).column? = some c := by
  have hquoted : c.toList.head? = some '"' := by
    unfold Scope.column at h
    dsimp only at h
    split at h
    · split at h <;> cases h <;> simp [column, toList_identifier]
    · split at h
      · cases h
        simp [column, toList_identifier]
      · cases h
  simp [Fragment.column?, hquoted]

theorem column?_ofLiteral (l : Literal) : (ofLiteral l).column? = none := by
  cases l <;> rfl

theorem column?_sign (operator : Comparison) :
    (Fragment.text (" " ++ operator.sign ++ " ")).column? = none := by
  cases operator <;> decide

theorem column?_opening : (Fragment.text "(").column? = none := by decide

theorem column?_closing : (Fragment.text ")").column? = none := by decide

theorem column?_and : (Fragment.text " AND ").column? = none := by decide

theorem columns_ofItems {items : List Expr} (h : ofItems items = .ok fs) :
    Expr.pathsOfItems items = [] ∧ fs.filterMap Fragment.column? = [] := by
  induction items generalizing fs with
  | nil =>
    cases h
    exact ⟨rfl, rfl⟩
  | cons item rest ih =>
    cases item with
    | literal l =>
      cases rest with
      | nil =>
        cases h
        simp [Expr.pathsOfItems, Expr.paths, column?_ofLiteral]
      | cons next rest =>
        obtain ⟨others, hothers, h⟩ := bind_eq_ok.1 h
        cases h
        obtain ⟨hpaths, hcolumns⟩ := ih hothers
        have hcomma : (Fragment.text ", ").column? = none := by decide
        rw [Expr.pathsOfItems, hpaths]
        simp [Expr.paths, hcolumns, column?_ofLiteral, hcomma]
    | path | upper | timeOfDay | list => cases h

/-- The columns of an expression are those of the paths that it reads. -/
theorem columns_ofExpr {e : Expr} (h : ofExpr scope e = .ok fs) :
    e.paths.mapM scope.column = .ok (fs.filterMap Fragment.column?) := by
  fun_induction ofExpr scope e generalizing fs with
  | case1 l =>
    cases h
    simp [Expr.paths, column?_ofLiteral, pure, Except.pure]
  | case2 p =>
    obtain ⟨c, hc, h⟩ := bind_eq_ok.1 h
    cases h
    simp [Expr.paths, hc, column?_column hc, bind, Except.bind, pure, Except.pure]
  | case3 inner ih =>
    obtain ⟨gs, hgs, h⟩ := bind_eq_ok.1 h
    cases h
    have hopening : (Fragment.text "UPPER(").column? = none := by decide
    simpa [Expr.paths, hopening, column?_closing] using ih hgs
  | case4 inner ih =>
    obtain ⟨gs, hgs, h⟩ := bind_eq_ok.1 h
    cases h
    have hopening : (Fragment.text "CAST((").column? = none := by decide
    have hclosing : (Fragment.text " AT TIME ZONE 'UTC') AS TIME)").column? = none := by decide
    simpa [Expr.paths, hopening, hclosing] using ih hgs
  | case5 items =>
    obtain ⟨gs, hgs, h⟩ := bind_eq_ok.1 h
    cases h
    obtain ⟨hpaths, hcolumns⟩ := columns_ofItems hgs
    simp [Expr.paths, hpaths, hcolumns, column?_opening, column?_closing, pure, Except.pure]

/-- **The columns of a condition** are those of the paths that belong to it, in order. -/
theorem columns_ofPredicate {p : Predicate} (h : ofPredicate scope p = .ok fs) :
    p.columns.mapM scope.column = .ok (fs.filterMap Fragment.column?) := by
  induction p generalizing fs with
  | compare left operator right =>
    rw [ofPredicate] at h
    unfold ofComparison at h
    split at h
    · cases h
      rfl
    · next hfull =>
      obtain ⟨l, hl, h⟩ := bind_eq_ok.1 h
      obtain ⟨r, hr, h⟩ := bind_eq_ok.1 h
      cases h
      rw [Predicate.columns_compare hfull, List.filterMap_append,
        List.filterMap_cons_none (column?_sign operator)]
      exact mapM_append_ok (columns_ofExpr hl) (columns_ofExpr hr)
  | like expr pattern =>
    obtain ⟨e, he, h⟩ := bind_eq_ok.1 h
    cases h
    have hword : (Fragment.text " LIKE ").column? = none := by decide
    have hpattern : (Fragment.argument (.string pattern)).column? = none := rfl
    simpa [Predicate.columns, hword, hpattern] using columns_ofExpr he
  | between expr low high =>
    obtain ⟨e, he, h⟩ := bind_eq_ok.1 h
    obtain ⟨l, hl, h⟩ := bind_eq_ok.1 h
    obtain ⟨u, hu, h⟩ := bind_eq_ok.1 h
    cases h
    have hbetween : (Fragment.text " BETWEEN ").column? = none := by decide
    simp only [Predicate.columns, List.filterMap_append, List.filterMap_cons_none hbetween,
      List.filterMap_cons_none column?_and]
    exact mapM_append_ok (mapM_append_ok (columns_ofExpr he) (columns_ofExpr hl))
      (columns_ofExpr hu)
  | isNull expr =>
    obtain ⟨e, he, h⟩ := bind_eq_ok.1 h
    cases h
    have hword : (Fragment.text " IS NULL").column? = none := by decide
    simpa [Predicate.columns, hword] using columns_ofExpr he
  | and left right ihl ihr =>
    obtain ⟨l, hl, h⟩ := bind_eq_ok.1 h
    obtain ⟨r, hr, h⟩ := bind_eq_ok.1 h
    cases h
    rw [Predicate.columns, List.filterMap_append, List.filterMap_cons_none column?_and]
    exact mapM_append_ok (ihl hl) (ihr hr)
  | or left right ihl ihr =>
    obtain ⟨l, hl, h⟩ := bind_eq_ok.1 h
    obtain ⟨r, hr, h⟩ := bind_eq_ok.1 h
    cases h
    have hor : (Fragment.text " OR ").column? = none := by decide
    simpa [Predicate.columns, column?_opening, hor, column?_closing] using
      mapM_append_ok (ihl hl) (ihr hr)
  | not inner ih =>
    obtain ⟨gs, hgs, h⟩ := bind_eq_ok.1 h
    cases h
    have hopening : (Fragment.text "NOT (").column? = none := by decide
    simpa [Predicate.columns, hopening, column?_closing] using ih hgs
  | true | false =>
    cases h
    rfl

end Sql

end RowFilter
