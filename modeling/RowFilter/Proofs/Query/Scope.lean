import RowFilter.Proofs.Query.Expansion
import RowFilter.Query.Sql

/-!
# Scope

A path can be read where the record that has its last step is at hand: the root record, or the
record of a join. A predicate that reads no other path, and has its lists where lists belong, has an
SQL form, and its evaluation can only fail because of what a record holds. Joins that come after
their owners can be declared and followed one after another.
-/

namespace RowFilter

/-! ## Paths and lists -/

namespace Expr

mutual

/-- The paths that an expression reads. -/
def paths : Expr → List Path
  | literal _ => []
  | path p => [p]
  | upper inner => inner.paths
  | timeOfDay inner => inner.paths
  | list items => pathsOfItems items

/-- The paths that the items of a list read. -/
def pathsOfItems : List Expr → List Path
  | [] => []
  | e :: rest => e.paths ++ pathsOfItems rest

end

/-- Whether an expression has a single value. -/
def isSingle : Expr → Bool
  | literal _ => true
  | path _ => true
  | upper inner => inner.isSingle
  | timeOfDay inner => inner.isSingle
  | list _ => false

/-- Whether an expression is a literal. -/
def isLiteral : Expr → Bool
  | literal _ => true
  | _ => false

end Expr

namespace Predicate

/-- The paths that a predicate reads. -/
def paths : Predicate → List Path
  | compare left _ right => left.paths ++ right.paths
  | like expr _ => expr.paths
  | between expr low high => expr.paths ++ low.paths ++ high.paths
  | isNull expr => expr.paths
  | and left right => left.paths ++ right.paths
  | or left right => left.paths ++ right.paths
  | not inner => inner.paths
  | true => []
  | false => []

/-- Whether lists of literals stand on the right side of membership tests, and lists nowhere
else. -/
def isWellFormed : Predicate → Bool
  | compare left .isIn (.list items) => left.isSingle && items.all Expr.isLiteral
  | compare _ .isIn _ => .false
  | compare left _ right => left.isSingle && right.isSingle
  | like expr _ => expr.isSingle
  | between expr low high => expr.isSingle && low.isSingle && high.isSingle
  | isNull expr => expr.isSingle
  | and left right => left.isWellFormed && right.isWellFormed
  | or left right => left.isWellFormed && right.isWellFormed
  | not inner => inner.isWellFormed
  | true => .true
  | false => .true

/-- A well-formed predicate compares two single values, or one with a list of literals. -/
theorem isWellFormed_compare {left right : Expr} {operator : Comparison}
    (h : (compare left operator right).isWellFormed = .true) :
    left.isSingle = .true ∧ (operator ≠ .isIn ∧ right.isSingle = .true ∨
      operator = .isIn ∧ ∃ items, right = .list items ∧ items.all Expr.isLiteral = .true) := by
  unfold isWellFormed at h
  split at h
  all_goals simp_all

end Predicate

/-! ## SQL -/

namespace Sql

variable {scope : Scope}

/-- The paths that a scope names. -/
def Scope.Names (scope : Scope) (p : Path) : Prop := p.parent = .root ∨ p.parent ∈ scope.joined

theorem Scope.column_of_names {p : Path} (h : scope.Names p) :
    ∃ column, scope.column p = .ok column := by
  unfold Scope.column
  by_cases hroot : p.parent.isRoot = true
  · rw [if_pos hroot]
    cases scope.root with
    | none => exact ⟨_, rfl⟩
    | some table => exact ⟨_, rfl⟩
  · rw [if_neg hroot]
    rcases h with h | h
    · exact absurd (by rw [h]; rfl) hroot
    · exact ⟨_, if_pos (List.contains_iff_mem.2 h)⟩

theorem ofItems_of_literals {items : List Expr} (h : items.all Expr.isLiteral = true) :
    ∃ fs, ofItems items = .ok fs := by
  induction items with
  | nil => exact ⟨_, rfl⟩
  | cons item rest ih =>
    rw [List.all_cons, Bool.and_eq_true] at h
    cases item with
    | literal l =>
      cases rest with
      | nil => exact ⟨_, rfl⟩
      | cons next rest =>
        obtain ⟨fs, hfs⟩ := ih h.2
        exact ⟨_, by simp only [ofItems, hfs]; rfl⟩
    | path | upper | timeOfDay | list => cases h.1

theorem ofExpr_of_names {e : Expr} (hsingle : e.isSingle = true)
    (hpaths : ∀ p ∈ e.paths, scope.Names p) : ∃ fs, ofExpr scope e = .ok fs := by
  fun_induction Expr.isSingle e with
  | case1 l => exact ⟨_, rfl⟩
  | case2 p =>
    obtain ⟨column, hcolumn⟩ := Scope.column_of_names (hpaths p List.mem_cons_self)
    exact ⟨_, by rw [ofExpr, hcolumn]; rfl⟩
  | case3 inner ih =>
    obtain ⟨fs, hfs⟩ := ih hsingle hpaths
    exact ⟨_, by rw [ofExpr, hfs]; rfl⟩
  | case4 inner ih =>
    obtain ⟨fs, hfs⟩ := ih hsingle hpaths
    exact ⟨_, by rw [ofExpr, hfs]; rfl⟩
  | case5 items => cases hsingle

theorem ofComparison_of_names {left right : Expr} {operator : Comparison}
    (hwell : (Predicate.compare left operator right).isWellFormed = true)
    (hpaths : ∀ p ∈ (Predicate.compare left operator right).paths, scope.Names p) :
    ∃ fs, ofComparison scope left operator right = .ok fs := by
  obtain ⟨hleft, hright⟩ := Predicate.isWellFormed_compare hwell
  obtain ⟨l, hl⟩ := ofExpr_of_names hleft fun p hp => hpaths p (List.mem_append_left _ hp)
  have hr : ∃ r, ofExpr scope right = .ok r := by
    rcases hright with ⟨_, hright⟩ | ⟨_, items, rfl, hitems⟩
    · exact ofExpr_of_names hright fun p hp => hpaths p (List.mem_append_right _ hp)
    · obtain ⟨fs, hfs⟩ := ofItems_of_literals hitems
      exact ⟨_, by rw [ofExpr, hfs]; rfl⟩
  obtain ⟨r, hr⟩ := hr
  unfold ofComparison
  split
  · exact ⟨_, rfl⟩
  · exact ⟨_, by rw [hl, hr]; rfl⟩

/-- A well-formed predicate has an SQL form in a scope that names its paths. -/
theorem ofPredicate_of_names {p : Predicate} (hwell : p.isWellFormed = true)
    (hpaths : ∀ q ∈ p.paths, scope.Names q) : ∃ fs, ofPredicate scope p = .ok fs := by
  induction p with
  | compare left operator right => exact ofComparison_of_names hwell hpaths
  | like expr pattern =>
    obtain ⟨fs, hfs⟩ := ofExpr_of_names hwell hpaths
    exact ⟨_, by rw [ofPredicate, hfs]; rfl⟩
  | between expr low high =>
    simp only [Predicate.isWellFormed, Bool.and_eq_true] at hwell
    simp only [Predicate.paths, List.mem_append, or_imp, forall_and] at hpaths
    obtain ⟨e, he⟩ := ofExpr_of_names hwell.1.1 hpaths.1.1
    obtain ⟨l, hl⟩ := ofExpr_of_names hwell.1.2 hpaths.1.2
    obtain ⟨h, hh⟩ := ofExpr_of_names hwell.2 hpaths.2
    exact ⟨_, by rw [ofPredicate, he, hl, hh]; rfl⟩
  | isNull expr =>
    obtain ⟨fs, hfs⟩ := ofExpr_of_names hwell hpaths
    exact ⟨_, by rw [ofPredicate, hfs]; rfl⟩
  | and left right ihl ihr | or left right ihl ihr =>
    simp only [Predicate.isWellFormed, Bool.and_eq_true] at hwell
    simp only [Predicate.paths, List.mem_append, or_imp, forall_and] at hpaths
    obtain ⟨l, hl⟩ := ihl hwell.1 hpaths.1
    obtain ⟨r, hr⟩ := ihr hwell.2 hpaths.2
    exact ⟨_, by rw [ofPredicate, hl, hr]; rfl⟩
  | not inner ih =>
    obtain ⟨fs, hfs⟩ := ih hwell hpaths
    exact ⟨_, by rw [ofPredicate, hfs]; rfl⟩
  | true | false => exact ⟨_, rfl⟩

end Sql

/-! ## Joins -/

namespace Join

/-- Whether each of several joins follows a relation of a record that is at hand: one of those at
`known` paths, or the record of an earlier join. -/
def OwnersFirst : List Path → List Join → Prop
  | _, [] => True
  | known, join :: rest =>
    join.path.parent ∈ known ∧ OwnersFirst (join.path :: known) rest

variable {known known' : List Path} {joins more before after : List Join} {join : Join}

theorem OwnersFirst.mono (h : OwnersFirst known joins) (hsub : known ⊆ known') :
    OwnersFirst known' joins := by
  induction joins generalizing known known' with
  | nil => trivial
  | cons join rest ih => exact ⟨hsub h.1, ih h.2 (List.cons_subset_cons _ hsub)⟩

theorem OwnersFirst.append (h : OwnersFirst known joins) (hmore : OwnersFirst known more) :
    OwnersFirst known (joins ++ more) := by
  induction joins generalizing known with
  | nil => exact hmore
  | cons join rest ih =>
    exact ⟨h.1, ih h.2 (hmore.mono (List.subset_cons_self _ _))⟩

theorem OwnersFirst.flatMap {α : Type} {items : List α} {f : α → List Join}
    (h : ∀ item ∈ items, OwnersFirst known (f item)) : OwnersFirst known (items.flatMap f) := by
  induction items with
  | nil => trivial
  | cons item rest ih =>
    rw [List.flatMap_cons]
    exact (h item List.mem_cons_self).append (ih fun i hi => h i (List.mem_cons_of_mem _ hi))

/-- The owner of a join is at hand before it. -/
theorem OwnersFirst.parent (h : OwnersFirst known (before ++ join :: after)) :
    join.path.parent ∈ known ∨ join.path.parent ∈ before.map Join.path := by
  induction before generalizing known with
  | nil => exact .inl h.1
  | cons first rest ih =>
    rcases ih h.2 with hknown | hrest
    · rcases List.mem_cons.1 hknown with heq | hknown
      · exact .inr (heq ▸ List.mem_cons_self)
      · exact .inl hknown
    · exact .inr (List.mem_cons_of_mem _ hrest)

/-- A join whose record is at hand already is not needed. -/
theorem OwnersFirst.filter_ne {p : Path} (h : OwnersFirst known joins) (hp : p ∈ known) :
    OwnersFirst known (joins.filter (·.path ≠ p)) := by
  induction joins generalizing known with
  | nil => trivial
  | cons join rest ih =>
    by_cases heq : join.path = p
    · rw [List.filter_cons_of_neg (by simpa using heq)]
      refine (ih h.2 (List.mem_cons_of_mem _ hp)).mono (List.cons_subset.2 ⟨heq ▸ hp, ?_⟩)
      exact List.Subset.refl _
    · rw [List.filter_cons_of_pos (by simpa using heq)]
      exact ⟨h.1, ih h.2 (List.mem_cons_of_mem _ hp)⟩

end Join

namespace Sql

theorem ownerAlias_of_mem {table : String} {joined : List Path} {join : Join}
    (h : join.path.parent = .root ∨ join.path.parent ∈ joined) :
    ∃ owner, ownerAlias table joined join = .ok owner := by
  unfold ownerAlias
  by_cases hroot : join.path.parent.isRoot = true
  · exact ⟨_, if_pos hroot⟩
  · rcases h with h | h
    · exact absurd (by rw [h]; rfl) hroot
    · exact ⟨_, by rw [if_neg hroot, if_pos (List.contains_iff_mem.2 h)]⟩

/-- Joins that come after their owners can be declared. -/
theorem joinClauses_of_ownersFirst {table : String} {joined known : List Path} {joins : List Join}
    (hknown : ∀ p ∈ known, p = .root ∨ p ∈ joined) (h : Join.OwnersFirst known joins) :
    ∃ fs, joinClauses table joined joins = .ok fs := by
  induction joins generalizing known joined with
  | nil => exact ⟨_, rfl⟩
  | cons join rest ih =>
    obtain ⟨owner, howner⟩ : ∃ owner, ownerAlias table joined join = .ok owner :=
      ownerAlias_of_mem (hknown _ h.1)
    have hrest : ∀ p ∈ join.path :: known, p = .root ∨ p ∈ joined ++ [join.path] := by
      intro p hp
      rcases List.mem_cons.1 hp with rfl | hp
      · exact .inr (List.mem_append_right _ List.mem_cons_self)
      · exact (hknown p hp).imp_right (List.mem_append_left _)
    obtain ⟨fs, hfs⟩ := ih hrest h.2
    exact ⟨_, by rw [joinClauses, howner, hfs]; rfl⟩

theorem orderColumns_of_root {scope : Scope} {items : List OrderItem}
    (h : ∀ item ∈ items, item.path.parent = .root) :
    ∃ columns, orderColumns scope items = .ok columns := by
  induction items with
  | nil => exact ⟨_, rfl⟩
  | cons item rest ih =>
    obtain ⟨column, hcolumn⟩ : ∃ column, scope.column item.path = .ok column :=
      Scope.column_of_names (.inl (h item List.mem_cons_self))
    obtain ⟨columns, hcolumns⟩ := ih fun i hi => h i (List.mem_cons_of_mem _ hi)
    exact ⟨_, by rw [orderColumns, hcolumn, hcolumns]; rfl⟩

theorem orderClause_of_root {scope : Scope} {items : List OrderItem}
    (h : ∀ item ∈ items, item.path.parent = .root) : ∃ fs, orderClause scope items = .ok fs := by
  obtain ⟨columns, hcolumns⟩ : ∃ columns, orderColumns scope items = .ok columns :=
    orderColumns_of_root h
  cases items with
  | nil => exact ⟨_, rfl⟩
  | cons item rest => exact ⟨_, by simp only [orderClause, hcolumns]; rfl⟩

theorem fromWhere_of_scoped {table : String} {s : Selection}
    (hjoins : Join.OwnersFirst [.root] s.joins) (hwell : s.predicate.isWellFormed = true)
    (hpaths : ∀ p ∈ s.predicate.paths, p.parent = .root ∨ p.parent ∈ s.joins.map Join.path) :
    ∃ fs, fromWhere table s = .ok fs := by
  obtain ⟨clauses, hclauses⟩ : ∃ fs, joinClauses table [] s.joins = .ok fs :=
    joinClauses_of_ownersFirst (fun p hp => .inl (List.mem_singleton.1 hp)) hjoins
  obtain ⟨condition, hcondition⟩ : ∃ fs, ofPredicate (scopeOf table s) s.predicate = .ok fs :=
    ofPredicate_of_names hwell hpaths
  exact ⟨_, by rw [fromWhere, hclauses, hcondition]; rfl⟩

/-- A selection has an SQL form if its joins come after their owners, its predicate is well-formed
and reads only what is joined, and its order goes by columns of the root record. -/
theorem select_of_scoped {table : String} {s : Selection}
    (hjoins : Join.OwnersFirst [.root] s.joins) (hwell : s.predicate.isWellFormed = true)
    (hpaths : ∀ p ∈ s.predicate.paths, p.parent = .root ∨ p.parent ∈ s.joins.map Join.path)
    (horder : ∀ item ∈ s.orderBy.getD [], item.path.parent = .root) :
    ∃ statement, select table s = .ok statement := by
  obtain ⟨rows, hrows⟩ : ∃ fs, fromWhere table s = .ok fs :=
    fromWhere_of_scoped hjoins hwell hpaths
  obtain ⟨order, horder⟩ : ∃ fs, orderClause (scopeOf table s) (s.orderBy.getD []) = .ok fs :=
    orderClause_of_root horder
  exact ⟨_, by rw [select, hrows, horder]; rfl⟩

end Sql

/-! ## Evaluation -/

/-- Whether an error is about what a record holds, and not about the shape of a predicate or about
what is joined. -/
def EvalError.isOfRecord : EvalError → Bool
  | relationNotFound _ => true
  | typeMismatch _ _ => true
  | invalidArgument _ _ => true
  | unboundPath _ => false
  | misplacedList => false
  | missingList => false

variable {R : Type} [Filterable R] {b : Binding R} {e : EvalError}

/-- Whether a choice has a record for the owner of every one of some paths. -/
def Binding.Reaches (b : Binding R) (paths : List Path) : Prop :=
  ∀ p ∈ paths, ∃ owner, b.get? p.parent = some owner

theorem Expr.isOfRecord_of_evaluate {expr : Expr} (hsingle : expr.isSingle = true)
    (hpaths : b.Reaches expr.paths) (h : expr.evaluate b = .error e) : e.isOfRecord = true := by
  fun_induction Expr.isSingle expr with
  | case1 l => cases h
  | case2 p =>
    obtain ⟨owner, howner⟩ := hpaths p List.mem_cons_self
    rw [evaluate_path, howner] at h
    cases h
  | case3 inner ih =>
    rw [evaluate_upper] at h
    rcases bind_eq_error.1 h with h | ⟨l, _, h⟩
    · exact ih hsingle hpaths h
    · cases l <;> cases h <;> rfl
  | case4 inner ih =>
    rw [evaluate_timeOfDay] at h
    rcases bind_eq_error.1 h with h | ⟨l, _, h⟩
    · exact ih hsingle hpaths h
    · split at h
      · cases h
      · split at h <;> cases h
        rfl
  | case5 items => cases hsingle

theorem isOfRecord_of_collateOrMismatch {left right : Literal}
    (h : collateOrMismatch left right = .error e) : e.isOfRecord = true := by
  unfold collateOrMismatch at h
  split at h <;> cases h
  rfl

namespace Predicate

theorem isOfRecord_of_isMember {value : Literal} {items : List Expr}
    (hitems : items.all Expr.isLiteral = .true) (h : isMember b value items = .error e) :
    e.isOfRecord = .true := by
  induction items with
  | nil => cases h
  | cons item rest ih =>
    rw [List.all_cons, Bool.and_eq_true] at hitems
    rw [isMember] at h
    cases item with
    | literal l =>
      rcases bind_eq_error.1 h with h | ⟨l', _, h⟩
      · cases h
      · split at h
        · rcases bind_eq_error.1 h with h | ⟨t, _, h⟩
          · exact ih hitems.2 h
          · cases h
        · rcases bind_eq_error.1 h with h | ⟨o, _, h⟩
          · exact isOfRecord_of_collateOrMismatch h
          · split at h
            · cases h
            · exact ih hitems.2 h
    | path | upper | timeOfDay | list => cases hitems.1

theorem isOfRecord_of_isBetween {value low high : Literal}
    (h : isBetween value low high = .error e) : e.isOfRecord = .true := by
  unfold isBetween at h
  split at h
  · cases h
  · split at h <;> cases h
    rfl

theorem isOfRecord_of_compare {left right : Expr} {operator : Comparison}
    (hwell : (compare left operator right).isWellFormed = .true)
    (hpaths : b.Reaches (compare left operator right).paths)
    (h : (compare left operator right).evaluate b = .error e) : e.isOfRecord = .true := by
  obtain ⟨hleft, hright⟩ := isWellFormed_compare hwell
  have hleftPaths : b.Reaches left.paths := fun p hp => hpaths p (List.mem_append_left _ hp)
  rcases hright with ⟨hoperator, hright⟩ | ⟨rfl, items, rfl, hitems⟩
  · rw [evaluate_compare hoperator] at h
    rcases bind_eq_error.1 h with h | ⟨l, _, h⟩
    · exact Expr.isOfRecord_of_evaluate hleft hleftPaths h
    rcases bind_eq_error.1 h with h | ⟨r, _, h⟩
    · exact Expr.isOfRecord_of_evaluate hright
        (fun p hp => hpaths p (List.mem_append_right _ hp)) h
    · split at h
      · cases h
      · rcases bind_eq_error.1 h with h | ⟨o, _, h⟩
        · exact isOfRecord_of_collateOrMismatch h
        · cases h
  · rw [evaluate] at h
    rcases bind_eq_error.1 h with h | ⟨value, _, h⟩
    · exact Expr.isOfRecord_of_evaluate hleft hleftPaths h
    · dsimp only at h
      split at h
      · cases h
      · exact isOfRecord_of_isMember hitems h

/-- The evaluation of a well-formed predicate that reads only what is joined fails only because of
what a record holds. -/
theorem isOfRecord_of_evaluate {p : Predicate} (hwell : p.isWellFormed = .true)
    (hpaths : b.Reaches p.paths) (h : p.evaluate b = .error e) : e.isOfRecord = .true := by
  induction p generalizing e with
  | compare left operator right => exact isOfRecord_of_compare hwell hpaths h
  | like expr pattern =>
    rw [evaluate] at h
    rcases bind_eq_error.1 h with h | ⟨value, _, h⟩
    · exact Expr.isOfRecord_of_evaluate hwell hpaths h
    · split at h
      · cases h
      · split at h <;> cases h
        rfl
  | between expr low high =>
    simp only [isWellFormed, Bool.and_eq_true] at hwell
    simp only [Binding.Reaches, paths, List.mem_append, or_imp, forall_and] at hpaths
    rw [evaluate] at h
    rcases bind_eq_error.1 h with h | ⟨value, _, h⟩
    · exact Expr.isOfRecord_of_evaluate hwell.1.1 hpaths.1.1 h
    rcases bind_eq_error.1 h with h | ⟨l, _, h⟩
    · exact Expr.isOfRecord_of_evaluate hwell.1.2 hpaths.1.2 h
    rcases bind_eq_error.1 h with h | ⟨u, _, h⟩
    · exact Expr.isOfRecord_of_evaluate hwell.2 hpaths.2 h
    · exact isOfRecord_of_isBetween h
  | isNull expr =>
    rw [evaluate] at h
    rcases bind_eq_error.1 h with h | ⟨value, _, h⟩
    · exact Expr.isOfRecord_of_evaluate hwell hpaths h
    · cases h
  | and left right ihl ihr | or left right ihl ihr =>
    simp only [isWellFormed, Bool.and_eq_true] at hwell
    simp only [Binding.Reaches, paths, List.mem_append, or_imp, forall_and] at hpaths
    rw [evaluate] at h
    rcases bind_eq_error.1 h with h | ⟨l, _, h⟩
    · exact ihl hwell.1 hpaths.1 h
    · split at h
      · cases h
      · rcases bind_eq_error.1 h with h | ⟨r, _, h⟩
        · exact ihr hwell.2 hpaths.2 h
        · cases h
  | not inner ih =>
    rw [evaluate] at h
    rcases bind_eq_error.1 h with h | ⟨t, _, h⟩
    · exact ih hwell hpaths h
    · cases h
  | true | false => cases h

theorem isTrueUnderSome_error {p : Predicate} {bindings : List (Binding R)}
    (h : p.isTrueUnderSome bindings = .error e) : ∃ b ∈ bindings, p.evaluate b = .error e := by
  induction bindings with
  | nil => cases h
  | cons b rest ih =>
    rw [isTrueUnderSome] at h
    rcases bind_eq_error.1 h with h | ⟨t, _, h⟩
    · exact ⟨b, List.mem_cons_self, h⟩
    · split at h
      · cases h
      · obtain ⟨b', hb', h⟩ := ih h
        exact ⟨b', List.mem_cons_of_mem _ hb', h⟩

end Predicate

namespace Binding

variable {record : R} {joins : List Join}

/-- Where joins come after their owners, every choice has a record for each of them, and following
one more join fails only because of what a record holds. -/
theorem expand_of_ownersFirst (h : Join.OwnersFirst [.root] joins) :
    (∀ e, expand record joins = .error e → e.isOfRecord = true) ∧
      ∀ bindings, expand record joins = .ok bindings → ∀ b ∈ bindings, b.Covers joins := by
  refine expand_induct (motive := fun before b => b.Covers before) covers_root ?_
  rintro before join after b rfl hb
  refine ⟨fun e he => ?_, fun next hnext b' hb' => hb.follow hnext hb'⟩
  obtain ⟨owner, howner⟩ := hb _ (h.parent.imp_left List.mem_singleton.1)
  rw [Binding.follow, howner] at he
  dsimp only at he
  split at he <;> cases he
  rfl

end Binding

/-- A well-formed predicate that reads only what is joined, with joins that come after their owners,
fails on a record only because of what a record holds. -/
theorem Predicate.isOfRecord_of_passes {record : R} {joins : List Join} {p : Predicate}
    (hjoins : Join.OwnersFirst [.root] joins) (hwell : p.isWellFormed = .true)
    (hpaths : ∀ q ∈ p.paths, q.parent = .root ∨ q.parent ∈ joins.map Join.path)
    (h : p.passes record joins = .error e) : e.isOfRecord = .true := by
  rcases bind_eq_error.1 h with h | ⟨bindings, hbindings, h⟩
  · exact (Binding.expand_of_ownersFirst hjoins).1 e h
  · obtain ⟨b, hb, h⟩ := isTrueUnderSome_error h
    refine isOfRecord_of_evaluate hwell (fun q hq => ?_) h
    exact (Binding.expand_of_ownersFirst hjoins).2 bindings hbindings b hb q.parent (hpaths q hq)

end RowFilter
