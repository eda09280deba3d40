import RowFilter.Proofs.Query.Scope

/-!
# Definite predicates

Only absent values make a comparison unknown. A predicate that contains no absent literal, and reads
no absent value, is true or false wherever it can be evaluated.
-/

namespace RowFilter

/-! ## Literals -/

namespace Expr

mutual

/-- The literals of an expression. -/
def literals : Expr → List Literal
  | literal l => [l]
  | path _ => []
  | upper inner => inner.literals
  | timeOfDay inner => inner.literals
  | list items => literalsOfItems items

/-- The literals of the items of a list. -/
def literalsOfItems : List Expr → List Literal
  | [] => []
  | e :: rest => e.literals ++ literalsOfItems rest

end

end Expr

/-- The literals of a predicate. The pattern of a match is none. -/
def Predicate.literals : Predicate → List Literal
  | compare left _ right => left.literals ++ right.literals
  | like expr _ => expr.literals
  | between expr low high => expr.literals ++ low.literals ++ high.literals
  | isNull expr => expr.literals
  | and left right => left.literals ++ right.literals
  | or left right => left.literals ++ right.literals
  | not inner => inner.literals
  | true => []
  | false => []

variable {R : Type} [Filterable R] {b : Binding R}

/-- Whether nothing that stands in an expression or is read by it is absent. -/
structure Binding.Provides (b : Binding R) (literals : List Literal) (paths : List Path) :
    Prop where
  literals : ∀ l ∈ literals, l.isNull = false
  paths : ∀ p ∈ paths, ∀ l, (Expr.path p).evaluate b = .ok l → l.isNull = false

theorem Binding.provides_append {literals literals' : List Literal} {paths paths' : List Path} :
    b.Provides (literals ++ literals') (paths ++ paths') ↔
      b.Provides literals paths ∧ b.Provides literals' paths' := by
  constructor
  · rintro ⟨hliterals, hpaths⟩
    obtain ⟨hl, hl'⟩ := List.forall_mem_append.1 hliterals
    obtain ⟨hp, hp'⟩ := List.forall_mem_append.1 hpaths
    exact ⟨⟨hl, hp⟩, ⟨hl', hp'⟩⟩
  · rintro ⟨h, h'⟩
    exact ⟨List.forall_mem_append.2 ⟨h.literals, h'.literals⟩,
      List.forall_mem_append.2 ⟨h.paths, h'.paths⟩⟩

/-! ## Evaluation -/

theorem Expr.isNull_of_evaluate {e : Expr} {l : Literal} (hb : b.Provides e.literals e.paths)
    (h : e.evaluate b = .ok l) : l.isNull = false := by
  fun_induction Expr.isSingle e generalizing l with
  | case1 l' =>
    cases h
    exact hb.literals _ List.mem_cons_self
  | case2 p => exact hb.paths p List.mem_cons_self l h
  | case3 inner ih =>
    rw [evaluate_upper] at h
    obtain ⟨value, hvalue, h⟩ := bind_eq_ok.1 h
    have hpresent := ih hb hvalue
    cases value with
    | null => cases hpresent
    | string | enum | char =>
      cases h
      rfl
    | _ => cases h
  | case4 inner ih =>
    rw [evaluate_timeOfDay] at h
    obtain ⟨value, hvalue, h⟩ := bind_eq_ok.1 h
    split at h
    · cases h
      rfl
    · rw [ih hb hvalue] at h
      cases h
  | case5 items => cases h

namespace Predicate

variable {p : Predicate} {t : Truth}

theorem exists_of_isMember {value : Literal} {candidates : List Expr}
    (hb : b.Provides (Expr.literalsOfItems candidates) (Expr.pathsOfItems candidates))
    (h : isMember b value candidates = .ok t) : ∃ found, t = some found := by
  induction candidates with
  | nil =>
    cases h
    exact ⟨_, rfl⟩
  | cons candidate rest ih =>
    rw [Expr.literalsOfItems, Expr.pathsOfItems, Binding.provides_append] at hb
    rw [isMember] at h
    obtain ⟨l, hl, h⟩ := bind_eq_ok.1 h
    rw [Expr.isNull_of_evaluate hb.1 hl] at h
    obtain ⟨o, _, h⟩ := bind_eq_ok.1 h
    split at h
    · cases h
      exact ⟨_, rfl⟩
    · exact ih hb.2 h

theorem exists_of_isBetween {value low high : Literal} (hvalue : value.isNull = .false)
    (hlow : low.isNull = .false) (hhigh : high.isNull = .false)
    (h : isBetween value low high = .ok t) : ∃ found, t = some found := by
  have hpresent : ¬(value.isNull || low.isNull || high.isNull) = .true := by
    simp [hvalue, hlow, hhigh]
  rw [isBetween, if_neg hpresent] at h
  split at h <;> cases h
  exact ⟨_, rfl⟩

/-- **A predicate without absent values is true or false** wherever it can be evaluated. -/
theorem exists_of_evaluate (hb : b.Provides p.literals p.paths) (h : p.evaluate b = .ok t) :
    ∃ found, t = some found := by
  induction p generalizing t with
  | compare left operator right =>
    obtain ⟨hleft, hright⟩ := Binding.provides_append.1 hb
    by_cases hisIn : operator = .isIn
    · subst hisIn
      rw [evaluate] at h
      obtain ⟨l, hl, h⟩ := bind_eq_ok.1 h
      split at h
      · rw [Expr.isNull_of_evaluate hleft hl] at h
        exact exists_of_isMember hright h
      · cases h
    · rw [evaluate_compare hisIn] at h
      obtain ⟨l, hl, h⟩ := bind_eq_ok.1 h
      obtain ⟨r, hr, h⟩ := bind_eq_ok.1 h
      rw [Expr.isNull_of_evaluate hleft hl, Expr.isNull_of_evaluate hright hr] at h
      obtain ⟨o, _, h⟩ := bind_eq_ok.1 h
      cases h
      exact ⟨_, rfl⟩
  | like expr pattern =>
    rw [evaluate] at h
    obtain ⟨l, hl, h⟩ := bind_eq_ok.1 h
    split at h
    · cases h
      exact ⟨_, rfl⟩
    · rw [Expr.isNull_of_evaluate hb hl] at h
      cases h
  | between expr low high =>
    obtain ⟨hb, hhigh⟩ := Binding.provides_append.1 hb
    obtain ⟨hexpr, hlow⟩ := Binding.provides_append.1 hb
    rw [evaluate] at h
    obtain ⟨value, hvalue, h⟩ := bind_eq_ok.1 h
    obtain ⟨l, hl, h⟩ := bind_eq_ok.1 h
    obtain ⟨u, hu, h⟩ := bind_eq_ok.1 h
    exact exists_of_isBetween (Expr.isNull_of_evaluate hexpr hvalue)
      (Expr.isNull_of_evaluate hlow hl) (Expr.isNull_of_evaluate hhigh hu) h
  | isNull expr =>
    rw [evaluate] at h
    obtain ⟨l, _, h⟩ := bind_eq_ok.1 h
    cases h
    exact ⟨_, rfl⟩
  | and left right ihl ihr =>
    obtain ⟨hleft, hright⟩ := Binding.provides_append.1 hb
    obtain ⟨l, r, hl, hr, rfl⟩ := evaluate_and_ok h
    obtain ⟨x, rfl⟩ := ihl hleft hl
    rcases hr with hfalse | hr
    · rw [hfalse, Truth.false_and]
      exact ⟨_, rfl⟩
    · obtain ⟨y, rfl⟩ := ihr hright hr
      cases x <;> cases y <;> exact ⟨_, rfl⟩
  | or left right ihl ihr =>
    obtain ⟨hleft, hright⟩ := Binding.provides_append.1 hb
    obtain ⟨l, r, hl, hr, rfl⟩ := evaluate_or_ok h
    obtain ⟨x, rfl⟩ := ihl hleft hl
    rcases hr with htrue | hr
    · rw [htrue, Truth.true_or]
      exact ⟨_, rfl⟩
    · obtain ⟨y, rfl⟩ := ihr hright hr
      cases x <;> cases y <;> exact ⟨_, rfl⟩
  | not inner ih =>
    obtain ⟨x, hx, rfl⟩ := evaluate_not_ok h
    obtain ⟨y, rfl⟩ := ih hb hx
    exact ⟨_, rfl⟩
  | true | false =>
    cases h
    exact ⟨_, rfl⟩

end Predicate

end RowFilter
