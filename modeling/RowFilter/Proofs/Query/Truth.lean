import Mathlib.Data.Multiset.Fold
import RowFilter.Proofs.Query.Evaluation

/-!
# Truth values of predicates

The truth that a predicate has if it can be evaluated, put together from the values that it
compares. Conjunctions and disjunctions do not depend on the order of their parts, and evaluation,
which passes over what has been decided, gives the same as evaluating every part.
-/

namespace RowFilter

/-! ## Truth -/

namespace Truth

/-- The conjunction of several truth values. -/
def all (ts : List Truth) : Truth := ts.foldl Truth.and (some true)

/-- The disjunction of several truth values. -/
def any (ts : List Truth) : Truth := ts.foldl Truth.or (some false)

theorem and_comm (t u : Truth) : Truth.and t u = Truth.and u t := by
  rcases t with _ | _ | _ <;> rcases u with _ | _ | _ <;> rfl

theorem and_assoc (t u v : Truth) : (t.and u).and v = t.and (u.and v) := by
  rcases t with _ | _ | _ <;> rcases u with _ | _ | _ <;> rcases v with _ | _ | _ <;> rfl

theorem or_comm (t u : Truth) : Truth.or t u = Truth.or u t := by
  rcases t with _ | _ | _ <;> rcases u with _ | _ | _ <;> rfl

theorem or_assoc (t u v : Truth) : (t.or u).or v = t.or (u.or v) := by
  rcases t with _ | _ | _ <;> rcases u with _ | _ | _ <;> rcases v with _ | _ | _ <;> rfl

@[simp] theorem true_and (t : Truth) : Truth.and (some true) t = t := by
  rcases t with _ | _ | _ <;> rfl

@[simp] theorem false_or (t : Truth) : Truth.or (some false) t = t := by
  rcases t with _ | _ | _ <;> rfl

variable {ts us : List Truth}

/-- The order of the parts of a conjunction does not matter. -/
theorem all_perm (h : ts.Perm us) : Truth.all ts = Truth.all us := by
  refine h.foldl_eq' (fun t _ u _ v => ?_) _
  rw [and_assoc, and_assoc, and_comm t u]

theorem any_perm (h : ts.Perm us) : Truth.any ts = Truth.any us := by
  refine h.foldl_eq' (fun t _ u _ v => ?_) _
  rw [or_assoc, or_assoc, or_comm t u]

/-- A fold does not see order and repetition if the operation does not. -/
theorem foldl_eq_of_mem_iff {op : Truth → Truth → Truth} [Std.Commutative op] [Std.Associative op]
    [Std.IdempotentOp op] (start : Truth) (h : ∀ t, t ∈ ts ↔ t ∈ us) :
    ts.foldl op start = us.foldl op start := by
  have hdedup : (ts : Multiset Truth).dedup = (us : Multiset Truth).dedup :=
    Multiset.dedup_ext.2 h
  rw [← Multiset.coe_fold_l, ← Multiset.coe_fold_l, ← Multiset.fold_dedup_idem op, hdedup,
    Multiset.fold_dedup_idem]

instance : Std.Commutative Truth.and := ⟨and_comm⟩

instance : Std.Associative Truth.and := ⟨and_assoc⟩

instance : Std.IdempotentOp Truth.and := ⟨fun t => by rcases t with _ | _ | _ <;> rfl⟩

instance : Std.Commutative Truth.or := ⟨or_comm⟩

instance : Std.Associative Truth.or := ⟨or_assoc⟩

instance : Std.IdempotentOp Truth.or := ⟨fun t => by rcases t with _ | _ | _ <;> rfl⟩

theorem all_eq_of_mem_iff (h : ∀ t, t ∈ ts ↔ t ∈ us) : Truth.all ts = Truth.all us :=
  foldl_eq_of_mem_iff _ h

theorem any_eq_of_mem_iff (h : ∀ t, t ∈ ts ↔ t ∈ us) : Truth.any ts = Truth.any us :=
  foldl_eq_of_mem_iff _ h

theorem foldl_or (t u : Truth) (ts : List Truth) :
    ts.foldl Truth.or (t.or u) = t.or (ts.foldl Truth.or u) := by
  induction ts generalizing u with
  | nil => rfl
  | cons v ts ih =>
    rw [List.foldl_cons, List.foldl_cons, or_assoc]
    exact ih (u.or v)

theorem any_cons (t : Truth) (ts : List Truth) : Truth.any (t :: ts) = t.or (Truth.any ts) := by
  rw [Truth.any, List.foldl_cons, or_comm, foldl_or]
  rfl

end Truth

/-! ## Values -/

namespace Literal

/-- A text in upper case, as a string. Other values are kept. -/
def folded : Literal → Literal
  | string s => string (Text.upper s)
  | enum member => string (Text.upper member)
  | char c => string (String.ofList (Text.upperChar c))
  | l => l

/-- The truth of a comparison. It is unknown if a side is absent. -/
def compareTruth (operator : Comparison) (l r : Literal) : Truth :=
  (l.collate r).map operator.holds

/-- The truth of matching a pattern. -/
def likeTruth (l : Literal) (pattern : String) : Truth :=
  l.characters?.map fun s => Like.isMatch s pattern

/-- The truth of being equal to one of several candidates. -/
def memberTruth (l : Literal) (candidates : List Literal) : Truth :=
  if l.isNull then none else Truth.any (candidates.map (l.compareTruth .equal))

/-- The time of day of a value that has one. -/
def clock (l : Literal) : Literal := (l.timeOfDay?.map time).getD null

variable {l r : Literal} {operator : Comparison}

@[simp] theorem collate_null_left (r : Literal) : null.collate r = none := by
  cases r <;> rfl

@[simp] theorem collate_null_right (l : Literal) : l.collate null = none := by
  cases l <;> rfl

theorem compareTruth_of_null (h : (l.isNull || r.isNull) = true) :
    l.compareTruth operator r = none := by
  unfold compareTruth
  cases l <;> cases r <;> simp_all [isNull]

theorem compareTruth_of_collate {o : Ordering} (h : collateOrMismatch l r = .ok o) :
    l.compareTruth operator r = some (operator.holds o) := by
  unfold collateOrMismatch at h
  unfold compareTruth
  split at h
  · next o' ho' =>
    cases h
    rw [ho']
    rfl
  · cases h

end Literal

/-! ## Predicates with a known truth -/

namespace Predicate

variable {R : Type} [Filterable R] {b : Binding R} {p q : Predicate} {t u : Truth}

/-- Whether a truth value is the only one that evaluating a predicate can give. -/
def Means (b : Binding R) (t : Truth) (p : Predicate) : Prop := ∀ u, p.evaluate b = .ok u → u = t

theorem means_true : Means b (some .true) true := by
  intro u hu
  cases hu
  rfl

theorem Means.and (hp : p.Means b t) (hq : q.Means b u) : (and p q).Means b (t.and u) := by
  intro v hv
  obtain ⟨l, r, hl, hr, rfl⟩ := evaluate_and_ok hv
  rw [hp l hl] at hr ⊢
  rcases hr with rfl | hr
  · rw [Truth.false_and, Truth.false_and]
  · rw [hq r hr]

theorem Means.or (hp : p.Means b t) (hq : q.Means b u) : (or p q).Means b (t.or u) := by
  intro v hv
  obtain ⟨l, r, hl, hr, rfl⟩ := evaluate_or_ok hv
  rw [hp l hl] at hr ⊢
  rcases hr with rfl | hr
  · rw [Truth.true_or, Truth.true_or]
  · rw [hq r hr]

theorem Means.foldl_and {ps : List Predicate} {ts : List Truth} (hp : p.Means b t)
    (h : List.Forall₂ (fun q u => q.Means b u) ps ts) :
    (ps.foldl .and p).Means b (ts.foldl Truth.and t) := by
  induction h generalizing p t with
  | nil => exact hp
  | cons hq _ ih => exact ih (hp.and hq)

theorem Means.foldl_or {ps : List Predicate} {ts : List Truth} (hp : p.Means b t)
    (h : List.Forall₂ (fun q u => q.Means b u) ps ts) :
    (ps.foldl .or p).Means b (ts.foldl Truth.or t) := by
  induction h generalizing p t with
  | nil => exact hp
  | cons hq _ ih => exact ih (hp.or hq)

variable {R : Type} [Filterable R] {b : Binding R} {left : Expr} {l r : Literal}
  {operator : Comparison}

theorem means_compare (hoperator : operator ≠ .isIn)
    (hleft : ∀ l', left.evaluate b = .ok l' → l' = l) :
    (compare left operator (.literal r)).Means b (l.compareTruth operator r) := by
  intro t ht
  rw [evaluate_compare hoperator] at ht
  obtain ⟨l', hl', ht⟩ := bind_eq_ok.1 ht
  obtain ⟨r', hr', ht⟩ := bind_eq_ok.1 ht
  cases hr'
  rw [hleft l' hl'] at ht
  split at ht
  · next hnull =>
    cases ht
    exact (Literal.compareTruth_of_null hnull).symm
  · obtain ⟨o, ho, ht⟩ := bind_eq_ok.1 ht
    cases ht
    exact (Literal.compareTruth_of_collate ho).symm

theorem isMember_means {ls : List Literal} {t : Truth}
    (h : isMember b l (ls.map .literal) = .ok t) :
    t = Truth.any (ls.map (l.compareTruth .equal)) := by
  induction ls generalizing t with
  | nil =>
    cases h
    rfl
  | cons r rest ih =>
    rw [List.map_cons, isMember] at h
    obtain ⟨r', hr', h⟩ := bind_eq_ok.1 h
    cases hr'
    rw [List.map_cons, Truth.any_cons]
    split at h
    · next hnull =>
      obtain ⟨others, hothers, h⟩ := bind_eq_ok.1 h
      cases h
      rw [Literal.compareTruth_of_null (by rw [hnull, Bool.or_true]), ← ih hothers]
      rcases others with _ | _ | _ <;> rfl
    · obtain ⟨o, ho, h⟩ := bind_eq_ok.1 h
      rw [Literal.compareTruth_of_collate ho]
      cases o with
      | eq =>
        cases h
        exact (Truth.true_or _).symm
      | lt | gt =>
        rw [ih h]
        exact (Truth.false_or _).symm

theorem means_isIn {ls : List Literal} (hleft : ∀ l', left.evaluate b = .ok l' → l' = l) :
    (compare left .isIn (.list (ls.map .literal))).Means b (l.memberTruth ls) := by
  intro t ht
  rw [evaluate] at ht
  obtain ⟨l', hl', ht⟩ := bind_eq_ok.1 ht
  rw [hleft l' hl'] at ht
  dsimp only at ht
  unfold Literal.memberTruth
  split at ht
  · next hnull =>
    cases ht
    rw [if_pos hnull]
  · next hnull =>
    rw [if_neg hnull]
    exact isMember_means ht

theorem means_like {pattern : String} (hleft : ∀ l', left.evaluate b = .ok l' → l' = l) :
    (like left pattern).Means b (l.likeTruth pattern) := by
  intro t ht
  rw [evaluate] at ht
  obtain ⟨l', hl', ht⟩ := bind_eq_ok.1 ht
  rw [hleft l' hl'] at ht
  unfold Literal.likeTruth
  split at ht
  · next s hs =>
    cases ht
    rw [hs]
    rfl
  · next hs =>
    split at ht
    · cases ht
      rw [hs]
      rfl
    · cases ht

/-- A range is the conjunction of its bounds, which have to be there: an absent bound would make it
unknown even where the other bound is not met. -/
theorem means_between {low high : Literal} (hleft : ∀ l', left.evaluate b = .ok l' → l' = l)
    (hlow : low.isNull = .false) (hhigh : high.isNull = .false) :
    (between left (.literal low) (.literal high)).Means b
      (Truth.and (l.compareTruth .greaterThanOrEqual low)
        (l.compareTruth .lessThanOrEqual high)) := by
  intro t ht
  rw [evaluate] at ht
  obtain ⟨l', hl', ht⟩ := bind_eq_ok.1 ht
  obtain ⟨low', hlow', ht⟩ := bind_eq_ok.1 ht
  obtain ⟨high', hhigh', ht⟩ := bind_eq_ok.1 ht
  cases hlow'
  cases hhigh'
  rw [hleft l' hl', isBetween, hlow, hhigh, Bool.or_false, Bool.or_false] at ht
  split at ht
  · next hnull =>
    cases ht
    rw [Literal.compareTruth_of_null (by rw [hnull, Bool.true_or]),
      Literal.compareTruth_of_null (by rw [hnull, Bool.true_or])]
    rfl
  · split at ht
    · next inside hinside =>
      cases ht
      obtain ⟨above, habove, hinside⟩ := Option.bind_eq_some_iff.1 hinside
      obtain ⟨below, hbelow, hinside⟩ := Option.bind_eq_some_iff.1 hinside
      cases hinside
      obtain ⟨o, ho, rfl⟩ := Option.map_eq_some_iff.1 habove
      obtain ⟨o', ho', rfl⟩ := Option.map_eq_some_iff.1 hbelow
      unfold Literal.compareTruth
      rw [ho, ho']
      cases o <;> cases o' <;> rfl
    · cases ht

end Predicate

end RowFilter
