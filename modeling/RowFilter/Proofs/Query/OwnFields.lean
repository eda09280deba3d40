import RowFilter.Proofs.Query.Scope

/-!
# Predicates on a record's own fields

The value of a predicate depends on the records that its paths are read from and on nothing else. A
predicate that reads no path behind a relation is therefore decided by the record alone, whatever
records are joined to it.
-/

namespace RowFilter

/-- Whether a predicate reads only the record's own fields. -/
def Predicate.ReadsOwnFields (p : Predicate) : Prop := ∀ q ∈ p.paths, q.parent = .root

variable {R : Type} [Filterable R] {b b' : Binding R} {record : R} {p x : Predicate}
  {joins : List Join} {bindings : List (Binding R)}

/-! ## What evaluation reads -/

theorem Expr.evaluate_congr {e : Expr} (h : ∀ q ∈ e.paths, b.get? q.parent = b'.get? q.parent) :
    e.evaluate b = e.evaluate b' := by
  fun_induction Expr.isSingle e with
  | case1 l => rfl
  | case2 q =>
    rw [evaluate_path, evaluate_path, h q List.mem_cons_self]
  | case3 inner ih => rw [evaluate_upper, evaluate_upper, ih h]
  | case4 inner ih => rw [evaluate_timeOfDay, evaluate_timeOfDay, ih h]
  | case5 items => rfl

namespace Predicate

theorem isMember_congr {value : Literal} {candidates : List Expr}
    (h : ∀ q ∈ Expr.pathsOfItems candidates, b.get? q.parent = b'.get? q.parent) :
    isMember b value candidates = isMember b' value candidates := by
  induction candidates with
  | nil => rfl
  | cons candidate rest ih =>
    rw [Expr.pathsOfItems] at h
    have hcandidate : candidate.evaluate b = candidate.evaluate b' :=
      Expr.evaluate_congr fun q hq => h q (List.mem_append_left _ hq)
    have hrest := ih fun q hq => h q (List.mem_append_right _ hq)
    rw [isMember, isMember, hcandidate, hrest]

theorem evaluate_congr (h : ∀ q ∈ p.paths, b.get? q.parent = b'.get? q.parent) :
    p.evaluate b = p.evaluate b' := by
  induction p with
  | compare left operator right =>
    rw [paths] at h
    have hleft : left.evaluate b = left.evaluate b' :=
      Expr.evaluate_congr fun q hq => h q (List.mem_append_left _ hq)
    have hright : right.evaluate b = right.evaluate b' :=
      Expr.evaluate_congr fun q hq => h q (List.mem_append_right _ hq)
    by_cases hisIn : operator = .isIn
    · subst hisIn
      rw [evaluate, evaluate, hleft]
      cases right with
      | list candidates =>
        have hmember : ∀ value, isMember b value candidates = isMember b' value candidates :=
          fun value => isMember_congr fun q hq => h q (List.mem_append_right _ hq)
        simp only [hmember]
      | literal l | path q | upper inner | timeOfDay inner => rfl
    · rw [evaluate_compare hisIn, evaluate_compare hisIn, hleft, hright]
  | like expr pattern =>
    rw [evaluate, evaluate, Expr.evaluate_congr h]
  | between expr low high =>
    simp only [paths, List.mem_append, or_imp, forall_and] at h
    rw [evaluate, evaluate, Expr.evaluate_congr h.1.1, Expr.evaluate_congr h.1.2,
      Expr.evaluate_congr h.2]
  | isNull expr =>
    rw [evaluate, evaluate, Expr.evaluate_congr h]
  | and left right ihl ihr =>
    simp only [paths, List.mem_append, or_imp, forall_and] at h
    rw [evaluate, evaluate, ihl h.1, ihr h.2]
  | or left right ihl ihr =>
    simp only [paths, List.mem_append, or_imp, forall_and] at h
    rw [evaluate, evaluate, ihl h.1, ihr h.2]
  | not inner ih =>
    rw [evaluate, evaluate, ih h]
  | true | false => rfl

end Predicate

/-! ## The record among its choices -/

/-- Every choice of joined records keeps the record itself. -/
theorem Binding.get?_root_of_mem_expand (hbindings : expand record joins = .ok bindings)
    (hb : b ∈ bindings) : b.get? .root = some record := by
  have hexpand : (∀ e, expand record joins = .error e → True) ∧
      ∀ bindings, expand record joins = .ok bindings → ∀ b ∈ bindings,
        b.get? .root = some record := by
    refine expand_induct (motive := fun _ b => b.get? .root = some record) (by simp) ?_
    intro before join after b _ hb
    refine ⟨fun _ _ => trivial, ?_⟩
    intro next hnext b' hb'
    obtain ⟨_, records, _, _, rfl⟩ := follow_ok hnext
    obtain ⟨related, _, rfl⟩ := List.mem_map.1 hb'
    exact get?_extend_of_some hb
  exact hexpand.2 bindings hbindings b hb

namespace Predicate

/-- A predicate on the record's own fields has one value under all choices. -/
theorem ReadsOwnFields.evaluate_eq (h : x.ReadsOwnFields) (hb : b.get? .root = some record) :
    x.evaluate b = x.evaluate (Binding.root record) := by
  refine evaluate_congr fun q hq => ?_
  rw [h q hq, hb]
  simp

theorem isTrueUnderSome_singleton {result : Bool} : x.isTrueUnderSome [b] = .ok result ↔
    ∃ t, x.evaluate b = .ok t ∧ result = decide (t = some .true) := by
  rw [isTrueUnderSome, bind_eq_ok]
  refine exists_congr fun t => and_congr_right fun _ => ?_
  by_cases htrue : t = some .true
  · simp [htrue, eq_comm]
  · simp [htrue, isTrueUnderSome, eq_comm]

/-- Without joins, whether a record passes is whether the predicate is true of it. -/
theorem passes_alone {result : Bool} : x.passes record [] = .ok result ↔
    ∃ t, x.evaluate (Binding.root record) = .ok t ∧ result = decide (t = some .true) :=
  isTrueUnderSome_singleton

theorem passes_alone_iff : x.passes record [] = .ok .true ↔
    x.evaluate (Binding.root record) = .ok (some .true) := by
  rw [passes_alone]
  constructor
  · rintro ⟨t, ht, htrue⟩
    rw [ht, of_decide_eq_true htrue.symm]
  · intro h
    exact ⟨_, h, rfl⟩

/-- Where the search among choices ends without an error, it finds whether there is one that makes
the predicate true. -/
theorem isTrueUnderSome_iff {result : Bool} (h : p.isTrueUnderSome bindings = .ok result) :
    result = .true ↔ ∃ b ∈ bindings, p.evaluate b = .ok (some .true) := by
  constructor
  · rintro rfl
    exact exists_of_isTrueUnderSome h
  · rintro ⟨b, hb, htrue⟩
    cases result with
    | true => rfl
    | false =>
      obtain ⟨t, ht, hne⟩ := isTrueUnderSome_eq_false.1 h b hb
      rw [htrue] at ht
      cases ht
      exact absurd rfl hne

end Predicate

end RowFilter
