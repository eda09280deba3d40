import RowFilter.Proofs.Success
import RowFilter.Query.Evaluate

/-!
# Evaluation taken apart

What evaluating a connective went through. A conjunction and a disjunction that evaluate are the
three-valued ones of two truth values, of which the second is that of the right side unless the left
side has decided.
-/

namespace RowFilter

variable {R : Type} [Filterable R] {b : Binding R} {p q : Predicate} {t : Truth}

namespace Truth

@[simp] theorem false_and (t : Truth) : Truth.and (some false) t = some false := by
  rcases t with _ | _ | _ <;> rfl

@[simp] theorem true_or (t : Truth) : Truth.or (some true) t = some true := by
  rcases t with _ | _ | _ <;> rfl

end Truth

namespace Expr

variable (b) in
theorem evaluate_literal (l : Literal) : (literal l).evaluate b = .ok l := rfl

theorem evaluate_path (p : Path) :
    (path p).evaluate b =
      match b.get? p.parent with
      | none => .error (.unboundPath p)
      | some owner => .ok ((Filterable.value? owner p.property).getD .null) := rfl

theorem evaluate_upper (inner : Expr) :
    (upper inner).evaluate b = (do
      match ← inner.evaluate b with
      | .string s | .enum s => .ok (.string (Text.upper s))
      | .char c => .ok (.string (String.ofList (Text.upperChar c)))
      | .null => .ok .null
      | l => .error (.invalidArgument "UPPER" l.display)) := rfl

theorem evaluate_timeOfDay (inner : Expr) :
    (timeOfDay inner).evaluate b = (do
      let l ← inner.evaluate b
      match l.timeOfDay? with
      | some t => .ok (.time t)
      | none => if l.isNull then .ok .null else .error (.invalidArgument "TIME" l.display)) := rfl

end Expr

namespace Predicate

attribute [local simp] evaluate

/-- A comparison other than a membership test is that of two values. -/
theorem evaluate_compare {left right : Expr} {operator : Comparison} (h : operator ≠ .isIn) :
    (compare left operator right).evaluate b = (do
      let l ← left.evaluate b
      let r ← right.evaluate b
      if l.isNull || r.isNull then
        .ok none
      else
        let o ← collateOrMismatch l r
        .ok (some (operator.holds o))) := by
  rw [evaluate]
  exact h

theorem evaluate_and_ok (h : (and p q).evaluate b = .ok t) :
    ∃ l r, p.evaluate b = .ok l ∧ (l = some .false ∨ q.evaluate b = .ok r) ∧
      t = Truth.and l r := by
  rw [evaluate] at h
  obtain ⟨l, hl, h⟩ := bind_eq_ok.1 h
  split at h
  · next hfalse =>
    cases h
    exact ⟨l, none, hl, .inl hfalse, by rw [hfalse, Truth.false_and]⟩
  · obtain ⟨r, hr, h⟩ := bind_eq_ok.1 h
    cases h
    exact ⟨l, r, hl, .inr hr, rfl⟩

/-- A conjunction is true where both sides are. -/
theorem evaluate_and_eq_true : (and p q).evaluate b = .ok (some .true) ↔
    p.evaluate b = .ok (some .true) ∧ q.evaluate b = .ok (some .true) := by
  constructor
  · intro h
    obtain ⟨l, r, hl, hr, htrue⟩ := evaluate_and_ok h
    rcases l with _ | _ | _ <;> rcases r with _ | _ | _ <;> cases htrue
    refine ⟨hl, hr.resolve_left ?_⟩
    intro hfalse
    cases hfalse
  · rintro ⟨hp, hq⟩
    simp [bind, Except.bind, hp, hq, Truth.and]

theorem evaluate_foldl_and_eq_true {ps : List Predicate} :
    (ps.foldl and p).evaluate b = .ok (some .true) ↔
      ∀ q ∈ p :: ps, q.evaluate b = .ok (some .true) := by
  induction ps generalizing p with
  | nil => simp
  | cons q ps ih =>
    rw [List.foldl_cons, ih]
    simp only [List.forall_mem_cons, evaluate_and_eq_true, and_assoc]

theorem evaluate_not_ok (h : (not p).evaluate b = .ok t) :
    ∃ l, p.evaluate b = .ok l ∧ t = Truth.not l := by
  rw [evaluate] at h
  obtain ⟨l, hl, h⟩ := bind_eq_ok.1 h
  cases h
  exact ⟨l, hl, rfl⟩

/-- A negation is true where what it negates is false, and not where it is unknown. -/
theorem evaluate_not_eq_true :
    (not p).evaluate b = .ok (some .true) ↔ p.evaluate b = .ok (some .false) := by
  constructor
  · intro h
    obtain ⟨t, ht, htrue⟩ := evaluate_not_ok h
    rcases t with _ | _ | _ <;> cases htrue
    exact ht
  · intro h
    simp [bind, Except.bind, h, Truth.not]

theorem evaluate_or_ok (h : (or p q).evaluate b = .ok t) :
    ∃ l r, p.evaluate b = .ok l ∧ (l = some .true ∨ q.evaluate b = .ok r) ∧
      t = Truth.or l r := by
  rw [evaluate] at h
  obtain ⟨l, hl, h⟩ := bind_eq_ok.1 h
  split at h
  · next htrue =>
    cases h
    exact ⟨l, none, hl, .inl htrue, by rw [htrue, Truth.true_or]⟩
  · obtain ⟨r, hr, h⟩ := bind_eq_ok.1 h
    cases h
    exact ⟨l, r, hl, .inr hr, rfl⟩

/-- Predicates joined by conjunction have what each of them has, if conjunctions keep it. -/
theorem foldl_and_induct {motive : Predicate → Prop} {ps : List Predicate}
    (hand : ∀ p q, motive p → motive q → motive (.and p q)) (hp : motive p)
    (hps : ∀ q ∈ ps, motive q) : motive (ps.foldl .and p) := by
  induction ps generalizing p with
  | nil => exact hp
  | cons q ps ih =>
    exact ih (hand p q hp (hps q List.mem_cons_self))
      fun q hq => hps q (List.mem_cons_of_mem _ hq)

theorem exists_of_isTrueUnderSome {bindings : List (Binding R)}
    (h : p.isTrueUnderSome bindings = .ok .true) :
    ∃ b ∈ bindings, p.evaluate b = .ok (some .true) := by
  induction bindings with
  | nil => cases h
  | cons b rest ih =>
    rw [isTrueUnderSome] at h
    obtain ⟨t, ht, h⟩ := bind_eq_ok.1 h
    split at h
    · next htrue => exact ⟨b, List.mem_cons_self, htrue ▸ ht⟩
    · obtain ⟨b', hb', hb'true⟩ := ih h
      exact ⟨b', List.mem_cons_of_mem _ hb', hb'true⟩

theorem isTrueUnderSome_eq_false {bindings : List (Binding R)} :
    p.isTrueUnderSome bindings = .ok .false ↔
      ∀ b ∈ bindings, ∃ t, p.evaluate b = .ok t ∧ t ≠ some .true := by
  induction bindings with
  | nil => exact ⟨fun _ => List.forall_mem_nil _, fun _ => rfl⟩
  | cons b rest ih =>
    rw [isTrueUnderSome, List.forall_mem_cons, ← ih]
    constructor
    · intro h
      obtain ⟨t, ht, h⟩ := bind_eq_ok.1 h
      split at h
      · cases h
      · next hne => exact ⟨⟨t, ht, hne⟩, h⟩
    · rintro ⟨⟨t, ht, hne⟩, h⟩
      rw [ht]
      exact (if_neg hne).trans h

/-- A predicate that has a truth value under each of several choices is true under some of them, or
under none. -/
theorem exists_isTrueUnderSome {bindings : List (Binding R)}
    (h : ∀ b ∈ bindings, ∃ t, p.evaluate b = .ok t) :
    ∃ result, p.isTrueUnderSome bindings = .ok result ∧
      (result = .true ↔ ∃ b ∈ bindings, p.evaluate b = .ok (some .true)) := by
  induction bindings with
  | nil => exact ⟨.false, rfl, by simp⟩
  | cons b rest ih =>
    obtain ⟨⟨t, ht⟩, hrest⟩ := List.forall_mem_cons.1 h
    obtain ⟨result, hresult, hiff⟩ := ih hrest
    rw [isTrueUnderSome, ht, hresult]
    by_cases htrue : t = some .true
    · exact ⟨_, if_pos htrue, fun _ => ⟨b, List.mem_cons_self, htrue ▸ ht⟩, fun _ => rfl⟩
    · refine ⟨_, if_neg htrue, ?_⟩
      rw [hiff, List.exists_mem_cons_iff, ht]
      exact (or_iff_right fun h => htrue (Except.ok.inj h)).symm

end Predicate

theorem Verdict.of_eq_pass {record : R} {joins : List Join} :
    Verdict.of record p joins = .pass ↔ p.passes record joins = .ok .true := by
  unfold Verdict.of
  cases p.passes record joins with
  | error e => simp
  | ok passes => cases passes <;> simp

end RowFilter
