import RowFilter.Proofs.Query.Evaluation
import RowFilter.Query.Document
import RowFilter.Query.Sql

/-!
# Membership in an empty list

SQL has no notation for an empty list, so a membership test with one is rendered as falsehood. The
evaluator agrees unless the value that is tested is absent: then the test is unknown, and a negation
around it is unknown too where SQL says true.

`withoutEmptyLists` puts falsehood in the place of every such test. A test under an even number of
negations makes no difference, and one under an odd number of them makes none as long as no choice
of joined records reads its left side as absent. `passes_withoutEmptyLists_iff` says that this
condition is exact.
-/

namespace RowFilter

variable {R : Type} [Filterable R]

/-! ## The replacement -/

namespace Predicate

/-- The predicate with falsehood in the place of every membership test with an empty list. -/
def withoutEmptyLists : Predicate → Predicate
  | compare _ .isIn (.list []) => false
  | and left right => and left.withoutEmptyLists right.withoutEmptyLists
  | or left right => or left.withoutEmptyLists right.withoutEmptyLists
  | not inner => not inner.withoutEmptyLists
  | p => p

/-- The left sides of the membership tests with an empty list that stand under an odd number of
negations, where the predicate itself may be negated. -/
def emptyListLefts : Bool → Predicate → List Expr
  | negated, compare left .isIn (.list []) => if negated then [left] else []
  | negated, and left right => left.emptyListLefts negated ++ right.emptyListLefts negated
  | negated, or left right => left.emptyListLefts negated ++ right.emptyListLefts negated
  | negated, not inner => inner.emptyListLefts (!negated)
  | _, _ => []

/-- A predicate and its replacement have the same SQL form. -/
theorem ofPredicate_withoutEmptyLists (scope : Sql.Scope) (p : Predicate) :
    Sql.ofPredicate scope p.withoutEmptyLists = Sql.ofPredicate scope p := by
  fun_induction withoutEmptyLists p with
  | case1 left => rfl
  | case2 p q ihp ihq => rw [Sql.ofPredicate, Sql.ofPredicate, ihp, ihq]
  | case3 p q ihp ihq => rw [Sql.ofPredicate, Sql.ofPredicate, ihp, ihq]
  | case4 p ih => rw [Sql.ofPredicate, Sql.ofPredicate, ih]
  | case5 p => rfl

end Predicate

/-! ## How a truth value can move -/

namespace Truth

/-- A truth value is kept, or moves from unknown to `settled`, or from unknown to any value where
that is `free`. -/
def Settles (free : Prop) (settled : Bool) (t u : Truth) : Prop :=
  u = t ∨ t = none ∧ (u = some settled ∨ free)

variable {free : Prop} {settled : Bool} {l l' r r' t u : Truth}

/-- The right sides need to be related only where neither left side has decided. -/
theorem Settles.and (hl : Settles free settled l l')
    (hr : l = some false ∨ l' = some false ∨ Settles free settled r r') :
    Settles free settled (l.and r) (l'.and r') := by
  rcases hl with rfl | ⟨rfl, hl⟩
  · rcases hr with rfl | rfl | rfl | ⟨rfl, hr⟩
    · exact .inl rfl
    · exact .inl rfl
    · exact .inl rfl
    · rcases l' with _ | _ | _ <;> rcases r' with _ | _ | _ <;> simp_all [Settles, Truth.and]
  · rcases hr with hr | rfl | rfl | ⟨rfl, hr⟩
    · cases hr
    · rcases r with _ | _ | _ <;> simp_all [Settles, Truth.and]
    · rcases l' with _ | _ | _ <;> rcases r' with _ | _ | _ <;> simp_all [Settles, Truth.and]
    · rcases l' with _ | _ | _ <;> rcases r' with _ | _ | _ <;> simp_all [Settles, Truth.and]

/-- The right sides need to be related only where neither left side has decided. -/
theorem Settles.or (hl : Settles free settled l l')
    (hr : l = some true ∨ l' = some true ∨ Settles free settled r r') :
    Settles free settled (l.or r) (l'.or r') := by
  rcases hl with rfl | ⟨rfl, hl⟩
  · rcases hr with rfl | rfl | rfl | ⟨rfl, hr⟩
    · exact .inl rfl
    · exact .inl rfl
    · exact .inl rfl
    · rcases l' with _ | _ | _ <;> rcases r' with _ | _ | _ <;> simp_all [Settles, Truth.or]
  · rcases hr with hr | rfl | rfl | ⟨rfl, hr⟩
    · cases hr
    · rcases r with _ | _ | _ <;> simp_all [Settles, Truth.or]
    · rcases l' with _ | _ | _ <;> rcases r' with _ | _ | _ <;> simp_all [Settles, Truth.or]
    · rcases l' with _ | _ | _ <;> rcases r' with _ | _ | _ <;> simp_all [Settles, Truth.or]

theorem Settles.not (h : Settles free (!settled) t u) :
    Settles free settled (Truth.not t) (Truth.not u) := by
  rcases h with rfl | ⟨rfl, rfl | h⟩
  · exact .inl rfl
  · exact .inr ⟨rfl, .inl (by simp [Truth.not])⟩
  · exact .inr ⟨rfl, .inr h⟩

end Truth

/-! ## One choice of joined records -/

namespace Predicate

/-- A membership test with an empty list is unknown where its left side is absent, else false. -/
theorem evaluate_empty_list {b : Binding R} {left : Expr} {t : Truth}
    (h : (compare left .isIn (.list [])).evaluate b = .ok t) :
    t = none ∧ left.evaluate b = .ok .null ∨ t = some .false := by
  rw [evaluate] at h
  obtain ⟨value, hvalue, h⟩ := bind_eq_ok.1 h
  dsimp only at h
  split at h
  · next hnull =>
    cases h
    cases value <;> simp [Literal.isNull] at hnull
    exact .inl ⟨rfl, hvalue⟩
  · cases h
    exact .inr rfl

/-- Under one choice of joined records the truth can only move from unknown: to falsehood, to truth
where the predicate is negated, or anywhere if some left side under an odd number of negations is
absent. -/
theorem settles_withoutEmptyLists {b : Binding R} {free : Prop} (p : Predicate) {negated : Bool}
    {t u : Truth}
    (hlefts : free ∨ ∀ e ∈ p.emptyListLefts negated, e.evaluate b ≠ .ok .null)
    (ht : p.evaluate b = .ok t) (hu : p.withoutEmptyLists.evaluate b = .ok u) :
    Truth.Settles free negated t u := by
  -- the truth of what is negated settles the other way, so the induction is over both directions
  fun_induction withoutEmptyLists p generalizing negated t u with
  | case1 left =>
    cases hu
    rcases evaluate_empty_list ht with ⟨rfl, hnull⟩ | rfl
    · cases negated with
      | false => exact .inr ⟨rfl, .inl rfl⟩
      | true =>
        rcases hlefts with hfree | hlefts
        · exact .inr ⟨rfl, .inr hfree⟩
        · exact absurd hnull (hlefts left (by simp [emptyListLefts]))
    · exact .inl rfl
  | case2 p q ihp ihq =>
    obtain ⟨l, r, hl, hr, rfl⟩ := evaluate_and_ok ht
    obtain ⟨l', r', hl', hr', rfl⟩ := evaluate_and_ok hu
    have hp := ihp (hlefts.imp_right fun h e he => h e (List.mem_append_left _ he)) hl hl'
    apply hp.and
    rcases hr with hr | hr
    · exact .inl hr
    · rcases hr' with hr' | hr'
      · exact .inr (.inl hr')
      · exact .inr (.inr
          (ihq (hlefts.imp_right fun h e he => h e (List.mem_append_right _ he)) hr hr'))
  | case3 p q ihp ihq =>
    obtain ⟨l, r, hl, hr, rfl⟩ := evaluate_or_ok ht
    obtain ⟨l', r', hl', hr', rfl⟩ := evaluate_or_ok hu
    have hp := ihp (hlefts.imp_right fun h e he => h e (List.mem_append_left _ he)) hl hl'
    apply hp.or
    rcases hr with hr | hr
    · exact .inl hr
    · rcases hr' with hr' | hr'
      · exact .inr (.inl hr')
      · exact .inr (.inr
          (ihq (hlefts.imp_right fun h e he => h e (List.mem_append_right _ he)) hr hr'))
  | case4 p ih =>
    obtain ⟨l, hl, rfl⟩ := evaluate_not_ok ht
    obtain ⟨l', hl', rfl⟩ := evaluate_not_ok hu
    exact (ih hlefts hl hl').not
  | case5 p =>
    rw [ht] at hu
    cases hu
    exact .inl rfl

/-! ## All choices of joined records -/

/-- What each of two predicates says under several choices follows from how their truth under each
of the choices is related. -/
theorem isTrueUnderSome_imp {p q : Predicate} {bindings : List (Binding R)} {result result' : Bool}
    (himp : ∀ b ∈ bindings, ∀ t u, p.evaluate b = .ok t → q.evaluate b = .ok u →
      t = some .true → u = some .true)
    (hp : p.isTrueUnderSome bindings = .ok result) (hq : q.isTrueUnderSome bindings = .ok result')
    (hresult : result = .true) : result' = .true := by
  subst hresult
  obtain ⟨b, hb, htrue⟩ := exists_of_isTrueUnderSome hp
  cases result' with
  | true => rfl
  | false =>
    obtain ⟨u, hu, hne⟩ := isTrueUnderSome_eq_false.1 hq b hb
    exact absurd (himp b hb _ u htrue hu rfl) hne

section Replacement

variable {p : Predicate} {bindings : List (Binding R)} {result result' : Bool}

/-- The replacement loses no record. -/
theorem isTrueUnderSome_withoutEmptyLists (hp : p.isTrueUnderSome bindings = .ok result)
    (hp' : p.withoutEmptyLists.isTrueUnderSome bindings = .ok result') :
    result = .true → result' = .true := by
  refine isTrueUnderSome_imp (fun b _ t u ht hu htrue => ?_) hp hp'
  have hsettles : Truth.Settles True .false t u :=
    settles_withoutEmptyLists p (.inl trivial) ht hu
  rcases hsettles with rfl | ⟨rfl, _⟩
  · exact htrue
  · cases htrue

/-- The replacement gains no record if no choice reads a left side that counts as absent. -/
theorem isTrueUnderSome_of_withoutEmptyLists
    (hlefts : ∀ e ∈ p.emptyListLefts .false, ∀ b ∈ bindings, e.evaluate b ≠ .ok .null)
    (hp : p.isTrueUnderSome bindings = .ok result)
    (hp' : p.withoutEmptyLists.isTrueUnderSome bindings = .ok result') :
    result' = .true → result = .true := by
  refine isTrueUnderSome_imp (fun b hb u t hu ht htrue => ?_) hp' hp
  have hsettles : Truth.Settles False .false t u :=
    settles_withoutEmptyLists p (.inr fun e he => hlefts e he b hb) ht hu
  rcases hsettles with rfl | ⟨_, rfl | hfree⟩
  · exact htrue
  · cases htrue
  · exact hfree.elim

end Replacement

/-- A predicate that no choice satisfies, and that every choice that reads `e` as absent satisfies
once the test with an empty list is replaced. -/
def absentIn (e : Expr) : Predicate := and (not (compare e .isIn (.list []))) (isNull e)

theorem evaluate_absentIn {b : Binding R} {e : Expr} {l : Literal} (h : e.evaluate b = .ok l) :
    (absentIn e).evaluate b = .ok (if l.isNull then none else some .false) ∧
      (absentIn e).withoutEmptyLists.evaluate b = .ok (some l.isNull) := by
  cases hnull : l.isNull <;>
    simp [absentIn, withoutEmptyLists, evaluate, isMember, h, hnull, bind, Except.bind, Truth.not,
      Truth.and]

theorem isTrueUnderSome_absentIn {e : Expr} {bindings : List (Binding R)}
    (h : ∀ b ∈ bindings, ∃ l, e.evaluate b = .ok l) :
    (absentIn e).isTrueUnderSome bindings = .ok .false := by
  refine isTrueUnderSome_eq_false.2 fun b hb => ?_
  obtain ⟨l, hl⟩ := h b hb
  refine ⟨_, (evaluate_absentIn hl).1, ?_⟩
  split <;> simp

theorem isTrueUnderSome_absentIn_withoutEmptyLists {e : Expr} {bindings : List (Binding R)}
    (h : ∀ b ∈ bindings, ∃ l, e.evaluate b = .ok l)
    (hnull : ∃ b ∈ bindings, e.evaluate b = .ok .null) :
    (absentIn e).withoutEmptyLists.isTrueUnderSome bindings = .ok .true := by
  have hevaluate : ∀ b ∈ bindings, ∃ t, (absentIn e).withoutEmptyLists.evaluate b = .ok t := by
    intro b hb
    obtain ⟨l, hl⟩ := h b hb
    exact ⟨_, (evaluate_absentIn hl).2⟩
  obtain ⟨result, hresult, hiff⟩ := exists_isTrueUnderSome hevaluate
  obtain ⟨b, hb, hnull⟩ := hnull
  rw [hresult, hiff.2 ⟨b, hb, (evaluate_absentIn hnull).2⟩]

/-- **Empty lists**: a predicate has the same SQL form with falsehood in the place of the tests with
an empty list. Whether a record passes is the same too, for all predicates in which the left sides
of such tests under an odd number of negations are among `lefts`, exactly if no choice of joined
records reads one of these as absent. In any case the replacement loses no record. -/
theorem passes_withoutEmptyLists_iff {record : R} {joins : List Join}
    {bindings : List (Binding R)} (hbindings : Binding.expand record joins = .ok bindings)
    {lefts : List Expr} (hlefts : ∀ e ∈ lefts, ∀ b ∈ bindings, ∃ l, e.evaluate b = .ok l) :
    (∀ (scope : Sql.Scope) (p : Predicate),
      Sql.ofPredicate scope p.withoutEmptyLists = Sql.ofPredicate scope p) ∧
    ((∀ (p : Predicate) (result result' : Bool), (∀ e ∈ p.emptyListLefts .false, e ∈ lefts) →
        p.passes record joins = .ok result →
        p.withoutEmptyLists.passes record joins = .ok result' → result = result') ↔
      ∀ e ∈ lefts, ∀ b ∈ bindings, e.evaluate b ≠ .ok .null) ∧
    ∀ (p : Predicate) (result : Bool), p.passes record joins = .ok .true →
      p.withoutEmptyLists.passes record joins = .ok result → result = .true := by
  have hpasses : ∀ (p : Predicate), p.passes record joins = p.isTrueUnderSome bindings := by
    intro p
    rw [passes, hbindings]
    rfl
  simp only [hpasses]
  refine ⟨ofPredicate_withoutEmptyLists, ⟨fun h e he b hb hnull => ?_, ?_⟩, ?_⟩
  · have hsame := h (absentIn e) .false .true (by simpa [absentIn, emptyListLefts] using he)
      (isTrueUnderSome_absentIn (hlefts e he))
      (isTrueUnderSome_absentIn_withoutEmptyLists (hlefts e he) ⟨b, hb, hnull⟩)
    cases hsame
  · intro h p result result' hp hresult hresult'
    exact Bool.eq_iff_iff.2 ⟨isTrueUnderSome_withoutEmptyLists hresult hresult',
      isTrueUnderSome_of_withoutEmptyLists (fun e he => h e (hp e he)) hresult hresult'⟩
  · intro p result hp hp'
    exact isTrueUnderSome_withoutEmptyLists hp hp' rfl

/-- A document whose status is known passes the negated test with an empty list, and the negation of
falsehood. -/
theorem passes_withoutEmptyLists_known :
    let status : Expr := .path (.simple "status")
    let document : Document := ⟨[("status", .string "new")], []⟩
    (Binding.expand document [] = .ok [Binding.root document] ∧
      ∀ e ∈ [status], ∀ b ∈ [Binding.root document], ∃ l, e.evaluate b = .ok l) ∧
    (∀ (scope : Sql.Scope) (p : Predicate),
      Sql.ofPredicate scope p.withoutEmptyLists = Sql.ofPredicate scope p) ∧
    ((∀ (p : Predicate) (result result' : Bool), (∀ e ∈ p.emptyListLefts .false, e ∈ [status]) →
        p.passes document [] = .ok result →
        p.withoutEmptyLists.passes document [] = .ok result' → result = result') ↔
      ∀ e ∈ [status], ∀ b ∈ [Binding.root document], e.evaluate b ≠ .ok .null) ∧
    ∀ (p : Predicate) (result : Bool), p.passes document [] = .ok .true →
      p.withoutEmptyLists.passes document [] = .ok result → result = .true := by
  intro status document
  have hbindings : Binding.expand document [] = .ok [Binding.root document] := rfl
  have hlefts : ∀ e ∈ [status], ∀ b ∈ [Binding.root document], ∃ l, e.evaluate b = .ok l := by
    intro e he b hb
    rw [List.mem_singleton.1 he, List.mem_singleton.1 hb]
    exact ⟨.string "new", rfl⟩
  exact ⟨⟨hbindings, hlefts⟩, passes_withoutEmptyLists_iff hbindings hlefts⟩

/-- A document whose status is absent passes the negation of falsehood and not the negated test with
an empty list. -/
theorem passes_not_in_empty_list_absent :
    let document : Document := ⟨[("status", .null)], []⟩
    let p : Predicate := not (compare (.path (.simple "status")) .isIn (.list []))
    p.passes document [] = .ok .false ∧ p.withoutEmptyLists.passes document [] = .ok .true :=
  ⟨rfl, rfl⟩

end Predicate

end RowFilter
