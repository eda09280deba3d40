import RowFilter.Proofs.Query.EmptyList
import RowFilter.Proofs.Sql.Tokens

/-!
# The structure of a rendered predicate

Reading the clause of a predicate gives the predicate back. `AND` is rendered without parentheses,
so a chain of conjunctions comes back joined to the left (`Regroups`), and a membership test with an
empty list comes back as the falsehood that it is rendered as. Nothing else is regrouped: a
disjunction and what a negation stands before have parentheses of their own, and the `AND` of a
range is taken by its `BETWEEN`.
-/

namespace RowFilter

/-! ## Chains of conjunctions -/

/-- Whether two predicates differ only in how chains of conjunctions are grouped. -/
inductive Predicate.Regroups : Predicate → Predicate → Prop
  | refl (p : Predicate) : Regroups p p
  | symm {p q : Predicate} : Regroups p q → Regroups q p
  | trans {p q r : Predicate} : Regroups p q → Regroups q r → Regroups p r
  | assoc (l m r : Predicate) : Regroups (.and (.and l m) r) (.and l (.and m r))
  | and {l l' r r' : Predicate} : Regroups l l' → Regroups r r' → Regroups (.and l r) (.and l' r')
  | or {l l' r r' : Predicate} : Regroups l l' → Regroups r r' → Regroups (.or l r) (.or l' r')
  | not {p p' : Predicate} : Regroups p p' → Regroups (.not p) (.not p')

namespace Predicate

/-- The number of conjunctions that join the conditions of a chain. -/
def conjunctions : Predicate → Nat
  | and left right => left.conjunctions + right.conjunctions + 1
  | _ => 0

theorem conjunctions_le (p : Predicate) : p.conjunctions ≤ p.tokens.length := by
  induction p with
  | and left right ihl ihr =>
    simp only [conjunctions, tokens, List.length_append, List.length_cons]
    omega
  | _ => exact Nat.zero_le _

/-- A predicate after what it is joined to, if to anything. -/
def after : Option Predicate → Predicate → Predicate
  | none, p => p
  | some left, p => and left p

theorem Regroups.after {p q : Predicate} (left : Option Predicate) (h : Regroups p q) :
    Regroups (Predicate.after left p) (Predicate.after left q) := by
  cases left with
  | none => exact h
  | some l => exact .and (.refl l) h

theorem regroups_after_and (left : Option Predicate) (p q : Predicate) :
    Regroups (and (Predicate.after left p) q) (Predicate.after left (and p q)) := by
  cases left with
  | none => exact .refl _
  | some l => exact .assoc l p q

end Predicate

namespace Sql

open Predicate (Regroups)

variable {p : Predicate} {e : Expr}

/-! ## Values and tests -/

theorem literal?_token (l : Literal) : literal? l.token = some (.literal l) := by
  cases l <;> rfl

theorem operand?_literal (l : Literal) (rest : List Token) :
    operand? (l.token :: rest) = some (.literal l, rest) := by
  cases l <;> rfl

theorem operand?_tokens (hsingle : e.isSingle = true) (hpaths : ∀ p ∈ e.paths, p.isSimple = true)
    (rest : List Token) : operand? (e.tokens ++ rest) = some (e, rest) := by
  fun_induction Expr.isSingle e generalizing rest with
  | case1 l => exact operand?_literal l rest
  | case2 p =>
    rw [Path.eq_simple (hpaths p List.mem_cons_self)]
    rfl
  | case3 inner ih => simp [Expr.tokens, operand?, ih hsingle hpaths]
  | case4 inner ih => simp [Expr.tokens, operand?, ih hsingle hpaths]
  | case5 items => cases hsingle

theorem items?_tokens {items : List Expr} (h : items.all Expr.isLiteral = true) (hne : items ≠ [])
    (rest : List Token) :
    items? (Expr.itemTokens items ++ .closing :: rest) = some (items, rest) := by
  induction items with
  | nil => exact absurd rfl hne
  | cons item others ih =>
    rw [List.all_cons, Bool.and_eq_true] at h
    cases item with
    | literal l =>
      cases others with
      | nil => simp [Expr.itemTokens, items?, literal?_token]
      | cons next others =>
        have hothers := ih h.2 (List.cons_ne_nil _ _)
        simp [Expr.itemTokens, items?, literal?_token, hothers]
    | path | upper | timeOfDay | list => cases h.1

/-- What begins with a value is a test of that value. -/
theorem factor?_operand (nested? : Reader Predicate) (hsingle : e.isSingle = true)
    (hpaths : ∀ p ∈ e.paths, p.isSimple = true) (rest : List Token) :
    factor? nested? (e.tokens ++ rest) = test? e rest := by
  have hoperand := operand?_tokens hsingle hpaths rest
  have hfactor : factor? nested? (e.tokens ++ rest) =
      (operand? (e.tokens ++ rest)).bind fun r => test? r.1 r.2 := by
    cases e with
    | literal l => cases l <;> rfl
    | path p => rfl
    | upper inner => rfl
    | timeOfDay inner => rfl
    | list items => cases hsingle
  rw [hfactor, hoperand, Option.bind_some]

/-- Whether a predicate that is no conjunction is read back wherever it stands. The bound leaves
room for the parentheses in it. -/
def IsFactor (p : Predicate) : Prop :=
  ∃ q, Regroups q p.withoutEmptyLists ∧ ∀ fuel rest, p.tokens.length ≤ fuel →
    factor? (condition? fuel) (p.tokens ++ rest) = some (q, rest)

theorem isFactor_of_test (hempty : p.withoutEmptyLists = p) (hsingle : e.isSingle = true)
    (hpaths : ∀ p ∈ e.paths, p.isSimple = true) (ts : List Token)
    (htokens : p.tokens = e.tokens ++ ts)
    (htest : ∀ rest, test? e (ts ++ rest) = some (p, rest)) : IsFactor p := by
  refine ⟨p, by rw [hempty]; exact .refl p, fun fuel rest _ => ?_⟩
  rw [htokens, List.append_assoc, factor?_operand _ hsingle hpaths, htest]

theorem isFactor_compare {left right : Expr} {operator : Comparison}
    (hwell : (Predicate.compare left operator right).isWellFormed = true)
    (hpaths : ∀ p ∈ (Predicate.compare left operator right).paths, p.isSimple = true) :
    IsFactor (.compare left operator right) := by
  simp only [Predicate.paths, List.forall_mem_append] at hpaths
  by_cases hempty : operator = .isIn ∧ right = .list []
  · obtain ⟨rfl, rfl⟩ := hempty
    exact ⟨.false, .refl _, fun _ _ _ => rfl⟩
  · have hnot : operator = .isIn → right = .list [] → False := fun h h' => hempty ⟨h, h'⟩
    obtain ⟨hleft, hright⟩ := Predicate.isWellFormed_compare hwell
    refine isFactor_of_test ?_ hleft hpaths.1
      (Predicate.operatorToken operator :: right.tokens) ?_ ?_
    · rw [Predicate.withoutEmptyLists]
      all_goals simp_all
    · rw [Predicate.tokens]
      exact hnot
    · intro rest
      rcases hright with ⟨hin, hright⟩ | ⟨rfl, items, rfl, hitems⟩
      · have htoken : Predicate.operatorToken operator = .sign operator := by
          cases operator with
          | isIn => exact absurd rfl hin
          | _ => rfl
        simp [htoken, test?, operand?_tokens hright hpaths.2]
      · have hne : items ≠ [] := fun hnil => hempty ⟨rfl, by rw [hnil]⟩
        simp [Predicate.operatorToken, Expr.tokens, test?, items?_tokens hitems hne]

theorem isFactor_like {pattern : String} (hsingle : e.isSingle = true)
    (hpaths : ∀ p ∈ e.paths, p.isSimple = true) : IsFactor (.like e pattern) :=
  isFactor_of_test rfl hsingle hpaths _ rfl fun _ => rfl

theorem isFactor_between {low high : Expr}
    (hwell : (Predicate.between e low high).isWellFormed = true)
    (hpaths : ∀ p ∈ (Predicate.between e low high).paths, p.isSimple = true) :
    IsFactor (.between e low high) := by
  simp only [Predicate.paths, List.forall_mem_append] at hpaths
  simp only [Predicate.isWellFormed, Bool.and_eq_true] at hwell
  refine isFactor_of_test rfl hwell.1.1 hpaths.1.1
    (.keyword .between :: low.tokens ++ .keyword .and :: high.tokens) ?_ fun rest => ?_
  · simp [Predicate.tokens]
  · simp [test?, operand?_tokens hwell.1.2 hpaths.1.2, operand?_tokens hwell.2 hpaths.2]

theorem isFactor_isNull (hsingle : e.isSingle = true) (hpaths : ∀ p ∈ e.paths, p.isSimple = true) :
    IsFactor (.isNull e) :=
  isFactor_of_test rfl hsingle hpaths _ rfl fun _ => rfl

/-! ## Chains -/

/-- Whether the conditions that a predicate joins are read one after another, and joined to what
stands before them, if anything does. -/
def IsChain (p : Predicate) : Prop :=
  ∀ left, ∃ q, Regroups q (.after left p.withoutEmptyLists) ∧
    ∀ fuel k rest, p.tokens.length ≤ fuel →
      ((factor? (condition? fuel) (p.tokens ++ rest)).bind fun r =>
        chain? (factor? (condition? fuel)) .and .and (k + p.conjunctions) (.after left r.1) r.2) =
      chain? (factor? (condition? fuel)) .and .and k q rest

theorem IsFactor.isChain (h : IsFactor p) (hp : p.conjunctions = 0) : IsChain p := by
  intro left
  obtain ⟨q, hq, hread⟩ := h
  refine ⟨.after left q, hq.after left, fun fuel k rest hfuel => ?_⟩
  rw [hread fuel rest hfuel, Option.bind_some, hp, Nat.add_zero]

theorem chain?_cons (item? : Reader Predicate) (word : Keyword)
    (join : Predicate → Predicate → Predicate) (k : Nat) (left : Predicate) (rest : List Token) :
    chain? item? word join (k + 1) left (.keyword word :: rest) =
      (item? rest).bind fun r => chain? item? word join k (join left r.1) r.2 := by
  rw [chain?, if_pos rfl]
  rfl

theorem chain?_stop (item? : Reader Predicate) {word : Keyword}
    (join : Predicate → Predicate → Predicate) (k : Nat) (left : Predicate) {rest : List Token}
    (h : rest.head? ≠ some (.keyword word)) :
    chain? item? word join k left rest = some (left, rest) := by
  unfold chain?
  split
  · next k' _ =>
    have hk : k' ≠ word := by
      rintro rfl
      exact h rfl
    rw [if_neg hk]
  · rfl

theorem IsChain.and {l r : Predicate} (hl : IsChain l) (hr : IsChain r) : IsChain (.and l r) := by
  intro left
  obtain ⟨ql, hql, hreadl⟩ := hl left
  obtain ⟨q, hq, hreadr⟩ := hr (some ql)
  refine ⟨q, ?_, fun fuel k rest hfuel => ?_⟩
  · have hgroup : Regroups (.and ql r.withoutEmptyLists)
        (.and (.after left l.withoutEmptyLists) r.withoutEmptyLists) := .and hql (.refl _)
    exact (hq.trans hgroup).trans (Predicate.regroups_after_and left _ _)
  · have htokens : (Predicate.and l r).tokens ++ rest =
        l.tokens ++ .keyword .and :: (r.tokens ++ rest) := by simp [Predicate.tokens]
    have hcount : k + (Predicate.and l r).conjunctions =
        k + r.conjunctions + 1 + l.conjunctions := by
      rw [Predicate.conjunctions]
      omega
    have hlength : l.tokens.length ≤ fuel ∧ r.tokens.length ≤ fuel := by
      simp only [Predicate.tokens, List.length_append, List.length_cons] at hfuel
      omega
    rw [htokens, hcount, hreadl _ _ _ hlength.1, chain?_cons]
    exact hreadr _ _ _ hlength.2

theorem IsChain.joined (h : IsChain p) :
    ∃ q, Regroups q p.withoutEmptyLists ∧ ∀ fuel rest, p.tokens.length ≤ fuel →
      rest.head? ≠ some (.keyword .and) →
      joined? (factor? (condition? fuel)) .and .and fuel (p.tokens ++ rest) = some (q, rest) := by
  obtain ⟨q, hq, hread⟩ := h none
  refine ⟨q, hq, fun fuel rest hfuel hrest => ?_⟩
  have hcount : fuel - p.conjunctions + p.conjunctions = fuel :=
    Nat.sub_add_cancel (Nat.le_trans p.conjunctions_le hfuel)
  have hchain := hread fuel (fuel - p.conjunctions) rest hfuel
  rw [hcount, chain?_stop _ _ _ _ hrest] at hchain
  exact hchain

/-! ## Parentheses -/

theorem IsChain.condition (h : IsChain p) :
    ∃ q, Regroups q p.withoutEmptyLists ∧ ∀ fuel rest, p.tokens.length < fuel →
      rest.head? ≠ some (.keyword .and) → rest.head? ≠ some (.keyword .or) →
      condition? fuel (p.tokens ++ rest) = some (q, rest) := by
  obtain ⟨q, hq, hread⟩ := h.joined
  refine ⟨q, hq, fun fuel rest hfuel hand hor => ?_⟩
  obtain ⟨fuel, rfl⟩ := Nat.exists_eq_add_one_of_ne_zero (Nat.ne_zero_of_lt hfuel)
  have hfirst := hread fuel rest (Nat.le_of_lt_succ hfuel) hand
  rw [condition?, joined?, hfirst]
  exact chain?_stop _ _ _ _ hor

theorem IsChain.isFactor_not (h : IsChain p) : IsFactor (.not p) := by
  obtain ⟨q, hq, hread⟩ := h.condition
  refine ⟨.not q, hq.not, fun fuel rest hfuel => ?_⟩
  simp only [Predicate.tokens, List.length_append, List.length_cons] at hfuel
  have hinner := hread fuel (.closing :: rest) (by omega) (by simp) (by simp)
  simp [Predicate.tokens, factor?, hinner]

/-- In its parentheses a disjunction is read as one, with a chain on each side. -/
theorem IsChain.isFactor_or {l r : Predicate} (hl : IsChain l) (hr : IsChain r) :
    IsFactor (.or l r) := by
  obtain ⟨ql, hql, hreadl⟩ := hl.joined
  obtain ⟨qr, hqr, hreadr⟩ := hr.joined
  refine ⟨.or ql qr, hql.or hqr, fun fuel rest hfuel => ?_⟩
  simp only [Predicate.tokens, List.length_append, List.length_cons, List.length_nil] at hfuel
  obtain ⟨fuel, rfl⟩ : ∃ n, fuel = n + 2 := ⟨fuel - 2, by omega⟩
  have hleft := hreadl (fuel + 1) (.keyword .or :: (r.tokens ++ .closing :: rest)) (by omega)
    (by simp)
  have hright := hreadr (fuel + 1) (.closing :: rest) (by omega) (by simp)
  have hinner : condition? (fuel + 2) (l.tokens ++ .keyword .or :: (r.tokens ++ .closing :: rest)) =
      some (.or ql qr, .closing :: rest) := by
    rw [condition?, joined?, hleft]
    refine (chain?_cons _ .or .or fuel ql _).trans ?_
    rw [hright]
    exact chain?_stop _ _ _ _ (by simp)
  simp [Predicate.tokens, factor?, hinner]

/-- Every well-formed predicate over single steps is read back as a chain. -/
theorem isChain_of_isWellFormed (hwell : p.isWellFormed = true)
    (hpaths : ∀ path ∈ p.paths, path.isSimple = true) : IsChain p := by
  induction p with
  | compare left operator right => exact (isFactor_compare hwell hpaths).isChain rfl
  | like expr pattern => exact (isFactor_like hwell hpaths).isChain rfl
  | between expr low high => exact (isFactor_between hwell hpaths).isChain rfl
  | isNull expr => exact (isFactor_isNull hwell hpaths).isChain rfl
  | and left right ihl ihr =>
    simp only [Predicate.paths, List.forall_mem_append] at hpaths
    simp only [Predicate.isWellFormed, Bool.and_eq_true] at hwell
    exact (ihl hwell.1 hpaths.1).and (ihr hwell.2 hpaths.2)
  | or left right ihl ihr =>
    simp only [Predicate.paths, List.forall_mem_append] at hpaths
    simp only [Predicate.isWellFormed, Bool.and_eq_true] at hwell
    have hfactor := (ihl hwell.1 hpaths.1).isFactor_or (ihr hwell.2 hpaths.2)
    exact hfactor.isChain rfl
  | not inner ih => exact (ih hwell hpaths).isFactor_not.isChain rfl
  | true => exact IsFactor.isChain ⟨.true, .refl _, fun _ _ _ => rfl⟩ rfl
  | false => exact IsFactor.isChain ⟨.false, .refl _, fun _ _ _ => rfl⟩ rfl

/-! ## Statements -/

theorem IsChain.read? (h : IsChain p) {statement : Statement}
    (htokens : tokens? statement.arguments statement.text = some p.tokens) :
    ∃ q, read? statement = some q ∧ Regroups q p.withoutEmptyLists := by
  obtain ⟨q, hq, hread⟩ := h.condition
  have hcondition := hread (p.tokens.length + 1) [] (Nat.lt_succ_self _) nofun nofun
  rw [List.append_nil] at hcondition
  exact ⟨q, by simp [Sql.read?, htokens, hcondition], hq⟩

/-- **Rendering keeps the structure of a predicate**: every predicate over single steps, with its
lists where lists belong, has a clause, and the clause with its arguments reads as the predicate, up
to the grouping of conjunctions and with falsehood for the membership tests with an empty list. -/
theorem whereClause_reads_back (hwell : p.isWellFormed = true)
    (hpaths : ∀ path ∈ p.paths, path.isSimple = true) :
    ∃ statement q, whereClause p = .ok statement ∧ read? statement = some q ∧
      Regroups q p.withoutEmptyLists := by
  obtain ⟨statement, hstatement, htokens⟩ := tokens?_whereClause hwell hpaths
  obtain ⟨q, hread, hq⟩ := (isChain_of_isWellFormed hwell hpaths).read? htokens
  exact ⟨statement, q, hstatement, hread, hq⟩

/-- A chain that is grouped to the right, around a disjunction with a range in it, and a negated
test with an empty list. -/
theorem whereClause_reads_back_chain :
    let p : Predicate :=
      .and (.like (.upper (.path (.simple "a\"b"))) "%X%")
        (.and (.or (.between (.path (.simple "c")) (.literal (.bool false)) (.literal .null))
            (.compare (.path (.simple "d")) .isIn (.list [.literal (.char 'x'), .literal .null])))
          (.not (.compare (.path (.simple "d")) .isIn (.list []))))
    let statement : Statement :=
      ⟨"UPPER(\"a\"\"b\") LIKE $1 AND (\"c\" BETWEEN $2 AND NULL OR \"d\" IN ($3, NULL)) " ++
        "AND NOT (FALSE)", [.string "%X%", .bool false, .char 'x']⟩
    whereClause p = .ok statement ∧
      ∃ q, read? statement = some q ∧ Regroups q p.withoutEmptyLists := by
  intro p statement
  have hstatement : whereClause p = .ok statement := rfl
  obtain ⟨_, q, hclause, hread, hq⟩ := whereClause_reads_back (p := p) rfl (by decide)
  cases hstatement.symm.trans hclause
  exact ⟨hstatement, q, hread, hq⟩

/-- How conjunctions are grouped cannot be seen in a statement. -/
theorem ofPredicate_of_regroups {q : Predicate} (h : Regroups p q) (scope : Scope) :
    ofPredicate scope p = ofPredicate scope q := by
  induction h with
  | refl => rfl
  | symm _ ih => exact ih.symm
  | trans _ _ ih ih' => exact ih.trans ih'
  | assoc l m r =>
    simp only [ofPredicate]
    cases ofPredicate scope l <;> cases ofPredicate scope m <;> cases ofPredicate scope r <;>
      simp [bind, Except.bind]
  | and _ _ ih ih' => rw [ofPredicate, ofPredicate, ih, ih']
  | or _ _ ih ih' => rw [ofPredicate, ofPredicate, ih, ih']
  | not _ ih => rw [ofPredicate, ofPredicate, ih]

/-- Two predicates have the same clause just when they differ in nothing but the grouping of
conjunctions and in what their empty lists are tested for. -/
theorem whereClause_eq_iff {q : Predicate} (hp : p.isWellFormed = true)
    (hpathsp : ∀ path ∈ p.paths, path.isSimple = true) (hq : q.isWellFormed = true)
    (hpathsq : ∀ path ∈ q.paths, path.isSimple = true) :
    whereClause p = whereClause q ↔ Regroups p.withoutEmptyLists q.withoutEmptyLists := by
  constructor
  · intro h
    obtain ⟨statement, hstatement, htokens⟩ := tokens?_whereClause hp hpathsp
    obtain ⟨statement', hstatement', htokens'⟩ := tokens?_whereClause hq hpathsq
    rw [hstatement, hstatement'] at h
    cases h
    obtain ⟨r, hread, hr⟩ := (isChain_of_isWellFormed hp hpathsp).read? htokens
    obtain ⟨r', hread', hr'⟩ := (isChain_of_isWellFormed hq hpathsq).read? htokens'
    cases hread.symm.trans hread'
    exact hr.symm.trans hr'
  · intro h
    have hfragments := ofPredicate_of_regroups h ⟨none, []⟩
    rw [Predicate.ofPredicate_withoutEmptyLists, Predicate.ofPredicate_withoutEmptyLists]
      at hfragments
    rw [whereClause, whereClause, hfragments]

end Sql

end RowFilter
