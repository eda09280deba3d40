import RowFilter.Proofs.Filter.Column
import RowFilter.Proofs.Filter.Scope
import RowFilter.Proofs.Query.Definite
import RowFilter.Proofs.Query.OwnFields
import RowFilter.Query.Document

/-!
# Negated filters

What a map under `NOT` selects is kept apart from what its entries select. A row that neither side
selects is one on which the condition is unknown: there is none where the condition tests for
absence, and none among the rows whose column has a value, unless the condition itself compares with
an absent one.
-/

namespace RowFilter

/-- A truth value that is known is true or its negation is. -/
theorem Truth.decide_not_eq (found : Bool) :
    decide (Truth.not (some found) = some true) = !decide (some found = some true) := by
  cases found <;> rfl

namespace FilterContext

variable {R : Type} [Filterable R] {record : R} {c : FilterContext} {schema : FieldSchema}
  {combinator : Combinator} {type : ScalarType} {key notKey : String} {value : Json}
  {negated : FilterMap} {p : Predicate} {compiled : Compiled}

/-! ## One condition -/

/-- The test for absence has an answer for every row. -/
theorem ColumnOutcome.exists_of_null (h : ColumnOutcome c schema key value p)
    (hnull : value.isNull = true) {b : Binding R} {t : Truth} (ht : p.evaluate b = .ok t) :
    ∃ found, t = some found := by
  obtain ⟨_, hcondition, _, hp⟩ := h
  have htest := Condition.isNullTest_of_ofValue hcondition
  cases hp with
  | absent =>
    obtain ⟨l, _, ht⟩ := bind_eq_ok.1 ht
    cases ht
    exact ⟨_, rfl⟩
  | @equals value' _ hpresent =>
    rw [hnull] at htest
    cases value' with
    | null => cases hpresent
    | bool | num | str | arr | obj => cases htest
  | like | isIn | range =>
    rw [hnull] at htest
    cases htest

/-- A condition that compares with no absent value has an answer for every row whose column has a
value. -/
theorem ColumnOutcome.exists_of_present (h : ColumnOutcome c schema key value p)
    (hliterals : ∀ l ∈ p.literals, l.isNull = false) {l : Literal}
    (hvalue : Filterable.value? record (Naming.camelCase key) = some l) (hl : l.isNull = false)
    {t : Truth} (ht : p.evaluate (Binding.root record) = .ok t) : ∃ found, t = some found := by
  obtain ⟨_, _, _, hp⟩ := h
  refine Predicate.exists_of_evaluate ⟨hliterals, ?_⟩ ht
  intro path hpath l' hl'
  rw [hp.reads.2 path hpath, Expr.evaluate_path] at hl'
  simp only [Path.parent_child, Path.property_child, Binding.get?_root, if_pos, hvalue,
    Option.getD_some] at hl'
  cases hl'
  exact hl

theorem compileMap_scalar (hkey : c.NamesField schema key (.scalar type)) :
    c.compileMap schema combinator [(key, value)] = .ok compiled ↔
      ∃ p, c.ColumnOutcome schema key value p ∧ compiled = ⟨p, []⟩ :=
  compileMap_column (FilterEntry.ofMap_singleton hkey.notPage hkey.notNegation)
    (.ofScalar hkey.declared value)

/-- A map of one entry under `NOT` compiles to the negation of the entry. -/
theorem compileMap_not_scalar (hpage : notKey ≠ c.pageKey)
    (hnot : FilterEntry.isNotKey notKey = true) (hkey : c.NamesField schema key (.scalar type)) :
    c.compileMap schema combinator [(notKey, .obj [(key, value)])] = .ok compiled ↔
      ∃ p, c.ColumnOutcome schema key value p ∧ compiled = ⟨.not p, []⟩ :=
  compileMap_column (e := ⟨.not, key, value⟩) (FilterEntry.ofMap_negation hpage hnot)
    (.ofScalar hkey.declared value)

/-! ## Several conditions -/

theorem combinedPredicate_and (p : Predicate) (ps : List Predicate) :
    Compiled.combinedPredicate ((p :: ps).map (Combinator.and, ·)) = ps.foldl .and p := by
  rw [List.map_cons, Compiled.combinedPredicate, List.foldl_map]
  rfl

/-- Conditions that are joined by conjunction are true where each of them is. -/
theorem evaluate_combinedPredicate_and {b : Binding R} {ps : List Predicate} :
    (Compiled.combinedPredicate (ps.map (Combinator.and, ·))).evaluate b = .ok (some .true) ↔
      ∀ p ∈ ps, p.evaluate b = .ok (some .true) := by
  cases ps with
  | nil => simp [Compiled.combinedPredicate, Predicate.evaluate]
  | cons p ps => rw [combinedPredicate_and, Predicate.evaluate_foldl_and_eq_true]

/-- A map under `NOT` compiles if each of its entries does. -/
theorem compileMap_not (hpage : notKey ≠ c.pageKey) (hnot : FilterEntry.isNotKey notKey = true)
    (hnegated : ∀ entry ∈ negated, ∃ type, c.NamesField schema entry.1 (.scalar type)) :
    c.compileMap schema combinator [(notKey, .obj negated)] = .ok compiled ↔
      ∃ ps, List.Forall₂ (fun entry p => c.ColumnOutcome schema entry.1 entry.2 p) negated ps ∧
        compiled = ⟨Compiled.combinedPredicate (ps.map fun p => (combinator, .not p)), []⟩ := by
  have hcolumns : ∀ e ∈ negated.map fun entry => (⟨.not, entry.1, entry.2⟩ : FilterEntry),
      ∃ kind type, schema.HasColumn e.key e.value kind type := by
    intro e he
    obtain ⟨entry, hentry, rfl⟩ := List.mem_map.1 he
    obtain ⟨type, hkey⟩ := hnegated entry hentry
    exact ⟨_, type, .ofScalar hkey.declared entry.2⟩
  rw [compileMap_columns (FilterEntry.ofMap_negation hpage hnot) hcolumns]
  refine exists_congr fun ps => ?_
  rw [List.forall₂_map_left_iff, combineColumns, List.zipWith_map_left]
  refine and_congr_right fun hall => ?_
  have hparts : List.zipWith (fun (_ : String × Json) (p : Predicate) => (combinator, p.not))
      negated ps = ps.map fun p => (combinator, .not p) := by
    clear hnegated hcolumns
    induction hall with
    | nil => rfl
    | cons _ _ ih => rw [List.zipWith_cons_cons, List.map_cons, ih]
  rw [← hparts]
  rfl

theorem exists_compileMap_not_iff (hpage : notKey ≠ c.pageKey)
    (hnot : FilterEntry.isNotKey notKey = true)
    (hnegated : ∀ entry ∈ negated, ∃ type, c.NamesField schema entry.1 (.scalar type)) :
    (∃ opposite, c.compileMap schema combinator [(notKey, .obj negated)] = .ok opposite) ↔
      ∀ entry ∈ negated, ∃ compiled, c.compileMap schema combinator [entry] = .ok compiled := by
  simp only [compileMap_not hpage hnot hnegated]
  constructor
  · rintro ⟨_, ps, hall, _⟩ entry hentry
    obtain ⟨type, hkey⟩ := hnegated entry hentry
    obtain ⟨p, _, hp⟩ := exists_of_forall₂ hall hentry
    exact ⟨_, (compileMap_scalar hkey).2 ⟨p, hp, rfl⟩⟩
  · intro h
    obtain ⟨ps, hall⟩ : ∃ ps, List.Forall₂
        (fun entry p => c.ColumnOutcome schema entry.1 entry.2 p) negated ps := by
      refine exists_forall₂ fun entry hentry => ?_
      obtain ⟨type, hkey⟩ := hnegated entry hentry
      obtain ⟨compiled, hcompiled⟩ := h entry hentry
      obtain ⟨p, hp, _⟩ := (compileMap_scalar hkey).1 hcompiled
      exact ⟨p, hp⟩
    exact ⟨_, ps, hall, rfl⟩

/-- A row passes a map under `NOT` if each entry of the map is false of it. -/
theorem passes_not_iff (hpage : notKey ≠ c.pageKey) (hnot : FilterEntry.isNotKey notKey = true)
    (hnegated : ∀ entry ∈ negated, ∃ type, c.NamesField schema entry.1 (.scalar type))
    (h : c.compileMap schema .and [(notKey, .obj negated)] = .ok compiled) :
    compiled.predicate.passes record compiled.joins = .ok true ↔
      ∀ entry ∈ negated, ∃ single, c.compileMap schema .and [entry] = .ok single ∧
        single.joins = [] ∧
        single.predicate.evaluate (Binding.root record) = .ok (some .false) := by
  obtain ⟨ps, hall, rfl⟩ := (compileMap_not hpage hnot hnegated).1 h
  have hparts : ps.map (fun p => (Combinator.and, p.not)) =
      (ps.map Predicate.not).map (Combinator.and, ·) := by
    rw [List.map_map]
    rfl
  rw [Predicate.passes_alone_iff, hparts, evaluate_combinedPredicate_and, List.forall_mem_map]
  simp only [Predicate.evaluate_not_eq_true]
  constructor
  · intro hfalse entry hentry
    obtain ⟨type, hkey⟩ := hnegated entry hentry
    obtain ⟨p, hmem, hp⟩ := exists_of_forall₂ hall hentry
    exact ⟨⟨p, []⟩, (compileMap_scalar hkey).2 ⟨p, hp, rfl⟩, rfl, hfalse p hmem⟩
  · -- each conjunct is the negation of what some entry compiles to by itself
    intro hentries p hmem
    obtain ⟨entry, hentry, hp⟩ := exists_of_forall₂ hall.flip hmem
    obtain ⟨type, hkey⟩ := hnegated entry hentry
    obtain ⟨single, hsingle, _, hfalse⟩ := hentries entry hentry
    cases ((compileMap_scalar hkey).2 ⟨p, hp, rfl⟩).symm.trans hsingle
    exact hfalse

/-! ## The partition -/

/-- **`NOT` partitions the rows** on which a condition is known: a row is selected by a condition on
a scalar field or by its negation, never by both, and by one of them if the condition tests for
absence, or if it compares with no absent value and the field has one. A map of such conditions
under `NOT` selects the rows on which each of them is false. -/
theorem negation_partitions (schema : FieldSchema) (hpage : notKey ≠ c.pageKey)
    (hnot : FilterEntry.isNotKey notKey = true) :
    (∀ combinator key value type compiled, c.NamesField schema key (.scalar type) →
      c.compileMap schema combinator [(key, value)] = .ok compiled →
      ∃ opposite,
        c.compileMap schema combinator [(notKey, .obj [(key, value)])] = .ok opposite ∧
        ∀ (record : R) (selected : Bool),
          compiled.predicate.passes record compiled.joins = .ok selected →
          ∃ rejected, opposite.predicate.passes record opposite.joins = .ok rejected ∧
            ¬(selected = true ∧ rejected = true) ∧
            (value.isNull = true → rejected = !selected) ∧
            ((∃ l, Filterable.value? record (Naming.camelCase key) = some l ∧ l.isNull = false) →
              (∀ l ∈ compiled.predicate.literals, l.isNull = false) → rejected = !selected)) ∧
    ∀ negated : FilterMap,
      (∀ entry ∈ negated, ∃ type, c.NamesField schema entry.1 (.scalar type)) →
      ((∃ opposite, c.compileMap schema .and [(notKey, .obj negated)] = .ok opposite) ↔
        ∀ entry ∈ negated, ∃ compiled, c.compileMap schema .and [entry] = .ok compiled) ∧
      ∀ opposite, c.compileMap schema .and [(notKey, .obj negated)] = .ok opposite →
        ∀ record : R, opposite.predicate.passes record opposite.joins = .ok true ↔
          ∀ entry ∈ negated, ∃ compiled, c.compileMap schema .and [entry] = .ok compiled ∧
            compiled.joins = [] ∧
            compiled.predicate.evaluate (Binding.root record) = .ok (some .false) := by
  constructor
  · intro combinator key value type compiled hkey hcompiled
    obtain ⟨p, hp, rfl⟩ := (compileMap_scalar hkey).1 hcompiled
    refine ⟨⟨.not p, []⟩, (compileMap_not_scalar hpage hnot hkey).2 ⟨p, hp, rfl⟩, ?_⟩
    intro record selected hselected
    obtain ⟨t, ht, rfl⟩ := Predicate.passes_alone.1 hselected
    have hopposite : (Predicate.not p).evaluate (Binding.root record) = .ok (Truth.not t) := by
      rw [Predicate.evaluate, ht]
      rfl
    have hknown : (∃ found, t = some found) →
        decide (Truth.not t = some true) = !decide (t = some true) := by
      rintro ⟨found, rfl⟩
      exact Truth.decide_not_eq found
    refine ⟨_, Predicate.passes_alone.2 ⟨_, hopposite, rfl⟩, ?_, ?_, ?_⟩
    · rcases t with _ | _ | _ <;> simp [Truth.not]
    · intro hnull
      exact hknown (hp.exists_of_null hnull ht)
    · rintro ⟨l, hvalue, hl⟩ hliterals
      exact hknown (hp.exists_of_present hliterals hvalue hl ht)
  · intro negated hnegated
    refine ⟨exists_compileMap_not_iff hpage hnot hnegated, ?_⟩
    intro opposite hopposite record
    exact passes_not_iff hpage hnot hnegated hopposite

end FilterContext

/-- The range from 30 to 50. -/
def Json.thirtyToFifty : Json := .obj [("from", .ofNat 30), ("to", .ofNat 50)]

namespace FilterContext

/-- Of two people whose ages are known, each is selected by one of two opposite ranges, and a person
of unknown age by neither. A map of two entries is negated entry by entry. -/
theorem negation_partitions_people :
    let c : FilterContext := ⟨.empty, "_page", .builtIn, .utc⟩
    let schema : FieldSchema :=
      ⟨"person", "person", some "id", [("id", .scalar .i64), ("age", .scalar .i64)]⟩
    let person (id : Int64) (age : Literal) : Document := ⟨[("id", .i64 id), ("age", age)], []⟩
    "Not" ≠ c.pageKey ∧ FilterEntry.isNotKey "Not" = true ∧
      c.NamesField schema "age" (.scalar .i64) ∧ c.NamesField schema "id" (.scalar .i64) ∧
      ∃ compiled opposite both,
        c.compileMap schema .and [("age", .thirtyToFifty)] = .ok compiled ∧
        c.compileMap schema .and [("Not", .obj [("age", .thirtyToFifty)])] = .ok opposite ∧
        c.compileMap schema .and [("Not", .obj [("age", .thirtyToFifty),
          ("id", .arr [.ofNat 3, .ofNat 4])])] = .ok both ∧
        compiled.predicate.passes (person 1 (.i64 40)) compiled.joins = .ok true ∧
        opposite.predicate.passes (person 1 (.i64 40)) opposite.joins = .ok false ∧
        compiled.predicate.passes (person 2 (.i64 60)) compiled.joins = .ok false ∧
        opposite.predicate.passes (person 2 (.i64 60)) opposite.joins = .ok true ∧
        compiled.predicate.passes (person 3 .null) compiled.joins = .ok false ∧
        opposite.predicate.passes (person 3 .null) opposite.joins = .ok false ∧
        both.predicate.passes (person 2 (.i64 60)) both.joins = .ok true := by
  intro c schema person
  have hpage : "Not" ≠ c.pageKey := by decide
  have hnot : FilterEntry.isNotKey "Not" = true := by decide +kernel
  have hage : c.NamesField schema "age" (.scalar .i64) :=
    ⟨by decide +kernel, by decide, by decide +kernel⟩
  have hid : c.NamesField schema "id" (.scalar .i64) :=
    ⟨by decide +kernel, by decide, by decide +kernel⟩
  have hnegated : ∀ entry ∈ ([("age", .thirtyToFifty), ("id", .arr [.ofNat 3, .ofNat 4])] :
      FilterMap), ∃ type, c.NamesField schema entry.1 (.scalar type) :=
    List.forall_mem_cons.2 ⟨⟨_, hage⟩, List.forall_mem_singleton.2 ⟨_, hid⟩⟩
  obtain ⟨hsingle, hmap⟩ := negation_partitions (R := Document) schema hpage hnot
  obtain ⟨compiled, hcompiled, hinside, houtside, hunknown, hliterals⟩ : ∃ compiled,
      c.compileMap schema .and [("age", .thirtyToFifty)] = .ok compiled ∧
      compiled.predicate.passes (person 1 (.i64 40)) compiled.joins = .ok true ∧
      compiled.predicate.passes (person 2 (.i64 60)) compiled.joins = .ok false ∧
      compiled.predicate.passes (person 3 .null) compiled.joins = .ok false ∧
      compiled.predicate.literals.all (!·.isNull) = true := by
    refine ⟨_, rfl, ?_, ?_, ?_, ?_⟩ <;> rfl
  have hliterals : ∀ l ∈ compiled.predicate.literals, l.isNull = false := by
    simpa using hliterals
  obtain ⟨opposite, hopposite, hpartition⟩ := hsingle .and "age" _ _ _ hage hcompiled
  have hpresent : ∀ (id n : Int64), ∃ l,
      Filterable.value? (person id (.i64 n)) (Naming.camelCase "age") = some l ∧
        l.isNull = false := fun _ n => ⟨.i64 n, rfl, rfl⟩
  obtain ⟨rejected, hrejected, _, _, heq⟩ := hpartition _ _ hinside
  cases heq (hpresent 1 40) hliterals
  obtain ⟨rejected, hrejected', _, _, heq⟩ := hpartition _ _ houtside
  cases heq (hpresent 2 60) hliterals
  have hneither : opposite.predicate.passes (person 3 .null) opposite.joins = .ok false := by
    obtain ⟨opposite', hopposite', hneither⟩ : ∃ opposite',
        c.compileMap schema .and [("Not", .obj [("age", .thirtyToFifty)])] = .ok opposite' ∧
        opposite'.predicate.passes (person 3 .null) opposite'.joins = .ok false := ⟨_, rfl, rfl⟩
    cases hopposite'.symm.trans hopposite
    exact hneither
  obtain ⟨both, hboth⟩ : ∃ both, c.compileMap schema .and [("Not", .obj [("age", .thirtyToFifty),
      ("id", .arr [.ofNat 3, .ofNat 4])])] = .ok both := ⟨_, rfl⟩
  refine ⟨hpage, hnot, hage, hid, compiled, opposite, both, hcompiled, hopposite, hboth, hinside,
    hrejected, houtside, hrejected', hunknown, hneither, ?_⟩
  refine ((hmap _ hnegated).2 both hboth _).2 ?_
  intro entry hentry
  rcases List.mem_pair.1 hentry with rfl | rfl <;> exact ⟨_, rfl, rfl, rfl⟩

end FilterContext

end RowFilter
