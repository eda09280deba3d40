import RowFilter.Proofs.Filter.EntryOrder

/-!
# Which fetch mode a join has

The entries of a filter can open one path several times: with a filter on the related records, which
asks for the mode that the relation declares, or with a condition on their identity, which asks for
a lazy join. The path is joined once, in the mode that the first of them asks for. So the modes
depend on the order of the entries exactly where two entries that open one path ask for different
ones.
-/

namespace RowFilter

/-! ## Lists -/

/-- Items for which nothing comes out can be left out. -/
theorem flatMap_filter_eq {α β : Type} {f : α → List β} {q : α → Bool} {items : List α}
    (h : ∀ x ∈ items, ¬ q x = true → f x = []) : (items.filter q).flatMap f = items.flatMap f := by
  induction items with
  | nil => rfl
  | cons x rest ih =>
    obtain ⟨hx, hrest⟩ := List.forall_mem_cons.1 h
    rw [List.filter_cons, List.flatMap_cons, ← ih hrest]
    split
    · rfl
    · next hq => rw [hx hq, List.nil_append]

theorem flatMap_eq_of_forall₂ {α β γ : Type} {r : α → β → Prop} {f : α → List γ} {g : β → List γ}
    {as : List α} {bs : List β} (h : List.Forall₂ r as bs)
    (heq : ∀ a, ∀ b ∈ bs, r a b → f a = g b) : as.flatMap f = bs.flatMap g := by
  induction h with
  | nil => rfl
  | cons hab _ ih =>
    rw [List.flatMap_cons, List.flatMap_cons, heq _ _ List.mem_cons_self hab,
      ih fun a b hb => heq a b (List.mem_cons_of_mem _ hb)]

/-! ## Paths -/

namespace Path

variable {p : Path} {name : String} {steps steps' : List String}

/-- The path with more steps. -/
def below (p : Path) (steps : List String) : Path := ⟨p.steps ++ steps⟩

theorem below_child : (p.child name).below steps = p.below (name :: steps) := by
  rw [below, below, child, List.append_assoc, List.singleton_append]

theorem below_inj : p.below steps = p.below steps' ↔ steps = steps' := by
  rw [below, below, Path.mk.injEq, List.append_cancel_left_eq]

theorem eq_below_iff : p = p.below steps ↔ steps = [] := by
  rw [below, Path.mk.injEq, List.self_eq_append_right]

end Path

/-! ## Openings -/

/-- How an entry of a filter opens a relation: with a filter on the related records, or with a
condition on the identity of one of them. -/
structure Opening where
  relation : Relation
  nested : Bool
  deriving Repr, DecidableEq

/-- The fetch mode that an opening asks for. -/
def Opening.fetch (o : Opening) : FetchMode := if o.nested then o.relation.fetch else .lazy

theorem Opening.fetch_eq_relation_iff {o : Opening} :
    o.fetch = o.relation.fetch ↔ o.relation.fetch = .lazy ∨ o.nested = true := by
  unfold fetch
  cases o.nested with
  | true => simp
  | false => simp [eq_comm]

/-- How a value that is given for a relation opens it, if it does. -/
def Relation.opening? (r : Relation) (value : Json) : Option Opening :=
  if (Condition.nested? value).isSome then some ⟨r, true⟩
  else if r.cardinality = .many ∧ value.isNull = false then some ⟨r, false⟩
  else none

theorem Relation.opening?_nested {r : Relation} {value : Json} {fields : FilterMap}
    (h : Condition.nested? value = some fields) : r.opening? value = some ⟨r, true⟩ := by
  rw [opening?, h, Option.isSome_some, if_pos rfl]

theorem Relation.opening?_flat {r : Relation} {value : Json}
    (h : Condition.nested? value = none) :
    r.opening? value =
      if r.cardinality = .many ∧ value.isNull = false then some ⟨r, false⟩ else none := by
  rw [opening?, h, Option.isSome_none, if_neg Bool.false_ne_true]

theorem Relation.relation_of_opening? {r : Relation} {value : Json} {o : Opening}
    (h : r.opening? value = some o) : o.relation = r := by
  unfold opening? at h
  split at h
  · cases h
    rfl
  · split at h
    · cases h
      rfl
    · cases h

namespace FilterContext

/-- How an entry opens the relation that its field and some further steps lead to, where `nested`
tells how filters on the related records open what the further steps lead to. -/
def openedBy (c : FilterContext) (nested : FieldSchema → FilterMap → List Opening)
    (schema : FieldSchema) (steps : List String) (e : FilterEntry) : List Opening :=
  match schema.get? e.field with
  | some (.relation r) =>
    (if steps.isEmpty then (r.opening? e.value).toList else []) ++
      ((Condition.nested? e.value).map (nested (c.target r))).getD []
  | _ => []

/-- How the entries of a filter open the relation that some steps lead to, in the order of the
entries. -/
def openings (c : FilterContext) : List String → FieldSchema → FilterMap → List Opening
  | [], _, _ => []
  | name :: rest, schema, filter =>
    ((FilterEntry.ofMap c.pageKey filter).filter (·.field = name)).flatMap
      (c.openedBy (c.openings rest) schema rest)

variable {c : FilterContext} {schema start : FieldSchema} {root : Path} {name : String}
  {steps : List String} {filter filter' : FilterMap} {combinator : Combinator} {e : FilterEntry}
  {n : FilterNode} {part compiled compiled' : Compiled} {o : Opening}
  {nodes nodes' : List FilterNode} {nested : FieldSchema → FilterMap → List Opening}

theorem openedBy_relation {r : Relation} (hr : schema.get? e.field = some (.relation r)) :
    c.openedBy nested schema steps e =
      (if steps.isEmpty then (r.opening? e.value).toList else []) ++
        ((Condition.nested? e.value).map (nested (c.target r))).getD [] := by
  rw [openedBy, hr]

theorem mem_openedBy :
    o ∈ c.openedBy nested schema steps e ↔ ∃ r, schema.get? e.field = some (.relation r) ∧
      (steps = [] ∧ r.opening? e.value = some o ∨
        ∃ fields, Condition.nested? e.value = some fields ∧ o ∈ nested (c.target r) fields) := by
  unfold openedBy
  split
  · next r hr =>
    rw [List.mem_append, hr]
    refine Iff.trans (or_congr ?_ ?_) ⟨fun h => ⟨r, rfl, h⟩, ?_⟩
    · cases steps <;> simp
    · cases Condition.nested? e.value <;> simp
    · rintro ⟨r', hr', h⟩
      cases hr'
      exact h
  · next hother =>
    refine iff_of_false List.not_mem_nil ?_
    rintro ⟨r, hr, _⟩
    exact hother r hr

theorem mem_openings :
    o ∈ c.openings (name :: steps) schema filter ↔
      ∃ e ∈ FilterEntry.ofMap c.pageKey filter, e.field = name ∧
        o ∈ c.openedBy (c.openings steps) schema steps e := by
  rw [openings, List.mem_flatMap]
  simp only [List.mem_filter, decide_eq_true_eq, and_assoc]

/-- The relation that is opened is the one that the steps lead to. -/
theorem leads_of_mem_openings (h : o ∈ c.openings steps schema filter)
    (hroot : c.Leads start root schema) :
    ∃ p s name, root.below steps = p.child name ∧ c.Leads start p s ∧
      s.get? name = some (.relation o.relation) := by
  induction steps generalizing schema root filter with
  | nil => cases h
  | cons name rest ih =>
    obtain ⟨e, _, rfl, he⟩ := mem_openings.1 h
    obtain ⟨r, hr, ⟨rfl, hopening⟩ | ⟨fields, _, hbelow⟩⟩ := mem_openedBy.1 he
    · rw [Relation.relation_of_opening? hopening]
      exact ⟨root, schema, e.field, rfl, hroot, hr⟩
    · rw [← Path.below_child]
      exact ih hbelow (.step hroot hr)

/-! ## Joins of one level -/

/-- Whether the joins are those of the relations that a filter on the records at a path opens, each
path as often as it is opened, and in the modes that are asked for. -/
structure Fetches (c : FilterContext) (schema : FieldSchema) (root : Path)
    (combinator : Combinator) (filter : FilterMap) (compiled : Compiled) : Prop where
  below : ∀ join ∈ compiled.joins, ∃ name steps, join.path = root.below (name :: steps)
  modes : ∀ steps, (compiled.joins.filter (·.path = root.below steps)).map Join.fetch =
    (c.openings steps schema filter).map Opening.fetch

/-- The joins of a node lead through its field. -/
theorem NodeOutcome.joins_below (h : NodeOutcome c c.Fetches schema root n part) :
    ∀ join ∈ part.joins, ∃ steps, join.path = root.below (n.field :: steps) := by
  cases h with
  | column | absent | key => exact List.forall_mem_nil _
  | member => exact List.forall_mem_singleton.2 ⟨[], rfl⟩
  | joined _ _ hinner =>
    refine List.forall_mem_cons.2 ⟨⟨[], rfl⟩, ?_⟩
    intro join hjoin
    obtain ⟨name, steps, hpath⟩ := hinner.below join hjoin
    exact ⟨name :: steps, by rw [hpath, Path.below_child]⟩

/-- The modes of the joins of a path, if the first join is the one of a relation. -/
theorem modes_cons_joinOf {r : Relation} {fetch : FetchMode} {joins : List Join} :
    ((c.joinOf r (root.child name) fetch :: joins).filter
        (·.path = (root.child name).below steps)).map Join.fetch =
      (if steps.isEmpty then [fetch] else []) ++
        (joins.filter (·.path = (root.child name).below steps)).map Join.fetch := by
  have hpath : (c.joinOf r (root.child name) fetch).path = (root.child name).below steps ↔
      steps = [] := Path.eq_below_iff
  rw [List.filter_cons]
  cases steps with
  | nil =>
    rw [if_pos (decide_eq_true (hpath.2 rfl))]
    rfl
  | cons =>
    rw [if_neg fun h => nomatch hpath.1 (of_decide_eq_true h)]
    rfl

/-- What a node joins below its field is in the modes that its entry asks for. -/
theorem NodeOutcome.modes (hread : Reading.ofEntry schema combinator e = .ok (.node n))
    (h : NodeOutcome c c.Fetches schema root n part) (steps : List String) :
    (part.joins.filter (·.path = root.below (n.field :: steps))).map Join.fetch =
      (c.openedBy (c.openings steps) schema steps e).map Opening.fetch := by
  obtain ⟨kind, condition, hkind, hcondition, rfl⟩ := Reading.ofEntry_node hread
  have hnull := Condition.isNullTest_of_ofValue hcondition
  rw [← Path.below_child]
  cases h with
  | column hscalar =>
    rw [openedBy, hscalar]
    rfl
  | absent hrelation hequals =>
    change condition = _ at hequals
    rw [hequals] at hnull
    rw [openedBy, hrelation, Json.eq_null_of_isNull hnull.symm]
    cases steps <;> simp [Relation.opening?, Condition.nested?, Json.isNull]
  | key hrelation hone _ _ _ hp =>
    cases hkind.symm.trans hrelation
    have hnested := (compileValue_ok hp).nested?_eq_none hcondition
    rw [openedBy_relation hkind, Relation.opening?_flat hnested, hone, hnested]
    cases steps <;> rfl
  | member hrelation hmany _ hpresent _ hp =>
    cases hkind.symm.trans hrelation
    have hnested := (compileValue_ok hp).nested?_eq_none hcondition
    have hopens : _ ∧ e.value.isNull = false := ⟨hmany, hnull ▸ hpresent⟩
    rw [openedBy_relation hkind, modes_cons_joinOf, Relation.opening?_flat hnested, hnested,
      if_pos hopens]
    cases steps <;> rfl
  | @joined r filter inner hrelation hjoined hinner =>
    cases hkind.symm.trans hrelation
    have hnested := (Condition.ofValue_relation rfl hcondition filter).1 hjoined
    rw [openedBy_relation hkind, modes_cons_joinOf, Relation.opening?_nested hnested, hnested,
      hinner.modes]
    cases steps <;> rfl

/-- The parts of a level that are on one field, beside the entries that they were read from. -/
theorem forall₂_onField {reading : FilterReading} {parts : List (FilterNode × Compiled)}
    (hreading : FilterReading.ofMap schema c.pageKey combinator filter = .ok reading)
    (harranged : Arranged reading.nodes (parts.map Prod.fst)) (name : String) :
    List.Forall₂ (fun e part => Reading.ofEntry schema combinator e = .ok (.node part.1))
      (((FilterEntry.ofMap c.pageKey filter).filter (·.field = name)).filter
        (·.isDeclaredIn schema))
      (parts.filter (·.1.field = name)) := by
  have hfields : ∀ {e : FilterEntry} {n : FilterNode},
      Reading.ofEntry schema combinator e = .ok (.node n) →
        (decide (e.field = name) = true ↔ decide (n.field = name) = true) := by
    intro e n hread
    obtain ⟨_, _, _, _, rfl⟩ := Reading.ofEntry_node hread
    exact Iff.rfl
  have hnodes := List.rel_filter (p := fun e : FilterEntry => decide (e.field = name))
    (q := fun n : FilterNode => decide (n.field = name)) (fun _ _ => hfields)
    (FilterReading.nodes_ofMap hreading)
  rw [← harranged.onField, List.filter_map, List.forall₂_map_right_iff] at hnodes
  rw [List.filter_comm]
  exact hnodes

/-- Joins that lead through one field are not on a path that leads through another. -/
theorem filter_joins_eq_nil {joins : List Join} {field : String}
    (hbelow : ∀ join ∈ joins, ∃ steps, join.path = root.below (field :: steps))
    (hother : steps.head? ≠ some field) : joins.filter (·.path = root.below steps) = [] := by
  refine List.filter_eq_nil_iff.2 fun join hjoin hpath => ?_
  obtain ⟨others, hothers⟩ := hbelow join hjoin
  have hsteps : steps = field :: others :=
    Path.below_inj.1 ((of_decide_eq_true hpath).symm.trans hothers)
  exact hother (hsteps ▸ rfl)

/-- Every level joins what its entries open if the filters nested in it do. -/
theorem isPreservedInOrder_fetches : c.IsPreservedInOrder c.Fetches := by
  intro schema root combinator filter reading parts hreading harranged hparts
  have hjoins : (Compiled.combine (parts.map ofPart)).joins =
      parts.flatMap fun part => part.2.joins := by
    rw [Compiled.combine, List.flatMap_map]
    rfl
  have hbelow : ∀ part ∈ parts, ∀ join ∈ part.2.joins,
      ∃ steps, join.path = root.below (part.1.field :: steps) :=
    fun part hpart => (hparts part hpart).joins_below
  constructor
  · intro join hjoin
    rw [hjoins] at hjoin
    obtain ⟨part, hpart, hjoin⟩ := List.mem_flatMap.1 hjoin
    exact ⟨_, hbelow part hpart join hjoin⟩
  · intro steps
    rw [hjoins, List.filter_flatMap, List.map_flatMap]
    cases steps with
    | nil =>
      rw [openings, List.map_nil, List.flatMap_eq_nil_iff]
      intro part hpart
      have hroot : ([] : List String).head? ≠ some part.1.field := (Option.some_ne_none _).symm
      rw [filter_joins_eq_nil (hbelow part hpart) hroot, List.map_nil]
    | cons name rest =>
      -- parts on other fields join nothing on the path, and entries of no field open nothing
      rw [openings, List.map_flatMap, ← flatMap_filter_eq (q := FilterEntry.isDeclaredIn schema),
        ← flatMap_filter_eq (q := fun part => decide (part.1.field = name))]
      · refine (flatMap_eq_of_forall₂ (forall₂_onField hreading harranged name) ?_).symm
        intro e part hfiltered hread
        obtain ⟨hpart, hfield⟩ := List.mem_filter.1 hfiltered
        rw [← of_decide_eq_true hfield]
        exact ((hparts part hpart).modes hread rest).symm
      · intro part hpart hother
        have hfield : (name :: rest).head? ≠ some part.1.field :=
          fun heq => hother (decide_eq_true (Option.some.inj heq).symm)
        rw [filter_joins_eq_nil (hbelow part hpart) hfield, List.map_nil]
      · intro e _ hundeclared
        rw [FilterEntry.isDeclaredIn, Bool.not_eq_true, Option.isSome_eq_false_iff,
          Option.isNone_iff_eq_none] at hundeclared
        rw [openedBy, hundeclared]
        rfl

/-! ## Joins that occur once -/

/-- Of the joins of one path, the first stays. -/
theorem head?_filter_of_mem_distinctJoins {joins : List Join} {join : Join}
    (h : join ∈ Compiled.distinctJoins joins) :
    (joins.filter (·.path = join.path)).head? = some join := by
  induction joins with
  | nil => cases h
  | cons first rest ih =>
    rw [List.filter_cons]
    rcases List.mem_cons.1 h with rfl | h
    · rw [if_pos (decide_eq_true rfl), List.head?_cons]
    · obtain ⟨hrest, hother⟩ := List.mem_filter.1 h
      rw [if_neg fun hpath => of_decide_eq_true hother (of_decide_eq_true hpath).symm, ih hrest]

/-- A path is joined if something opens it, in the mode that the first opening asks for. -/
theorem fetches_of_compile
    (hnodes : FilterNode.ofMap schema c.pageKey combinator filter = .ok nodes)
    (hcompile : c.compile schema nodes = .ok compiled) :
    (∀ p, p ∈ compiled.joins.map Join.path ↔ c.openings p.steps schema filter ≠ []) ∧
    ∀ join ∈ compiled.joins,
      (c.openings join.path.steps schema filter).head?.map Opening.fetch = some join.fetch := by
  obtain ⟨inner, hinner, rfl⟩ := compile_induct_inOrder isPreservedInOrder_fetches hnodes hcompile
  have hmodes : ∀ p : Path, (inner.joins.filter (·.path = p)).map Join.fetch =
      (c.openings p.steps schema filter).map Opening.fetch := fun p => hinner.modes p.steps
  constructor
  · intro p
    rw [Compiled.mem_paths_distinctJoins, ← not_iff_not, not_ne_iff, ← List.map_eq_nil_iff,
      ← hmodes, List.map_eq_nil_iff, List.filter_eq_nil_iff, List.mem_map]
    simp
  · intro join hjoin
    rw [← List.head?_map, ← hmodes, List.head?_map, head?_filter_of_mem_distinctJoins hjoin]
    rfl

theorem exists_opening_of_join
    (hnodes : FilterNode.ofMap schema c.pageKey combinator filter = .ok nodes)
    (hcompile : c.compile schema nodes = .ok compiled) {join : Join}
    (hjoin : join ∈ compiled.joins) :
    ∃ o ∈ c.openings join.path.steps schema filter, o.fetch = join.fetch := by
  obtain ⟨o, hhead, hfetch⟩ :=
    Option.map_eq_some_iff.1 ((fetches_of_compile hnodes hcompile).2 join hjoin)
  exact ⟨o, List.mem_of_head? hhead, hfetch⟩

/-! ## Reordered filters -/

/-- Whether all entries of a filter that open one path ask for one fetch mode. -/
def AgreesOnFetch (c : FilterContext) (schema : FieldSchema) (filter : FilterMap) : Prop :=
  ∀ steps, ∀ o ∈ c.openings steps schema filter, ∀ o' ∈ c.openings steps schema filter,
    o.fetch = o'.fetch

/-- A relation is opened alike by a value in any order. -/
theorem exists_nested?_of_reordered {value value' : Json} {fields : FilterMap}
    (h : value.Reordered value') (hnested : Condition.nested? value = some fields) :
    ∃ fields', Condition.nested? value' = some fields' ∧
      Json.Reordered (.obj fields) (.obj fields') := by
  obtain ⟨rfl, hrange⟩ := Condition.nested?_eq_some.1 hnested
  obtain ⟨fields', rfl⟩ := h.exists_obj
  exact ⟨fields', Condition.nested?_eq_some.2 ⟨rfl, Condition.isRange_eq h ▸ hrange⟩, h⟩

theorem opening?_of_reordered {r : Relation} {value value' : Json} (h : value.Reordered value') :
    r.opening? value = r.opening? value' := by
  cases hnested : Condition.nested? value with
  | some fields =>
    obtain ⟨fields', hnested', _⟩ := exists_nested?_of_reordered h hnested
    rw [Relation.opening?_nested hnested, Relation.opening?_nested hnested']
  | none =>
    cases hnested' : Condition.nested? value' with
    | some fields' =>
      obtain ⟨fields, hsome, _⟩ := exists_nested?_of_reordered h.symm hnested'
      rw [hnested] at hsome
      cases hsome
    | none => rw [Relation.opening?_flat hnested, Relation.opening?_flat hnested', h.isNull_eq]

theorem mem_openings_of_reordered (h : Json.Reordered (.obj filter) (.obj filter'))
    (ho : o ∈ c.openings steps schema filter) : o ∈ c.openings steps schema filter' := by
  induction steps generalizing schema filter filter' with
  | nil => cases ho
  | cons name rest ih =>
    obtain ⟨e, he, hfield, ho⟩ := mem_openings.1 ho
    obtain ⟨e', he', hrelated⟩ := FilterEntry.exists_of_mem h he
    obtain ⟨r, hr, ho⟩ := mem_openedBy.1 ho
    rw [hrelated.field_eq] at hfield hr
    refine mem_openings.2 ⟨e', he', hfield, mem_openedBy.2 ⟨r, hr, ?_⟩⟩
    rcases ho with ⟨hlast, hopening⟩ | ⟨fields, hnested, hbelow⟩
    · exact .inl ⟨hlast, opening?_of_reordered hrelated.value ▸ hopening⟩
    · obtain ⟨fields', hnested', hfields⟩ := exists_nested?_of_reordered hrelated.value hnested
      exact .inr ⟨fields', hnested', ih hfields hbelow⟩

theorem AgreesOnFetch.of_reordered (h : Json.Reordered (.obj filter) (.obj filter'))
    (hagrees : c.AgreesOnFetch schema filter) : c.AgreesOnFetch schema filter' :=
  fun steps o ho o' ho' => hagrees steps o (mem_openings_of_reordered h.symm ho) o'
    (mem_openings_of_reordered h.symm ho')

/-- Where the openings agree, each join has a counterpart in the other order of the entries. -/
theorem AgreesOnFetch.mem_joins (hagrees : c.AgreesOnFetch schema filter)
    (h : Json.Reordered (.obj filter) (.obj filter'))
    (hnodes : FilterNode.ofMap schema c.pageKey combinator filter = .ok nodes)
    (hcompile : c.compile schema nodes = .ok compiled)
    (hnodes' : FilterNode.ofMap schema c.pageKey combinator filter' = .ok nodes')
    (hcompile' : c.compile schema nodes' = .ok compiled') {join : Join}
    (hjoin : join ∈ compiled.joins) : join ∈ compiled'.joins := by
  have hpaths' := (fetches_of_compile hnodes' hcompile').1
  obtain ⟨o, ho, hfetch⟩ := exists_opening_of_join hnodes hcompile hjoin
  obtain ⟨join', hjoin', hpath⟩ : ∃ join' ∈ compiled'.joins, join'.path = join.path :=
    List.mem_map.1 ((hpaths' _).2 (List.ne_nil_of_mem (mem_openings_of_reordered h ho)))
  obtain ⟨o', ho', hfetch'⟩ := exists_opening_of_join hnodes' hcompile' hjoin'
  have hsame : join.fetch = join'.fetch := by
    rw [hpath] at ho'
    rw [← hfetch, ← hfetch']
    exact hagrees _ o ho o' (mem_openings_of_reordered h.symm ho')
  have hrelation := (scoped_of_compile hnodes hcompile).1.relations schema .root join hjoin
  have hrelation' := (scoped_of_compile hnodes' hcompile').1.relations schema .root join' hjoin'
  have hjoins : join = join' := calc
    join = join.withFetch join.fetch := rfl
    _ = join'.withFetch join.fetch := hrelation.withFetch_eq hrelation' hpath.symm
    _ = join'.withFetch join'.fetch := by rw [hsame]
    _ = join' := rfl
  exact hjoins ▸ hjoin'

/-! ## Orders that differ -/

/-- What a filter states can be stated first, in any order of its entries. -/
theorem States.exists_first {pageKey key : String} {value value' : Json}
    (hstates : States pageKey filter key value)
    (hself : Json.Reordered (.obj filter) (.obj filter)) (hvalue : value.Reordered value') :
    ∃ filter' e rest, Json.Reordered (.obj filter) (.obj filter') ∧
      FilterEntry.ofMap pageKey filter' = e :: rest ∧ e.key = key ∧ e.value = value' := by
  cases hstates with
  | plain hentry hpage hnot =>
    obtain ⟨rest, hrest⟩ := hself.exists_cons hentry hvalue
    refine ⟨_, ⟨.none, key, value'⟩, FilterEntry.ofMap pageKey rest, hrest, ?_, rfl, rfl⟩
    rw [FilterEntry.ofMap, List.flatMap_cons, FilterEntry.ofEntry, if_neg hpage, hnot,
      if_neg Bool.false_ne_true]
    rfl
  | @negated notKey _ entries _ hentry hpage hnot hinner =>
    have hentries : Json.Reordered (.obj entries) (.obj entries) := by
      cases hself with
      | obj _ hvalues => exact hvalues _ _ _ hentry hentry
    obtain ⟨others, hothers⟩ := hentries.exists_cons hinner hvalue
    obtain ⟨rest, hrest⟩ := hself.exists_cons hentry hothers
    refine ⟨_, ⟨.not, key, value'⟩, others.map (fun inner => ⟨.not, inner.1, inner.2⟩) ++
      FilterEntry.ofMap pageKey rest, hrest, ?_, rfl, rfl⟩
    rw [FilterEntry.ofMap, List.flatMap_cons, FilterEntry.ofEntry, if_neg hpage, if_pos hnot]
    rfl

theorem States.reordered_self {pageKey key : String} {value : Json}
    (hstates : States pageKey filter key value)
    (hself : Json.Reordered (.obj filter) (.obj filter)) : value.Reordered value := by
  cases hself with
  | obj _ hvalues =>
    cases hstates with
    | plain hentry => exact hvalues _ _ _ hentry hentry
    | negated hentry _ _ hinner =>
      cases hvalues _ _ _ hentry hentry with
      | obj _ hinners => exact hinners _ _ _ hinner hinner

/-- What the first entry of a filter opens comes first. -/
theorem head?_openings {rest : List FilterEntry}
    (hentries : FilterEntry.ofMap c.pageKey filter = e :: rest) (hfield : e.field = name)
    (hhead : (c.openedBy (c.openings steps) schema steps e).head? = some o) :
    (c.openings (name :: steps) schema filter).head? = some o := by
  rw [openings, hentries, List.filter_cons, if_pos (decide_eq_true hfield), List.flatMap_cons,
    List.head?_append, hhead]
  rfl

/-- Each opening is the first one in some order of the entries. -/
theorem exists_openings_head (hself : Json.Reordered (.obj filter) (.obj filter))
    (ho : o ∈ c.openings steps schema filter) :
    ∃ filter', Json.Reordered (.obj filter) (.obj filter') ∧
      (c.openings steps schema filter').head? = some o := by
  induction steps generalizing schema filter with
  | nil => cases ho
  | cons name steps ih =>
    obtain ⟨e, he, hfield, ho⟩ := mem_openings.1 ho
    obtain ⟨r, hr, ho⟩ := mem_openedBy.1 ho
    have hstates := states_iff.2 ⟨e, he, rfl, rfl⟩
    -- the entry of the opening comes first, and what it states is in an order of its own
    obtain ⟨value', hvalue, hhead⟩ : ∃ value', e.value.Reordered value' ∧
        ∀ e', e'.field = e.field → e'.value = value' →
          (c.openedBy (c.openings steps) schema steps e').head? = some o := by
      rcases ho with ⟨rfl, hopening⟩ | ⟨fields, hnested, hbelow⟩
      · refine ⟨e.value, hstates.reordered_self hself, fun e' hfield' hvalue => ?_⟩
        rw [openedBy_relation (hfield' ▸ hr), hvalue, hopening]
        rfl
      · obtain ⟨hvalue, hrange⟩ := Condition.nested?_eq_some.1 hnested
        obtain ⟨fields', hreordered, hhead⟩ :=
          ih (hvalue ▸ hstates.reordered_self hself) hbelow
        have hnested' : Condition.nested? (.obj fields') = some fields' :=
          Condition.nested?_eq_some.2 ⟨rfl, Condition.isRange_eq hreordered ▸ hrange⟩
        refine ⟨.obj fields', hvalue ▸ hreordered, fun e' hfield' hvalue' => ?_⟩
        rw [openedBy_relation (hfield' ▸ hr), hvalue', hnested', Option.map_some, Option.getD_some]
        cases steps with
        | nil => cases hbelow
        | cons => exact hhead
    obtain ⟨filter', e', rest, hreordered, hentries, hkey, he'⟩ :=
      hstates.exists_first hself hvalue
    have hfield' : e'.field = e.field := congrArg Naming.camelCase hkey
    exact ⟨filter', hreordered,
      head?_openings hentries (hfield'.trans hfield) (hhead e' hfield' he')⟩

/-! ## Fetch modes -/

/-- The first opening of a path gives the mode of its join, in whatever order the joins stand. -/
theorem exists_join_of_head {joins : List Join}
    (hnodes : FilterNode.ofMap schema c.pageKey combinator filter = .ok nodes)
    (hcompile : c.compile schema nodes = .ok compiled)
    (hhead : (c.openings steps schema filter).head? = some o)
    (hperm : joins.Perm compiled.joins) :
    ∃ join ∈ joins, join.path = ⟨steps⟩ ∧ join.fetch = o.fetch := by
  obtain ⟨hpaths, hmodes⟩ := fetches_of_compile hnodes hcompile
  have hopened : c.openings steps schema filter ≠ [] := by
    intro hnil
    rw [hnil] at hhead
    cases hhead
  obtain ⟨join, hjoin, hpath⟩ := List.mem_map.1 ((hpaths ⟨steps⟩).2 hopened)
  have hfetch := hmodes join hjoin
  rw [hpath, hhead] at hfetch
  exact ⟨join, hperm.mem_iff.2 hjoin, hpath, (Option.some.inj hfetch).symm⟩

/-- The joins are the same in every order of the entries exactly if the openings agree. -/
theorem perm_joins_iff_agreesOnFetch
    (hnodes : FilterNode.ofMap schema c.pageKey combinator filter = .ok nodes)
    (hcompile : c.compile schema nodes = .ok compiled)
    (hself : Json.Reordered (.obj filter) (.obj filter)) :
    (∀ filter' nodes' compiled', Json.Reordered (.obj filter) (.obj filter') →
      FilterNode.ofMap schema c.pageKey combinator filter' = .ok nodes' →
      c.compile schema nodes' = .ok compiled' → compiled.joins.Perm compiled'.joins) ↔
    c.AgreesOnFetch schema filter := by
  have hnodup : ∀ {filter nodes compiled},
      FilterNode.ofMap schema c.pageKey combinator filter = .ok nodes →
      c.compile schema nodes = .ok compiled → (compiled.joins.map Join.path).Nodup :=
    fun hnodes hcompile => (scoped_of_compile hnodes hcompile).2
  constructor
  · intro hperm steps
    have hfirst : ∀ o ∈ c.openings steps schema filter,
        ∃ join ∈ compiled.joins, join.path = ⟨steps⟩ ∧ join.fetch = o.fetch := by
      intro o ho
      obtain ⟨filter', hreordered, hhead⟩ := exists_openings_head hself ho
      obtain ⟨nodes', compiled', hnodes', hcompile'⟩ :=
        exists_compile_of_reordered hreordered hnodes hcompile
      exact exists_join_of_head hnodes' hcompile' hhead
        (hperm filter' nodes' compiled' hreordered hnodes' hcompile')
    intro o ho o' ho'
    obtain ⟨join, hjoin, hpath, hfetch⟩ := hfirst o ho
    obtain ⟨join', hjoin', hpath', hfetch'⟩ := hfirst o' ho'
    have hsame : join = join' :=
      List.inj_on_of_nodup_map (hnodup hnodes hcompile) hjoin hjoin' (hpath.trans hpath'.symm)
    rw [← hfetch, hsame, hfetch']
  · intro hagrees filter' nodes' compiled' hreordered hnodes' hcompile'
    have hdistinct := (hnodup hnodes hcompile).of_map
    have hdistinct' := (hnodup hnodes' hcompile').of_map
    refine (List.perm_ext_iff_of_nodup hdistinct hdistinct').2 fun join => ⟨?_, ?_⟩
    · exact hagrees.mem_joins hreordered hnodes hcompile hnodes' hcompile'
    · exact (hagrees.of_reordered hreordered).mem_joins hreordered.symm hnodes' hcompile' hnodes
        hcompile

/-- **Which fetch mode a join has**: a filter that compiles joins the paths that its entries open,
each in the mode that the first entry to open it asks for. So a path that conditions on an identity
alone open is joined lazily, and the mode that a relation declares is that of its join if it is
lazy itself, or if the first entry to open it gives it a filter. The order of the entries decides
no mode exactly if no two of them ask for different modes at one path. -/
theorem join_fetch_first
    (hnodes : FilterNode.ofMap schema c.pageKey combinator filter = .ok nodes)
    (hcompile : c.compile schema nodes = .ok compiled) :
    (∀ p, p ∈ compiled.joins.map Join.path ↔ c.openings p.steps schema filter ≠ []) ∧
    (∀ join ∈ compiled.joins, ∃ first rest,
      c.openings join.path.steps schema filter = first :: rest ∧
      (∃ p s name, join.path = p.child name ∧ c.Leads schema p s ∧
        ∀ o ∈ first :: rest, s.get? name = some (.relation o.relation)) ∧
      join.fetch = first.fetch ∧
      ((∀ o ∈ first :: rest, o.nested = false) → join.fetch = .lazy) ∧
      (join.fetch = first.relation.fetch ↔
        first.relation.fetch = .lazy ∨ first.nested = true)) ∧
    (Json.Reordered (.obj filter) (.obj filter) →
      ((∀ filter' nodes' compiled', Json.Reordered (.obj filter) (.obj filter') →
        FilterNode.ofMap schema c.pageKey combinator filter' = .ok nodes' →
        c.compile schema nodes' = .ok compiled' → compiled.joins.Perm compiled'.joins) ↔
      c.AgreesOnFetch schema filter)) := by
  obtain ⟨hpaths, hmodes⟩ := fetches_of_compile hnodes hcompile
  refine ⟨hpaths, fun join hjoin => ?_, perm_joins_iff_agreesOnFetch hnodes hcompile⟩
  obtain ⟨first, hhead, hfetch⟩ := Option.map_eq_some_iff.1 (hmodes join hjoin)
  obtain ⟨rest, hopenings⟩ := List.head?_eq_some_iff.1 hhead
  have hfirst : first ∈ c.openings join.path.steps schema filter := List.mem_of_head? hhead
  refine ⟨first, rest, hopenings, ?_, hfetch.symm, fun hflat => ?_, ?_⟩
  · obtain ⟨p, s, name, hpath, hleads, hrelation⟩ := leads_of_mem_openings hfirst .root
    refine ⟨p, s, name, hpath, hleads, fun o ho => ?_⟩
    obtain ⟨p', s', name', hpath', hleads', hrelation'⟩ :=
      leads_of_mem_openings (hopenings ▸ ho) (.root (c := c))
    obtain ⟨rfl, rfl⟩ := Path.child_inj.1 (hpath.symm.trans hpath')
    cases hleads.unique hleads'
    exact hrelation'
  · rw [← hfetch, Opening.fetch, hflat first List.mem_cons_self, if_neg Bool.false_ne_true]
  · rw [← hfetch]
    exact Opening.fetch_eq_relation_iff

/-- People with a friend of 30 years who are not friends with the person 1: the friends are joined
in the eager mode that is declared, and in another order of the entries they are not. -/
theorem join_fetch_first_friends :
    let c : FilterContext := ⟨.people, "page", .builtIn, .utc⟩
    let filter : FilterMap :=
      [("friends", .obj [("age", .ofNat 30)]), ("NOT", .obj [("friends", .ofNat 1)])]
    ∃ schema nodes compiled r, c.catalog.resolve "person" = some schema ∧
      FilterNode.ofMap schema c.pageKey .and filter = .ok nodes ∧
      c.compile schema nodes = .ok compiled ∧
      c.openings ["friends"] schema filter = [⟨r, true⟩, ⟨r, false⟩] ∧
      compiled.joins.map Join.fetch = [r.fetch] ∧ r.fetch = .eager ∧
      ∃ filter' nodes' compiled', Json.Reordered (.obj filter) (.obj filter') ∧
        FilterNode.ofMap schema c.pageKey .and filter' = .ok nodes' ∧
        c.compile schema nodes' = .ok compiled' ∧ ¬ compiled.joins.Perm compiled'.joins := by
  intro c filter
  have hage : Json.Reordered (.obj [("age", .ofNat 30)]) (.obj [("age", .ofNat 30)]) :=
    .of_perm (by decide) (.refl _) (.cons ⟨rfl, .num _⟩ .nil)
  have hnot : Json.Reordered (.obj [("friends", .ofNat 1)]) (.obj [("friends", .ofNat 1)]) :=
    .of_perm (by decide) (.refl _) (.cons ⟨rfl, .num _⟩ .nil)
  have hself : Json.Reordered (.obj filter) (.obj filter) :=
    .of_perm (by decide) (.refl _) (.cons ⟨rfl, hage⟩ (.cons ⟨rfl, hnot⟩ .nil))
  obtain ⟨schema, nodes, compiled, r, hschema, hnodes, hcompile, hopenings, hpaths, heager⟩ :
      ∃ schema nodes compiled r, c.catalog.resolve "person" = some schema ∧
        FilterNode.ofMap schema c.pageKey .and filter = .ok nodes ∧
        c.compile schema nodes = .ok compiled ∧
        c.openings ["friends"] schema filter = [⟨r, true⟩, ⟨r, false⟩] ∧
        compiled.joins.map Join.path = [.simple "friends"] ∧ r.fetch = .eager :=
    ⟨_, _, _, _, rfl, rfl, rfl, rfl, rfl, rfl⟩
  obtain ⟨_, hfirst, horder⟩ := join_fetch_first hnodes hcompile
  refine ⟨schema, nodes, compiled, r, hschema, hnodes, hcompile, hopenings, ?_, heager, ?_⟩
  · obtain ⟨join, hjoins, hpath⟩ := List.map_eq_singleton_iff.1 hpaths
    obtain ⟨first, rest, hsteps, _, hfetch, _⟩ := hfirst join (hjoins ▸ List.mem_cons_self)
    rw [hpath] at hsteps
    cases hopenings.symm.trans hsteps
    rw [hjoins, List.map_singleton, hfetch]
    rfl
  · by_contra hsame
    have hagrees : c.AgreesOnFetch schema filter := by
      refine (horder hself).1 fun filter' nodes' compiled' hreordered hnodes' hcompile' => ?_
      by_contra hperm
      exact hsame ⟨filter', nodes', compiled', hreordered, hnodes', hcompile', hperm⟩
    have hmodes := hagrees ["friends"]
    rw [hopenings] at hmodes
    have heq : r.fetch = .lazy := hmodes ⟨r, true⟩ List.mem_cons_self ⟨r, false⟩
      (List.mem_cons_of_mem _ List.mem_cons_self)
    rw [heager] at heq
    cases heq

/-- A condition on the number of a friend that stands before a filter on the friends makes the join
lazy, though the relation declares an eager one. -/
theorem join_fetch_not_declared_friends :
    let c : FilterContext := ⟨.people, "page", .builtIn, .utc⟩
    let filter : FilterMap :=
      [("friends", .ofNat 1), ("not", .obj [("friends", .obj [("age", .ofNat 30)])])]
    ∃ schema nodes compiled r, c.catalog.resolve "person" = some schema ∧
      FilterNode.ofMap schema c.pageKey .and filter = .ok nodes ∧
      c.compile schema nodes = .ok compiled ∧
      schema.get? "friends" = some (.relation r) ∧ r.fetch = .eager ∧
      States c.pageKey filter "friends" (.obj [("age", .ofNat 30)]) ∧
      compiled.joins.map Join.path = [.simple "friends"] ∧
      compiled.joins.map Join.fetch = [.lazy] := by
  intro c filter
  have hstates : States c.pageKey filter "friends" (.obj [("age", .ofNat 30)]) :=
    .negated (List.mem_cons_of_mem _ List.mem_cons_self) (by decide) rfl List.mem_cons_self
  exact ⟨_, _, _, _, rfl, rfl, rfl, rfl, rfl, hstates, rfl, rfl⟩

end FilterContext

end RowFilter
