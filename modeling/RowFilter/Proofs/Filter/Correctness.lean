import Mathlib.Data.List.Perm.Basic
import RowFilter.Proofs.Filter.Scope
import RowFilter.Proofs.Filter.Value

/-!
# Compiled filters mean what their maps say

Under a choice of related rows the predicate of a compiled filter is as true as the entries of its
map, and the joins are those of the relations that the map opens. So a row passes exactly when the
map holds of it.
-/

namespace RowFilter

/-! ## Combinators -/

theorem Combinator.truth_perm {combinator : Combinator} {ts us : List Truth} (h : ts.Perm us) :
    combinator.truth ts = combinator.truth us := by
  cases ts with
  | nil => rw [h.nil_eq]
  | cons t ts =>
    cases us with
    | nil => cases h.symm.nil_eq
    | cons u us =>
      cases combinator with
      | and => exact Truth.all_perm h
      | or => exact Truth.any_perm h

namespace Predicate

variable {R : Type} [Filterable R] {b : Binding R} {p : Predicate} {t : Truth}

theorem Means.negation (negation : Negation) (h : p.Means b t) :
    (negation.apply p).Means b (negation.truth t) := by
  cases negation with
  | none => exact h
  | not =>
    intro v hv
    obtain ⟨l, hl, rfl⟩ := evaluate_not_ok hv
    rw [h l hl]
    rfl

/-- A combined predicate is as true as its parts, all joined by one combinator. -/
theorem means_combinedPredicate {combinator : Combinator} {ps : List Predicate} {ts : List Truth}
    (h : List.Forall₂ (fun q u => q.Means b u) ps ts) :
    (Compiled.combinedPredicate (ps.map (combinator, ·))).Means b (combinator.truth ts) := by
  cases h with
  | nil => exact means_true
  | @cons p t ps ts hp h =>
    rw [List.map_cons, Compiled.combinedPredicate, List.foldl_map]
    cases combinator with
    | and =>
      have hfold := hp.foldl_and h
      rwa [← Truth.true_and t] at hfold
    | or =>
      have hfold := hp.foldl_or h
      rwa [← Truth.false_or t] at hfold

end Predicate

namespace FilterContext

variable {c : FilterContext} {schema : FieldSchema} {root p path : Path} {filter : FilterMap}
  {combinator : Combinator} {choice : Path → Row} {name : String}

/-! ## Entries -/

/-- The truth of an entry that names a field of the schema. -/
def entryTruth (c : FilterContext) (combinator : Combinator) (choice : Path → Row)
    (schema : FieldSchema) (path : Path) (e : FilterEntry) : Truth :=
  (schema.get? e.field).elim none fun kind =>
    e.negation.truth (c.fieldTruth combinator choice kind path e.field e.value)

/-- The truths of the entries that name a field of the schema. -/
def declaredTruths (c : FilterContext) (combinator : Combinator) (choice : Path → Row)
    (schema : FieldSchema) (path : Path) (entries : List FilterEntry) : List Truth :=
  (entries.filter (FilterEntry.isDeclaredIn schema)).map
    (c.entryTruth combinator choice schema path)

theorem declaredTruths_cons (e : FilterEntry) (rest : List FilterEntry) :
    c.declaredTruths combinator choice schema path (e :: rest) =
      (schema.get? e.field).toList.map (fun kind =>
        e.negation.truth (c.fieldTruth combinator choice kind path e.field e.value)) ++
        c.declaredTruths combinator choice schema path rest := by
  unfold declaredTruths
  cases hkind : schema.get? e.field with
  | none => simp [FilterEntry.isDeclaredIn, hkind]
  | some kind => simp [FilterEntry.isDeclaredIn, entryTruth, hkind]

theorem declaredTruths_append (es es' : List FilterEntry) :
    c.declaredTruths combinator choice schema path (es ++ es') =
      c.declaredTruths combinator choice schema path es ++
        c.declaredTruths combinator choice schema path es' := by
  unfold declaredTruths
  rw [List.filter_append, List.map_append]

theorem plainTruths_negated (entries : FilterMap) :
    (c.plainTruths combinator choice schema path entries).map Truth.not =
      c.declaredTruths combinator choice schema path
        (entries.map fun entry => ⟨.not, entry.1, entry.2⟩) := by
  induction entries with
  | nil =>
    rw [plainTruths]
    rfl
  | cons entry rest ih =>
    rw [plainTruths, List.map_append, ih, List.map_cons, declaredTruths_cons, List.map_map]
    rfl

/-- The truths of a filter map are those of its entries that name a field of the schema. -/
theorem entryTruths_eq (filter : FilterMap) :
    c.entryTruths combinator choice schema path filter =
      c.declaredTruths combinator choice schema path (FilterEntry.ofMap c.pageKey filter) := by
  induction filter with
  | nil =>
    rw [entryTruths]
    rfl
  | cons entry rest ih =>
    obtain ⟨key, value⟩ := entry
    rw [entryTruths, ih, FilterEntry.ofMap, FilterEntry.ofMap, List.flatMap_cons,
      declaredTruths_append]
    congr 1
    unfold FilterEntry.ofEntry
    dsimp only
    split
    · rfl
    · split
      · cases value with
        | obj entries =>
          rw [negatedTruths]
          exact plainTruths_negated entries
        | null | bool | num | str | arr =>
          rw [negatedTruths]
          · rfl
          · exact nofun
      · rw [declaredTruths_cons]
        exact (List.append_nil _).symm

theorem states_iff {pageKey key : String} {value : Json} :
    States pageKey filter key value ↔
      ∃ e ∈ FilterEntry.ofMap pageKey filter, e.key = key ∧ e.value = value := by
  constructor
  · rintro (⟨h, hpage, hnot⟩ | ⟨h, hpage, hnot, hentry⟩)
    · refine ⟨⟨.none, key, value⟩, List.mem_flatMap.2 ⟨_, h, ?_⟩, rfl, rfl⟩
      rw [FilterEntry.ofEntry, if_neg hpage, hnot, if_neg Bool.false_ne_true]
      exact List.mem_singleton_self _
    · refine ⟨⟨.not, key, value⟩, List.mem_flatMap.2 ⟨_, h, ?_⟩, rfl, rfl⟩
      rw [FilterEntry.ofEntry, if_neg hpage, if_pos hnot]
      exact List.mem_map.2 ⟨_, hentry, rfl⟩
  · rintro ⟨e, he, rfl, rfl⟩
    obtain ⟨⟨key, value⟩, h, he⟩ := List.mem_flatMap.1 he
    unfold FilterEntry.ofEntry at he
    dsimp only at he
    split at he
    · cases he
    · next hpage =>
      split at he
      · next hnot =>
        split at he
        · obtain ⟨entry, hentry, rfl⟩ := List.mem_map.1 he
          exact .negated h hpage hnot hentry
        · cases he
      · next hnot =>
        rw [List.mem_singleton.1 he]
        exact .plain h hpage (Bool.eq_false_iff.2 hnot)

/-- Whether an entry on the row at a path opens a relation of the row at the same path or at one
below it. -/
def EntryOpens (c : FilterContext) (schema : FieldSchema) (root : Path) (e : FilterEntry) (p : Path)
    (name : String) : Prop :=
  ∃ r, schema.get? e.field = some (.relation r) ∧
    ((∃ fields, Condition.nested? e.value = some fields ∧
      (p = root ∧ name = e.field ∨ c.Opens (c.target r) (root.child e.field) fields p name)) ∨
    (Condition.nested? e.value = none ∧ r.cardinality = .many ∧ e.value.isNull = false ∧
      p = root ∧ name = e.field))

theorem opens_iff :
    c.Opens schema root filter p name ↔
      ∃ e ∈ FilterEntry.ofMap c.pageKey filter, c.EntryOpens schema root e p name := by
  constructor
  · intro h
    cases h with
    | nested h hr hrange =>
      obtain ⟨e, he, rfl, hvalue⟩ := states_iff.1 h
      exact ⟨e, he, _, hr, .inl ⟨_, Condition.nested?_eq_some.2 ⟨hvalue, hrange⟩, .inl ⟨rfl, rfl⟩⟩⟩
    | deeper h hr hrange hdeeper =>
      obtain ⟨e, he, rfl, hvalue⟩ := states_iff.1 h
      exact ⟨e, he, _, hr, .inl ⟨_, Condition.nested?_eq_some.2 ⟨hvalue, hrange⟩, .inr hdeeper⟩⟩
    | member h hr hmany hpresent hsingle =>
      obtain ⟨e, he, rfl, rfl⟩ := states_iff.1 h
      exact ⟨e, he, _, hr,
        .inr ⟨Condition.nested?_eq_none.2 hsingle, hmany, hpresent, rfl, rfl⟩⟩
  · rintro ⟨e, he, r, hr, ⟨fields, hnested, h⟩ | ⟨hnested, hmany, hpresent, rfl, rfl⟩⟩
    · obtain ⟨hvalue, hrange⟩ := Condition.nested?_eq_some.1 hnested
      have hstates := states_iff.2 ⟨e, he, rfl, hvalue⟩
      rcases h with ⟨rfl, rfl⟩ | h
      · exact .nested hstates hr hrange
      · exact .deeper hstates hr hrange h
    · exact .member (states_iff.2 ⟨e, he, rfl, rfl⟩) hr hmany hpresent
        (Condition.nested?_eq_none.1 hnested)

/-! ## Levels -/

/-- Whether what was compiled from a filter map on the records at a path means what the map says: it
joins what the map opens, and under every choice of joined rows it is as true as the map. -/
structure Faithful (c : FilterContext) (schema : FieldSchema) (root : Path)
    (combinator : Combinator) (filter : FilterMap) (compiled : Compiled) : Prop where
  joins : ∀ q, q ∈ compiled.joins.map Join.path ↔
    ∃ p name, q = p.child name ∧ c.Opens schema root filter p name
  means : ∀ (choice : Path → Row) (b : Binding Row), b.Agrees choice →
    compiled.predicate.Means b
      (combinator.truth (c.entryTruths combinator choice schema root filter))

variable {b : Binding Row} {e : FilterEntry} {n : FilterNode} {part : Compiled} {kind : FieldKind}
  {condition : Condition}

/-- A path has the value that the chosen row has. -/
theorem valueOrNull_of_evaluate (hagrees : b.Agrees choice) {l : Literal}
    (h : (Expr.path (path.child name)).evaluate b = .ok l) :
    l = (choice path).valueOrNull name := by
  rw [Expr.evaluate_path, Path.parent_child, Path.property_child] at h
  split at h
  · cases h
  · next owner howner =>
    cases h
    rw [← hagrees _ _ howner]
    rfl

theorem fieldTruth_of_nested? {r : Relation} {field : String} {value : Json}
    (hnested : Condition.nested? value = none) (hpresent : value.isNull = false) :
    c.fieldTruth combinator choice (.relation r) path field value =
      c.identityTruth choice r path field value := by
  cases value with
  | null => cases hpresent
  | obj fields =>
    rw [fieldTruth, if_pos (Condition.nested?_eq_none.1 hnested fields rfl)]
  | bool | num | str | arr => rfl

theorem entryOpens_iff {r : Relation} (hr : schema.get? e.field = some (.relation r)) :
    c.EntryOpens schema root e p name ↔
      (∃ fields, Condition.nested? e.value = some fields ∧
        (p = root ∧ name = e.field ∨ c.Opens (c.target r) (root.child e.field) fields p name)) ∨
      (Condition.nested? e.value = none ∧ r.cardinality = .many ∧ e.value.isNull = false ∧
        p = root ∧ name = e.field) := by
  constructor
  · rintro ⟨r', hr', h⟩
    rw [hr] at hr'
    cases hr'
    exact h
  · exact fun h => ⟨r, hr, h⟩

/-- Each way to compile a node joins what the entry opens. -/
theorem NodeOutcome.mem_joins_iff (hkind : schema.get? e.field = some kind)
    (hcondition : Condition.ofValue (.ofFieldKind kind) e.field e.value = .ok condition)
    (h : NodeOutcome c c.Faithful schema root
      ⟨e.field, .ofFieldKind kind, condition, combinator, e.negation⟩ part) (q : Path) :
    q ∈ part.joins.map Join.path ↔
      ∃ p name, q = p.child name ∧ c.EntryOpens schema root e p name := by
  have hnull := Condition.isNullTest_of_ofValue hcondition
  cases h with
  | column hscalar =>
    refine iff_of_false List.not_mem_nil ?_
    rintro ⟨p, name, -, r, hr, -⟩
    rw [hscalar] at hr
    cases hr
  | absent hrelation hequals =>
    change condition = _ at hequals
    rw [hequals] at hnull
    refine iff_of_false List.not_mem_nil ?_
    rintro ⟨p, name, -, hopens⟩
    rw [entryOpens_iff hrelation, Json.eq_null_of_isNull hnull.symm] at hopens
    rcases hopens with ⟨_, hsome, _⟩ | ⟨_, _, hpresent, _⟩
    · cases hsome
    · cases hpresent
  | key hrelation hone _ _ _ hp =>
    cases hkind.symm.trans hrelation
    refine iff_of_false List.not_mem_nil ?_
    rintro ⟨p, name, -, hopens⟩
    rw [entryOpens_iff hkind, (compileValue_ok hp).nested?_eq_none hcondition, hone] at hopens
    rcases hopens with ⟨_, hsome, _⟩ | ⟨_, hmany, _⟩
    · cases hsome
    · cases hmany
  | member hrelation hmany _ hpresent _ hp =>
    cases hkind.symm.trans hrelation
    have hnested := (compileValue_ok hp).nested?_eq_none hcondition
    rw [List.map_singleton, List.mem_singleton]
    constructor
    · rintro rfl
      exact ⟨root, e.field, rfl, (entryOpens_iff hkind).2
        (.inr ⟨hnested, hmany, hnull ▸ hpresent, rfl, rfl⟩)⟩
    · rintro ⟨p, name, rfl, hopens⟩
      rw [entryOpens_iff hkind, hnested] at hopens
      rcases hopens with ⟨_, hsome, _⟩ | ⟨_, _, _, rfl, rfl⟩
      · cases hsome
      · rfl
  | @joined r filter inner hrelation hjoined hinner =>
    cases hkind.symm.trans hrelation
    have hnested := (Condition.ofValue_relation rfl hcondition filter).1 hjoined
    rw [List.map_cons, List.mem_cons, hinner.joins]
    constructor
    · rintro (rfl | ⟨p, name, rfl, hopens⟩)
      · exact ⟨root, e.field, rfl,
          (entryOpens_iff hkind).2 (.inl ⟨filter, hnested, .inl ⟨rfl, rfl⟩⟩)⟩
      · exact ⟨p, name, rfl, (entryOpens_iff hkind).2 (.inl ⟨filter, hnested, .inr hopens⟩)⟩
    · rintro ⟨p, name, rfl, hopens⟩
      rw [entryOpens_iff hkind, hnested] at hopens
      rcases hopens with ⟨_, hfields, hopens⟩ | ⟨hnone, _⟩
      · cases hfields
        rcases hopens with ⟨rfl, rfl⟩ | hopens
        · exact .inl rfl
        · exact .inr ⟨p, name, rfl, hopens⟩
      · cases hnone

/-- Each way to compile a node is as true as the entry, under every choice of joined rows. -/
theorem NodeOutcome.means (hkind : schema.get? e.field = some kind)
    (hcondition : Condition.ofValue (.ofFieldKind kind) e.field e.value = .ok condition)
    (h : NodeOutcome c c.Faithful schema root
      ⟨e.field, .ofFieldKind kind, condition, combinator, e.negation⟩ part)
    (hagrees : b.Agrees choice) :
    part.predicate.Means b (c.fieldTruth combinator choice kind root e.field e.value) := by
  have hnull := Condition.isNullTest_of_ofValue hcondition
  cases h with
  | column hscalar hsuits hp =>
    cases hkind.symm.trans hscalar
    rw [fieldTruth]
    exact (compileValue_ok hp).means (fun _ => valueOrNull_of_evaluate hagrees) rfl hcondition
      hsuits
  | absent hrelation hequals =>
    cases hkind.symm.trans hrelation
    change condition = _ at hequals
    rw [hequals] at hnull
    rw [Json.eq_null_of_isNull hnull.symm, fieldTruth]
    intro t ht
    obtain ⟨l, hl, ht⟩ := bind_eq_ok.1 ht
    cases ht
    rw [valueOrNull_of_evaluate hagrees hl]
  | key hrelation hone hidentity hpresent hsuits hp =>
    cases hkind.symm.trans hrelation
    have hvalue := compileValue_ok hp
    rw [fieldTruth_of_nested? (hvalue.nested?_eq_none hcondition) (hnull ▸ hpresent),
      identityTruth, hidentity, hone]
    refine hvalue.means (fun _ => valueOrNull_of_evaluate hagrees) ?_ hcondition hsuits
    rw [DeclaredType.ofFieldKind, hidentity]
    rfl
  | member hrelation hmany hidentity hpresent hsuits hp =>
    cases hkind.symm.trans hrelation
    have hvalue := compileValue_ok hp
    rw [fieldTruth_of_nested? (hvalue.nested?_eq_none hcondition) (hnull ▸ hpresent),
      identityTruth, hidentity, hmany]
    refine hvalue.means (fun _ => valueOrNull_of_evaluate hagrees) ?_ hcondition hsuits
    rw [DeclaredType.ofFieldKind, hidentity]
    rfl
  | @joined r filter inner hrelation hjoined hinner =>
    cases hkind.symm.trans hrelation
    have hnested := (Condition.ofValue_relation rfl hcondition filter).1 hjoined
    obtain ⟨hvalue, hrange⟩ := Condition.nested?_eq_some.1 hnested
    rw [hvalue, fieldTruth, hrange, if_neg Bool.false_ne_true]
    exact hinner.means choice b hagrees

theorem NodeOutcome.faithful (h : NodeOutcome c c.Faithful schema root n part)
    (hread : Reading.ofEntry schema combinator e = .ok (.node n)) :
    (∀ q, q ∈ part.joins.map Join.path ↔
      ∃ p name, q = p.child name ∧ c.EntryOpens schema root e p name) ∧
    ∀ (choice : Path → Row) (b : Binding Row), b.Agrees choice →
      (n.negation.apply part.predicate).Means b (c.entryTruth combinator choice schema root e) := by
  obtain ⟨kind, condition, hkind, hcondition, rfl⟩ := Reading.ofEntry_node hread
  refine ⟨h.mem_joins_iff hkind hcondition, fun choice b hagrees => ?_⟩
  unfold entryTruth
  rw [hkind]
  exact (h.means hkind hcondition hagrees).negation e.negation

theorem EntryOpens.isDeclaredIn (h : c.EntryOpens schema root e p name) :
    e.isDeclaredIn schema = true := by
  obtain ⟨r, hr, _⟩ := h
  rw [FilterEntry.isDeclaredIn, hr]
  rfl

theorem combinator_of_mem {reading : FilterReading}
    (h : FilterReading.ofMap schema c.pageKey combinator filter = .ok reading)
    (hn : n ∈ reading.nodes) : n.combinator = combinator := by
  obtain ⟨e, _, hread⟩ := FilterReading.entry_of_mem h hn
  obtain ⟨_, _, _, _, rfl⟩ := Reading.ofEntry_node hread
  rfl

/-- Every level means what its map says if the filters nested in it do. -/
theorem isPreserved_faithful : c.IsPreserved c.Faithful := by
  intro schema root combinator filter reading parts hreading hperm hparts
  -- nested nodes were sorted, so the parts match the entries up to a permutation
  obtain ⟨entries, hentries, hdeclared⟩ :=
    List.perm_comp_forall₂ hperm (FilterReading.nodes_ofMap hreading).flip
  rw [List.forall₂_map_left_iff] at hentries
  have hall := ((List.forall₂_and_left _ _).2 ⟨hparts, hentries⟩).imp
    fun part e h => h.1.faithful h.2
  constructor
  · intro q
    have hparts : q ∈ (Compiled.combine (parts.map ofPart)).joins.map Join.path ↔
        ∃ part ∈ parts, q ∈ part.2.joins.map Join.path := by
      rw [Compiled.combine, List.flatMap_map, List.map_flatMap, List.mem_flatMap]
      rfl
    rw [hparts, exists_mem_iff_of_forall₂ (hall.imp fun part e h => h.1 q)]
    constructor
    · rintro ⟨e, he, p, name, rfl, hopens⟩
      have hmem := List.mem_of_mem_filter (hdeclared.mem_iff.1 he)
      exact ⟨p, name, rfl, opens_iff.2 ⟨e, hmem, hopens⟩⟩
    · rintro ⟨p, name, rfl, hopens⟩
      obtain ⟨e, he, hopens⟩ := opens_iff.1 hopens
      have hmem := hdeclared.mem_iff.2 (List.mem_filter.2 ⟨he, hopens.isDeclaredIn⟩)
      exact ⟨e, hmem, p, name, rfl, hopens⟩
  · intro choice b hagrees
    rw [entryTruths_eq, declaredTruths, ← Combinator.truth_perm (hdeclared.map _)]
    have hcombinator : (parts.map ofPart).map (fun piece => (piece.1, piece.2.predicate)) =
        (parts.map fun part => part.1.negation.apply part.2.predicate).map (combinator, ·) := by
      rw [List.map_map, List.map_map]
      refine List.map_congr_left fun part hpart => ?_
      have hmem := hperm.mem_iff.1 (List.mem_map_of_mem hpart)
      exact Prod.ext (combinator_of_mem hreading hmem) rfl
    unfold Compiled.combine
    rw [hcombinator]
    refine Predicate.means_combinedPredicate ?_
    rw [List.forall₂_map_left_iff, List.forall₂_map_right_iff]
    exact hall.imp fun part e h => h.2 choice b hagrees

/-! ## Rows -/

theorem linksTo_iff {row related : Row} :
    row.LinksTo name related ↔ ∃ rows, row.related? name = some rows ∧ related ∈ rows := by
  unfold Row.LinksTo Row.related?
  constructor
  · rintro ⟨links, key, record, hlinks, hkey, hrecord, rfl⟩
    rw [hlinks]
    refine ⟨_, rfl, List.mem_filterMap.2 ⟨key, hkey, ?_⟩⟩
    rw [hrecord]
    rfl
  · rintro ⟨rows, hrows, hrelated⟩
    split at hrows
    · next links hlinks =>
      cases hrows
      obtain ⟨key, hkey, hfound⟩ := List.mem_filterMap.1 hrelated
      obtain ⟨record, hrecord, rfl⟩ := Option.map_eq_some_iff.1 hfound
      exact ⟨links, key, record, hlinks, hkey, hrecord, rfl⟩
    · split at hrows <;> cases hrows
      cases hrelated

theorem followedBy_iff {join : Join} (hpath : join.path = p.child name) :
    join.FollowedBy choice ↔ (choice p).LinksTo name (choice (p.child name)) := by
  rw [linksTo_iff, Join.FollowedBy, hpath, Path.parent_child, Path.property_child]
  rfl

variable {nodes : List FilterNode} {compiled : Compiled}

theorem faithful_of_compile
    (hnodes : FilterNode.ofMap schema c.pageKey combinator filter = .ok nodes)
    (hcompile : c.compile schema nodes = .ok compiled) :
    c.Faithful schema .root combinator filter compiled := by
  obtain ⟨inner, hinner, rfl⟩ := compile_induct isPreserved_faithful hnodes hcompile
  exact ⟨fun q => Compiled.mem_paths_distinctJoins.trans (hinner.joins q), hinner.means⟩

/-- A choice follows all joins exactly if it links the rows of all relations that the map opens. -/
theorem Faithful.followedBy_iff (h : c.Faithful schema root combinator filter compiled) :
    (∀ join ∈ compiled.joins, join.FollowedBy choice) ↔
      ∀ p name, c.Opens schema root filter p name →
        (choice p).LinksTo name (choice (p.child name)) := by
  constructor
  · intro hjoins p name hopens
    obtain ⟨join, hjoin, hpath⟩ := List.mem_map.1 ((h.joins _).2 ⟨p, name, rfl, hopens⟩)
    exact (FilterContext.followedBy_iff hpath).1 (hjoins join hjoin)
  · intro hlinks join hjoin
    obtain ⟨p, name, hpath, hopens⟩ := (h.joins _).1 (List.mem_map_of_mem hjoin)
    exact (FilterContext.followedBy_iff hpath).2 (hlinks p name hopens)

/-- **Compiled filters are correct**: if a filter map compiles, and on a row its joins can be
expanded and its predicate evaluated under every choice of joined rows, the row passes exactly if
the map holds of it. -/
theorem passes_iff_holds {row : Row} {bindings : List (Binding Row)}
    (hnodes : FilterNode.ofMap schema c.pageKey combinator filter = .ok nodes)
    (hcompile : c.compile schema nodes = .ok compiled)
    (hbindings : Binding.expand row compiled.joins = .ok bindings)
    (hevaluate : ∀ b ∈ bindings, ∃ t, compiled.predicate.evaluate b = .ok t) :
    ∃ result, compiled.predicate.passes row compiled.joins = .ok result ∧
      (result = true ↔ c.Holds combinator schema filter row) := by
  have hfaithful := faithful_of_compile hnodes hcompile
  obtain ⟨result, hresult, hiff⟩ := Predicate.exists_isTrueUnderSome hevaluate
  refine ⟨result, by rw [Predicate.passes, hbindings]; exact hresult, hiff.trans ?_⟩
  constructor
  · rintro ⟨b, hb, htrue⟩
    -- a path that is joined twice, or the root, would hide the second record chosen for it
    have hnodup : (.root :: compiled.joins.map Join.path).Nodup := by
      refine List.nodup_cons.2 ⟨fun hroot => ?_, (scoped_of_compile hnodes hcompile).2⟩
      obtain ⟨p, name, hpath, _⟩ := (hfaithful.joins _).1 hroot
      exact Path.child_ne_root p name hpath.symm
    obtain ⟨choice, hagrees, hroot, hjoins⟩ :=
      Binding.exists_choice_of_mem_expand hbindings hb hnodup
    exact ⟨choice, hroot, hfaithful.followedBy_iff.1 hjoins,
      (hfaithful.means choice b hagrees _ htrue).symm⟩
  · rintro ⟨choice, hroot, hlinks, htrue⟩
    obtain ⟨b, hb, hagrees⟩ :=
      Binding.exists_agrees_of_expand hbindings hroot (hfaithful.followedBy_iff.2 hlinks)
    obtain ⟨t, ht⟩ := hevaluate b hb
    refine ⟨b, hb, ?_⟩
    rw [ht, hfaithful.means choice b hagrees t ht, htrue]

/-- People with a friend who is not at least 30: the map holds of the first person, who has a friend
of 20, and not of the second, whose only friend is 40. -/
theorem passes_iff_holds_friends :
    let c : FilterContext := ⟨.people, "page", .builtIn, .utc⟩
    let filter : FilterMap :=
      [("NOT", .obj [("friends", .obj [("age", .obj [("from", .ofNat 30)])])])]
    let first : Record :=
      ⟨.i64 1, [("id", .i64 1), ("age", .i64 40)], [("friends", .many "person" [.i64 1, .i64 2])]⟩
    let second : Record :=
      ⟨.i64 2, [("id", .i64 2), ("age", .i64 20)], [("friends", .many "person" [.i64 1])]⟩
    let store : MemoryStore := ⟨[("person", [first, second])]⟩
    ∃ schema nodes compiled, c.catalog.resolve "person" = some schema ∧
      FilterNode.ofMap schema c.pageKey .and filter = .ok nodes ∧
      c.compile schema nodes = .ok compiled ∧
      (compiled.predicate.passes (Row.mk store first) compiled.joins = .ok true ∧
        c.Holds .and schema filter ⟨store, first⟩) ∧
      (compiled.predicate.passes (Row.mk store second) compiled.joins = .ok false ∧
        ¬ c.Holds .and schema filter ⟨store, second⟩) := by
  intro c filter first second store
  obtain ⟨schema, nodes, compiled, hschema, hnodes, hcompile, hfirst, hsecond⟩ :
      ∃ schema nodes compiled, c.catalog.resolve "person" = some schema ∧
        FilterNode.ofMap schema c.pageKey .and filter = .ok nodes ∧
        c.compile schema nodes = .ok compiled ∧
        (compiled.predicate.passes (Row.mk store first) compiled.joins = .ok true ∧
          ∃ bindings, Binding.expand (Row.mk store first) compiled.joins = .ok bindings ∧
            ∀ b ∈ bindings, ∃ t, compiled.predicate.evaluate b = .ok t) ∧
        (compiled.predicate.passes (Row.mk store second) compiled.joins = .ok false ∧
          ∃ bindings, Binding.expand (Row.mk store second) compiled.joins = .ok bindings ∧
            ∀ b ∈ bindings, ∃ t, compiled.predicate.evaluate b = .ok t) :=
    ⟨_, _, _, rfl, rfl, rfl,
      ⟨rfl, _, rfl, List.forall_mem_cons.2 ⟨⟨_, rfl⟩, List.forall_mem_singleton.2 ⟨_, rfl⟩⟩⟩,
      ⟨rfl, _, rfl, List.forall_mem_singleton.2 ⟨_, rfl⟩⟩⟩
  obtain ⟨hpasses, bindings, hbindings, hevaluate⟩ := hfirst
  obtain ⟨hpasses', bindings', hbindings', hevaluate'⟩ := hsecond
  refine ⟨schema, nodes, compiled, hschema, hnodes, hcompile, ⟨hpasses, ?_⟩, ⟨hpasses', ?_⟩⟩
  · obtain ⟨result, hresult, hiff⟩ := passes_iff_holds hnodes hcompile hbindings hevaluate
    cases hpasses.symm.trans hresult
    exact hiff.1 rfl
  · obtain ⟨result, hresult, hiff⟩ := passes_iff_holds hnodes hcompile hbindings' hevaluate'
    cases hpasses'.symm.trans hresult
    exact fun h => nomatch hiff.2 h

end FilterContext

end RowFilter
