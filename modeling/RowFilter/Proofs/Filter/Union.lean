import RowFilter.Proofs.Cast.Lists
import RowFilter.Proofs.Filter.Column
import RowFilter.Proofs.Filter.Value
import RowFilter.Proofs.Json.Reordering
import RowFilter.Proofs.Query.Membership
import RowFilter.Query.Document

/-!
# A list is the union of its members

A list of values on a column, or a bag of them under keys, selects what its members select one by
one, since the built-in casters take the members of a list for what they are alone.
-/

namespace RowFilter

/-- The values that a list offers, nested lists included, and on a field that is no relation also an
object that is no range. -/
def FieldKind.offered? (kind : FieldKind) : Json → Option (List Json)
  | .arr items => some (Json.leavesOfItems items)
  | .obj fields =>
    match kind with
    | .scalar _ =>
      if Condition.isRange fields then none else some (Json.leavesOfItems (Keyed.values fields))
    | .relation _ => none
  | _ => none

/-- Whether a value is compared for equality: a scalar that is there and no pattern. -/
structure Json.IsPlainScalar (value : Json) : Prop where
  scalar : value.isScalar = true
  present : value.isNull = false
  literal : ∀ s, value = .str s → Condition.isPattern s = false

namespace FilterContext

variable {c : FilterContext} {schema : FieldSchema} {combinator : Combinator} {key : String}
  {kind : FieldKind} {type : ScalarType} {value : Json} {values leaves : List Json}
  {ls : List Literal} {compiled : Compiled}

/-! ## Casts -/

theorem literal_eq_ok {l : Literal} : c.literal type value = .ok l ↔
    ∃ found, c.casters.castValue c.zone type value = .ok found ∧
      l = if type.isText then found.upper else found := by
  rw [literal, bind_eq_ok]
  simp only [mapError_eq_ok]
  refine exists_congr fun found => and_congr_right' ⟨?_, ?_⟩
  · intro h
    exact (Except.ok.inj h).symm
  · rintro rfl
    rfl

theorem forall₂_of_candidates
    (hleaf : ∀ value, c.casters.castLeaf c.zone type value = c.casters.castValue c.zone type value)
    (h : c.candidates type values = .ok ls) :
    List.Forall₂ (fun leaf l => c.literal type leaf = .ok l) (Json.leavesOfItems values) ls := by
  obtain ⟨found, hfound, h⟩ := bind_eq_ok.1 h
  have hls : ls = found.map fun l => if type.isText then l.upper else l := by
    cases h
    split
    · rfl
    · exact (List.map_id' found).symm
  rw [hls, List.forall₂_map_right_iff]
  refine (Casters.forall₂_of_castList (mapError_eq_ok.1 hfound)).imp ?_
  intro leaf l hl
  rw [hleaf] at hl
  exact literal_eq_ok.2 ⟨l, hl, rfl⟩

/-- Where a member of a list is cast as it is alone, the members are taken as single values. -/
theorem candidates_eq_ok
    (hleaf : ∀ value, c.casters.castLeaf c.zone type value = c.casters.castValue c.zone type value) :
    c.candidates type values = .ok ls ↔
      List.Forall₂ (fun leaf l => c.literal type leaf = .ok l) (Json.leavesOfItems values) ls := by
  refine ⟨forall₂_of_candidates hleaf, fun h => ?_⟩
  obtain ⟨found, hfound⟩ : ∃ found, c.casters.castList c.zone type values = .ok found := by
    refine Casters.exists_castList fun leaf hmem => ?_
    obtain ⟨l, _, hl⟩ := exists_of_forall₂ h hmem
    obtain ⟨found, hfound, _⟩ := literal_eq_ok.1 hl
    rw [hleaf]
    exact ⟨found, hfound⟩
  obtain ⟨ls', hls'⟩ : ∃ ls', c.candidates type values = .ok ls' :=
    ⟨_, bind_eq_ok.2 ⟨found, mapError_eq_ok.2 hfound, rfl⟩⟩
  -- a leaf is cast to one literal at most, so these are the literals that were given
  have hunique : Relator.RightUnique fun leaf l => c.literal type leaf = .ok l :=
    fun _ _ _ hl hl' => Except.ok.inj (hl.symm.trans hl')
  rw [hls', hunique.forall₂ (forall₂_of_candidates hleaf hls') h]

/-! ## Conditions -/

theorem isText_of_column (htype : kind.columnType? = some type) :
    (DeclaredType.ofFieldKind kind).isText = type.isText := by
  rw [DeclaredType.isText, FieldKind.valueType?_of_column htype]
  rfl

theorem ofValue_offered (field : String) (htype : kind.columnType? = some type)
    (h : kind.offered? value = some leaves) :
    ∃ values, Condition.ofValue (.ofFieldKind kind) field value = .ok (.isIn values) ∧
      Json.leavesOfItems values = leaves.map (taken type) := by
  have htext := isText_of_column htype
  have hupper : ∀ values, Condition.ofWritten (.ofFieldKind kind) field value = .ok (.isIn values) →
      Json.leavesOfItems values = leaves →
      ∃ values, Condition.ofValue (.ofFieldKind kind) field value = .ok (.isIn values) ∧
        Json.leavesOfItems values = leaves.map (taken type) := by
    rintro values hwritten rfl
    unfold taken
    by_cases hisText : type.isText = true
    · refine ⟨Json.upperItems values, bind_eq_ok.2 ⟨_, hwritten, ?_⟩, ?_⟩
      · rw [htext, if_pos hisText]
        rfl
      · simp only [Json.leavesOfItems_upperItems, hisText, if_pos]
    · refine ⟨values, bind_eq_ok.2 ⟨_, hwritten, ?_⟩, ?_⟩
      · rw [htext, if_neg hisText]
      · simp [hisText]
  cases value with
  | arr items =>
    cases h
    exact hupper items rfl rfl
  | obj fields =>
    cases kind with
    | scalar declared =>
      rw [FieldKind.offered?] at h
      obtain ⟨hrange, h⟩ := Option.ite_none_left_eq_some.1 h
      cases h
      exact hupper _ (if_neg hrange) rfl
    | relation r => cases h
  | null | bool | num | str => cases h

theorem ofValue_plainScalar (field : String) (htype : kind.columnType? = some type)
    (h : value.IsPlainScalar) :
    Condition.ofValue (.ofFieldKind kind) field value = .ok (.equals (taken type value)) := by
  have hwritten : Condition.ofWritten (.ofFieldKind kind) field value = .ok (.equals value) := by
    cases value with
    | null => cases h.present
    | arr | obj => cases h.scalar
    | bool | num => rfl
    | str s => simp [Condition.ofWritten, h.literal s rfl]
  refine bind_eq_ok.2 ⟨_, hwritten, ?_⟩
  rw [isText_of_column htype, taken]
  split <;> rfl

theorem isNull_taken (h : value.isNull = false) : (taken type value).isNull = false := by
  unfold taken
  split
  · cases value <;> first | rfl | cases h
  · exact h

/-! ## Filters -/

theorem hasColumn_offered (hkey : c.NamesField schema key kind)
    (htype : kind.columnType? = some type) (h : kind.offered? value = some leaves) :
    schema.HasColumn key value kind type := by
  refine ⟨hkey.declared, htype, ?_⟩
  intro hrelation
  cases kind with
  | scalar => cases hrelation
  | relation r => cases value <;> first | rfl | cases h

/-- A list on a column compiles to a membership test, if each of its members can be cast. -/
theorem compileMap_offered (hcasters : c.casters = .builtIn) (hkey : c.NamesField schema key kind)
    (htype : kind.columnType? = some type) (hbool : type.isBool = false)
    (h : kind.offered? value = some leaves) :
    c.compileMap schema combinator [(key, value)] = .ok compiled ↔
      ∃ ls, List.Forall₂ (fun leaf l => c.literal type (taken type leaf) = .ok l) leaves ls ∧
        compiled = ⟨.compare (column type (Path.root.child (Naming.camelCase key))) .isIn
          (.list (ls.map .literal)), []⟩ := by
  obtain ⟨values, hvalue, hleaves⟩ := ofValue_offered (Naming.camelCase key) htype h
  have hleaf : ∀ value,
      c.casters.castLeaf c.zone type value = c.casters.castValue c.zone type value := by
    intro value
    rw [hcasters, Casters.castLeaf_builtIn]
  have hcandidates : ∀ ls, c.candidates type values = .ok ls ↔
      List.Forall₂ (fun leaf l => c.literal type (taken type leaf) = .ok l) leaves ls := by
    intro ls
    rw [candidates_eq_ok hleaf, hleaves, List.forall₂_map_left_iff]
  have hcolumn := hasColumn_offered hkey htype h
  rw [compileMap_column (FilterEntry.ofMap_singleton hkey.notPage hkey.notNegation) hcolumn]
  simp only [columnOutcome_iff hcolumn]
  constructor
  · rintro ⟨p, ⟨condition, hcondition, _, hp⟩, rfl⟩
    cases hvalue.symm.trans hcondition
    cases hp with
    | isIn hls => exact ⟨_, (hcandidates _).1 hls, rfl⟩
  · rintro ⟨ls, hls, rfl⟩
    refine ⟨_, ⟨_, hvalue, ?_, .isIn ((hcandidates ls).2 hls)⟩, rfl⟩
    simp [FilterNode.suits, hbool, Condition.flags]

/-- A plain scalar on a column compiles to an equality, if it can be cast. -/
theorem compileMap_plainScalar (hkey : c.NamesField schema key kind)
    (htype : kind.columnType? = some type) (h : value.IsPlainScalar) :
    c.compileMap schema combinator [(key, value)] = .ok compiled ↔
      ∃ l, c.literal type (taken type value) = .ok l ∧
        compiled = ⟨.compare (column type (Path.root.child (Naming.camelCase key))) .equal
          (.literal l), []⟩ := by
  have hflat : Condition.nested? value = none := by
    cases value <;> first | rfl | cases h.scalar
  have hvalue := ofValue_plainScalar (Naming.camelCase key) htype h
  have hpresent : (taken type value).isNull = false := isNull_taken h.present
  have hcolumn : schema.HasColumn key value kind type := ⟨hkey.declared, htype, fun _ => hflat⟩
  rw [compileMap_column (FilterEntry.ofMap_singleton hkey.notPage hkey.notNegation) hcolumn]
  simp only [columnOutcome_iff hcolumn]
  constructor
  · rintro ⟨p, ⟨condition, hcondition, _, hp⟩, rfl⟩
    cases hvalue.symm.trans hcondition
    generalize taken type value = found at hp hpresent
    cases hp with
    | absent => cases hpresent
    | equals _ hl => exact ⟨_, hl, rfl⟩
  · rintro ⟨l, hl, rfl⟩
    exact ⟨_, ⟨_, hvalue, rfl, .equals hpresent hl⟩, rfl⟩

/-- The filters of the members are equalities with what the members are cast to. -/
theorem singles_eq (hkey : c.NamesField schema key kind) (htype : kind.columnType? = some type)
    (hleaves : ∀ leaf ∈ leaves, leaf.IsPlainScalar) {singles : List Compiled}
    (hls : List.Forall₂ (fun leaf l => c.literal type (taken type leaf) = .ok l) leaves ls)
    (h : List.Forall₂ (fun leaf single =>
      c.compileMap schema combinator [(key, leaf)] = .ok single) leaves singles) :
    singles = ls.map fun l => ⟨.compare (column type (Path.root.child (Naming.camelCase key)))
      .equal (.literal l), []⟩ := by
  induction hls generalizing singles with
  | nil =>
    cases h
    rfl
  | cons hl _ ih =>
    obtain ⟨hleaf, hleaves⟩ := List.forall_mem_cons.1 hleaves
    cases h with
    | cons hsingle hsingles =>
      obtain ⟨l', hl', rfl⟩ := (compileMap_plainScalar hkey htype hleaf).1 hsingle
      cases hl.symm.trans hl'
      rw [List.map_cons, ih hleaves hsingles]

/-- **A list is the union of its members**: a filter of a list on a column, which is not one of
truth values, compiles if the filter of each member does, and on every record it has the truth value
of their disjunction, or fails as that does. -/
theorem list_is_union (R : Type) [Filterable R] (combinator : Combinator)
    (hcasters : c.casters = .builtIn) (hkey : c.NamesField schema key kind)
    (htype : kind.columnType? = some type) (hbool : type.isBool = false)
    (hoffered : kind.offered? value = some leaves) (hsome : leaves ≠ [])
    (hleaves : ∀ leaf ∈ leaves, leaf.IsPlainScalar) :
    ((∃ compiled, c.compileMap schema combinator [(key, value)] = .ok compiled) ↔
      ∀ leaf ∈ leaves, ∃ single, c.compileMap schema combinator [(key, leaf)] = .ok single) ∧
    ∀ compiled singles, c.compileMap schema combinator [(key, value)] = .ok compiled →
      List.Forall₂ (fun leaf single =>
        c.compileMap schema combinator [(key, leaf)] = .ok single) leaves singles →
      compiled.joins = [] ∧ (∀ single ∈ singles, single.joins = []) ∧
        ∀ b : Binding R, compiled.predicate.evaluate b =
          (Predicate.anyOf (singles.map Compiled.predicate)).evaluate b := by
  constructor
  · constructor
    · rintro ⟨compiled, hcompiled⟩ leaf hleaf
      obtain ⟨ls, hls, rfl⟩ := (compileMap_offered hcasters hkey htype hbool hoffered).1 hcompiled
      obtain ⟨l, _, hl⟩ := exists_of_forall₂ hls hleaf
      exact ⟨_, (compileMap_plainScalar hkey htype (hleaves leaf hleaf)).2 ⟨l, hl, rfl⟩⟩
    · intro h
      obtain ⟨ls, hls⟩ : ∃ ls, List.Forall₂
          (fun leaf l => c.literal type (taken type leaf) = .ok l) leaves ls := by
        refine exists_forall₂ fun leaf hleaf => ?_
        obtain ⟨single, hsingle⟩ := h leaf hleaf
        obtain ⟨l, hl, _⟩ := (compileMap_plainScalar hkey htype (hleaves leaf hleaf)).1 hsingle
        exact ⟨l, hl⟩
      exact ⟨_, (compileMap_offered hcasters hkey htype hbool hoffered).2 ⟨ls, hls, rfl⟩⟩
  · intro compiled singles hcompiled hsingles
    obtain ⟨ls, hls, rfl⟩ := (compileMap_offered hcasters hkey htype hbool hoffered).1 hcompiled
    rw [singles_eq hkey htype hleaves hls hsingles, List.map_map]
    refine ⟨rfl, by simp, fun b => ?_⟩
    cases hls with
    | nil => exact absurd rfl hsome
    | @cons _ l _ ls => exact Predicate.evaluate_isIn_eq_anyOf _ l ls

end FilterContext

/-- The states of a task. -/
def EnumType.taskState : EnumType := ⟨"TaskState", ["open", "done"]⟩

/-- A bag of states, one of them in a nested list and one that no task has. -/
def Json.taskStates : Json :=
  .obj [("a", .str "done"), ("b", .arr [.str "lost", .arr [.str "open"]])]

namespace FilterContext

/-- Tasks in one of several states: an open one is found, and whether one without a state is among
them is unknown. -/
theorem list_is_union_task_states :
    let c : FilterContext := ⟨.empty, "_page", .builtIn, .utc⟩
    let schema : FieldSchema := ⟨"task", "task", none, [("state", .scalar (.enum .taskState))]⟩
    let leaves : List Json := [.str "done", .str "lost", .str "open"]
    c.NamesField schema "state" (.scalar (.enum .taskState)) ∧
      (FieldKind.scalar (.enum .taskState)).offered? .taskStates = some leaves ∧
      (∀ leaf ∈ leaves, leaf.IsPlainScalar) ∧
      ∃ compiled singles, c.compileMap schema .and [("state", .taskStates)] = .ok compiled ∧
        List.Forall₂ (fun leaf single => c.compileMap schema .and [("state", leaf)] = .ok single)
          leaves singles ∧
        (∀ b : Binding Document, compiled.predicate.evaluate b =
          (Predicate.anyOf (singles.map Compiled.predicate)).evaluate b) ∧
        compiled.predicate.evaluate (Binding.root (⟨[("state", .enum "open")], []⟩ : Document)) =
          .ok (some .true) ∧
        compiled.predicate.evaluate (Binding.root (⟨[], []⟩ : Document)) = .ok none := by
  intro c schema leaves
  have hkey : c.NamesField schema "state" (.scalar (.enum .taskState)) :=
    ⟨by decide +kernel, by decide, by decide +kernel⟩
  have hoffered : (FieldKind.scalar (.enum .taskState)).offered? .taskStates = some leaves := rfl
  have hleaves : ∀ leaf ∈ leaves, leaf.IsPlainScalar := by
    intro leaf hleaf
    simp only [leaves, List.mem_cons, List.not_mem_nil, or_false] at hleaf
    rcases hleaf with rfl | rfl | rfl
    all_goals
      refine ⟨rfl, rfl, ?_⟩
      rintro s ⟨⟩
      decide +kernel
  obtain ⟨hcompiles, hunion⟩ := list_is_union Document .and rfl hkey rfl rfl
    hoffered (List.cons_ne_nil _ _) hleaves
  obtain ⟨compiled, hcompiled, hopen, habsent⟩ : ∃ compiled,
      c.compileMap schema .and [("state", .taskStates)] = .ok compiled ∧
      compiled.predicate.evaluate (Binding.root (⟨[("state", .enum "open")], []⟩ : Document)) =
        .ok (some .true) ∧
      compiled.predicate.evaluate (Binding.root (⟨[], []⟩ : Document)) = .ok none := by
    refine ⟨_, rfl, ?_, ?_⟩ <;> rfl
  obtain ⟨singles, hsingles⟩ := exists_forall₂ (hcompiles.1 ⟨compiled, hcompiled⟩)
  exact ⟨hkey, hoffered, hleaves, compiled, singles, hcompiled, hsingles,
    (hunion compiled singles hcompiled hsingles).2.2, hopen, habsent⟩

end FilterContext

end RowFilter
