import Mathlib.Data.List.DropRight
import RowFilter.Proofs.Filter.Union
import RowFilter.Proofs.Schema.Identity
import RowFilter.Proofs.Text.Caseless
import RowFilter.Proofs.Text.Split

/-!
# Values of text fields up to letter case

What a value states about a field of texts does not change when its texts are written in another
case. The operator is inferred from the text as it is written, but from its wildcards only, and they
have no case; whatever is compared with is put in upper case, be it when the value is read or when
its condition is compiled.
-/

namespace RowFilter

namespace Json

mutual

/-- The value with every text in it in upper case. -/
def upperTexts : Json → Json
  | str s => str (Text.upper s)
  | arr items => arr (upperTextsOfItems items)
  | obj fields => obj (upperTextsOfFields fields)
  | value => value

/-- The items of a list with every text in them in upper case. -/
def upperTextsOfItems : List Json → List Json
  | [] => []
  | value :: rest => value.upperTexts :: upperTextsOfItems rest

/-- The entries of an object with every text in their values in upper case. -/
def upperTextsOfFields : List (String × Json) → List (String × Json)
  | [] => []
  | (key, value) :: rest => (key, value.upperTexts) :: upperTextsOfFields rest

end

variable {v v' : Json} {items items' : List Json} {fields fields' : Keyed Json}

theorem upperTextsOfItems_eq (items : List Json) :
    upperTextsOfItems items = items.map upperTexts := by
  induction items with
  | nil => rfl
  | cons value rest ih => rw [upperTextsOfItems, ih, List.map_cons]

theorem upperTextsOfFields_eq (fields : Keyed Json) :
    upperTextsOfFields fields = fields.map fun (key, value) => (key, value.upperTexts) := by
  induction fields with
  | nil => rfl
  | cons entry rest ih => rw [upperTextsOfFields, ih, List.map_cons]

/-- Whether two values differ at most in the case of the texts in them. -/
def CaseAlike (v v' : Json) : Prop := v.upperTexts = v'.upperTexts

theorem CaseAlike.isNull_eq (h : v.CaseAlike v') : v.isNull = v'.isNull := by
  cases v <;> cases v' <;> first | rfl | cases h

theorem leavesOfItems_upperTexts (values : List Json) :
    leavesOfItems (upperTextsOfItems values) = (leavesOfItems values).map upperTexts := by
  refine leavesOfItems.induct (fun value => value.upperTexts.leaves = value.leaves.map upperTexts)
    (fun values => leavesOfItems (upperTextsOfItems values) =
      (leavesOfItems values).map upperTexts) ?_ ?_ ?_ ?_ values
  · exact fun items ih => ih
  · intro value hlist
    cases value with
    | arr items => exact (hlist items rfl).elim
    | null | bool | num | str | obj => rfl
  · rfl
  · intro value rest ihvalue ihrest
    rw [upperTextsOfItems, leavesOfItems, leavesOfItems, List.map_append, ihvalue, ihrest]

/-- Lists that differ at most in case have such leaves, one by one. -/
theorem forall₂_leaves (h : upperTextsOfItems items = upperTextsOfItems items') :
    List.Forall₂ CaseAlike (leavesOfItems items) (leavesOfItems items') := by
  have hleaves : (leavesOfItems items).map upperTexts = (leavesOfItems items').map upperTexts := by
    rw [← leavesOfItems_upperTexts, h, leavesOfItems_upperTexts]
  rw [← List.forall₂_eq_eq_eq, List.forall₂_map_left_iff, List.forall₂_map_right_iff] at hleaves
  exact hleaves

section Objects

variable (h : CaseAlike (.obj fields) (.obj fields'))

include h

theorem CaseAlike.fields_eq : upperTextsOfFields fields = upperTextsOfFields fields' := obj.inj h

theorem CaseAlike.keys_eq : fields.keys = fields'.keys := by
  have hkeys : ∀ fields : Keyed Json, (upperTextsOfFields fields).map Prod.fst = fields.keys := by
    intro fields
    rw [upperTextsOfFields_eq, List.map_map]
    rfl
  rw [← hkeys, h.fields_eq, hkeys]

theorem CaseAlike.values_eq :
    upperTextsOfItems (Keyed.values fields) = upperTextsOfItems (Keyed.values fields') := by
  have hvalues : ∀ fields : Keyed Json,
      (upperTextsOfFields fields).map Prod.snd = upperTextsOfItems (Keyed.values fields) := by
    intro fields
    rw [upperTextsOfFields_eq, upperTextsOfItems_eq, Keyed.values, List.map_map, List.map_map]
    rfl
  rw [← hvalues, h.fields_eq, hvalues]

/-- What stands under a key, or null, differs at most in case. -/
theorem CaseAlike.getD_get? (key : String) :
    CaseAlike ((fields.get? key).getD .null) ((fields'.get? key).getD .null) := by
  have hget : ∀ fields : Keyed Json, ((fields.get? key).getD .null).upperTexts =
      (Keyed.get? (upperTextsOfFields fields) key).getD .null := by
    intro fields
    rw [upperTextsOfFields_eq, Keyed.get?_map fun _ => upperTexts]
    cases fields.get? key <;> rfl
  rw [CaseAlike, hget, h.fields_eq, hget]

theorem CaseAlike.isRange_eq : Condition.isRange fields = Condition.isRange fields' := by
  have hcontains : ∀ key, fields.contains key = fields'.contains key := by
    intro key
    rw [Bool.eq_iff_iff, Keyed.contains_iff, Keyed.contains_iff, h.keys_eq]
  rw [Condition.isRange, Condition.isRange, hcontains, hcontains, h.keys_eq]

end Objects

theorem CaseAlike.nested?_eq_none (h : v.CaseAlike v') (hv : Condition.nested? v = none) :
    Condition.nested? v' = none := by
  rw [Condition.nested?_eq_none] at hv ⊢
  rintro fields' rfl
  cases v with
  | obj fields => exact h.isRange_eq ▸ hv fields rfl
  | null | bool | num | str | arr => cases h

end Json

/-! ## Flags -/

namespace Text

variable {c : Char} {cs : List Char}

theorem trimChars_eq_nil : trimChars cs = [] ↔ ∀ c ∈ cs, isBlank c = true := by
  rw [trimChars, List.reverse_eq_nil_iff, trimStartChars, trimStartChars,
    List.dropWhile_eq_nil_iff]
  simp only [List.mem_reverse]
  constructor
  · intro h
    have hkept := List.dropWhile_eq_nil_iff.2 h
    rw [List.dropWhile_idempotent] at hkept
    exact List.dropWhile_eq_nil_iff.1 hkept
  · intro h c hc
    rw [List.dropWhile_eq_nil_iff.2 h] at hc
    cases hc

theorem trim_eq_empty {s : String} : trim s = "" ↔ ∀ c ∈ s.toList, isBlank c = true := by
  rw [← trimChars_eq_nil, trim, ← String.toList_inj, String.toList_ofList, String.toList_empty]

end Text

namespace ControlFlag

theorem tokens_eq_nil {s : String} :
    tokens s = [] ↔ ∀ c ∈ s.toList, c = ',' ∨ Text.isBlank c = true := by
  rw [tokens, List.filter_eq_nil_iff, ← Text.forall_mem_splitChars, Text.split, List.forall_mem_map]
  refine forall₂_congr fun piece _ => ?_
  rw [decide_eq_true_eq, not_not, Text.trim_eq_empty, String.toList_ofList]

theorem tokens_upper {s : String} : tokens (Text.upper s) = [] ↔ tokens s = [] := by
  rw [tokens_eq_nil, tokens_eq_nil, Text.upper, String.toList_ofList]
  refine Text.forall_mem_upperChars fun c hc => ?_
  rcases hc with rfl | hc
  · exact Text.isCaseless_comma
  · exact Text.isCaseless_of_isBlank hc

theorem eraseDups_eq_nil {flags : List ControlFlag} : flags.eraseDups = [] ↔ flags = [] := by
  cases flags with
  | nil => exact Iff.rfl
  | cons flag rest => simp [List.eraseDups_cons]

theorem ofValue_str {s : String} : ofValue (.str s) = .ok [] ↔ tokens s = [] := by
  constructor
  · intro h
    obtain ⟨flags, hflags, h⟩ := bind_eq_ok.1 h
    rw [eraseDups_eq_nil.1 (Except.ok.inj h)] at hflags
    exact List.forall₂_nil_right_iff.1 (forall₂_of_mapM hflags)
  · intro h
    rw [ofValue, h]
    rfl

/-- Whether a value names no flag does not depend on the case of its texts. -/
theorem ofValue_eq_nil {v v' : Json} (h : v.CaseAlike v') (hv : ofValue v = .ok []) :
    ofValue v' = .ok [] := by
  cases v with
  | str s =>
    cases v' with
    | str s' =>
      rw [ofValue_str, ← tokens_upper] at hv ⊢
      rwa [← Json.str.inj h]
    | null | bool | num | arr | obj => cases h
  | arr items =>
    obtain ⟨flags, hflags, hv⟩ := bind_eq_ok.1 hv
    rw [eraseDups_eq_nil.1 (Except.ok.inj hv)] at hflags
    have hitems : items = [] := List.forall₂_nil_right_iff.1 (forall₂_of_mapM hflags)
    subst hitems
    cases v' with
    | arr items' =>
      cases items' with
      | nil => rfl
      | cons => cases h
    | null | bool | num | str | obj => cases h
  | null =>
    cases v' <;> first | exact hv | cases h
  | bool | num | obj => cases hv

end ControlFlag

/-! ## Comparands -/

theorem Casters.castText_string (casters : Casters) (zone : Civil.LocalZone) (s : String) :
    casters.castText zone .string s = .ok (.string s) := by
  unfold castText cast
  split <;> rfl

theorem Casters.castLeaf_string (casters : Casters) (zone : Civil.LocalZone) (value : Json) :
    casters.castLeaf zone .string value = casters.castValue zone .string value := by
  cases value <;> rfl

namespace FilterContext

variable {c : FilterContext} {v v' low high low' high' : Json} {values values' : List Json}
  {l : Literal} {ls : List Literal} {bounds : Bounds Json} {ends : Bounds Literal}

theorem literal_text (s : String) : c.literal .string (.str s) = .ok (.string (Text.upper s)) := by
  rw [literal, Casters.castValue, Casters.castText_string]
  rfl

theorem literal_caseAlike (h : v.CaseAlike v') (hl : c.literal .string v = .ok l) :
    c.literal .string v' = .ok l := by
  cases v with
  | str s =>
    cases v' with
    | str s' =>
      rw [literal_text] at hl ⊢
      rwa [← Json.str.inj h]
    | null | bool | num | arr | obj => cases h
  | null | bool | num =>
    cases v' <;> cases h
    exact hl
  | arr | obj => cases hl

theorem literal_upper : c.literal .string v.upper = .ok l ↔ c.literal .string v = .ok l := by
  cases v with
  | str s => rw [Json.upper, literal_text, literal_text, Text.upper_upper]
  | arr => exact ⟨nofun, nofun⟩
  | null | bool | num | obj => exact Iff.rfl

theorem candidates_upper : c.candidates .string (Json.upperItems values) = .ok ls ↔
    List.Forall₂ (fun leaf l => c.literal .string leaf = .ok l) (Json.leavesOfItems values) ls := by
  rw [candidates_eq_ok (Casters.castLeaf_string _ _), Json.leavesOfItems_upperItems,
    List.forall₂_map_left_iff]
  simp only [literal_upper]

theorem candidates_caseAlike (h : Json.upperTextsOfItems values = Json.upperTextsOfItems values')
    (hls : c.candidates .string (Json.upperItems values) = .ok ls) :
    c.candidates .string (Json.upperItems values') = .ok ls := by
  rw [candidates_upper] at hls ⊢
  have hleaves := Json.forall₂_leaves h
  generalize Json.leavesOfItems values = leaves, Json.leavesOfItems values' = leaves' at hls hleaves
  induction hleaves generalizing ls with
  | nil => exact hls
  | cons hleaf _ ih =>
    cases hls with
    | cons hl hls => exact .cons (literal_caseAlike hleaf hl) (ih hls)

theorem exists_bounds (hlow : low.CaseAlike low') (hhigh : high.CaseAlike high')
    (hbounds : Bounds.ofEnds? low high = some bounds) :
    ∃ bounds', Bounds.ofEnds? low' high' = some bounds' ∧
      ∀ ends, bounds.convert (c.literal .string) = .ok ends →
        bounds'.convert (c.literal .string) = .ok ends := by
  unfold Bounds.ofEnds? at hbounds ⊢
  rw [← hlow.isNull_eq, ← hhigh.isNull_eq]
  split at hbounds
  · cases hbounds
    refine ⟨_, rfl, fun ends hends => ?_⟩
    obtain ⟨l, hl, hends⟩ := bind_eq_ok.1 hends
    obtain ⟨h, hh, hends⟩ := bind_eq_ok.1 hends
    exact bind_eq_ok.2 ⟨l, literal_caseAlike hlow hl,
      bind_eq_ok.2 ⟨h, literal_caseAlike hhigh hh, hends⟩⟩
  · cases hbounds
    refine ⟨_, rfl, fun ends hends => ?_⟩
    obtain ⟨l, hl, hends⟩ := bind_eq_ok.1 hends
    exact bind_eq_ok.2 ⟨l, literal_caseAlike hlow hl, hends⟩
  · cases hbounds
    refine ⟨_, rfl, fun ends hends => ?_⟩
    obtain ⟨h, hh, hends⟩ := bind_eq_ok.1 hends
    exact bind_eq_ok.2 ⟨h, literal_caseAlike hhigh hh, hends⟩
  · cases hbounds

/-- Whether a condition on texts can be put in the place of another: it is supported, tests for
absence if the other does, and compiles to what the other compiles to. -/
structure Replaces (c : FilterContext) (condition' condition : Condition) : Prop where
  suits : FilterNode.suits .string condition' = true
  isNullTest : condition'.isNullTest = condition.isNullTest
  outcome : ∀ path p, ValueOutcome c .string path condition p →
    ValueOutcome c .string path condition' p

end FilterContext

/-! ## Conditions -/

namespace Condition

variable {c : FilterContext} {declared : DeclaredType} {field : String} {v v' : Json}
  {fields fields' : Keyed Json} {condition written : Condition}

theorem isPattern_upper (s : String) : isPattern (Text.upper s) = isPattern s := by
  rw [Bool.eq_iff_iff, isPattern, isPattern, Text.upper, String.toList_ofList]
  simp only [Bool.or_eq_true, beq_iff_eq, Text.isCaseless_wildcard.head?_upperChars,
    Text.isCaseless_wildcard.getLast?_upperChars]

theorem isPattern_eq {s s' : String} (h : Text.upper s = Text.upper s') :
    isPattern s = isPattern s' := by
  rw [← isPattern_upper s, h, isPattern_upper]

theorem ofValue_of_ofWritten (htext : declared.isText = true)
    (h : ofWritten declared field v = .ok written) :
    ofValue declared field v = .ok written.upper := by
  rw [ofValue, h]
  exact congrArg Except.ok (if_pos htext)

/-- No flag has a meaning for texts. -/
theorem flags_eq_nil {bounds : Bounds Json} {flags : List ControlFlag}
    (h : FilterNode.suits .string (range bounds flags) = true) : flags = [] := by
  cases flags with
  | nil => rfl
  | cons flag rest =>
    cases flag
    cases h

theorem exists_ofRange_replaces (h : Json.CaseAlike (.obj fields) (.obj fields'))
    (hrange : ofRange field fields = .ok condition)
    (hsuits : FilterNode.suits .string condition.upper = true) :
    ∃ condition', ofRange field fields' = .ok condition' ∧
      c.Replaces condition'.upper condition.upper := by
  obtain ⟨bounds, flags, hbounds, hflags, rfl⟩ := ofRange_ok hrange
  obtain rfl := flags_eq_nil hsuits
  obtain ⟨bounds', hbounds', hconvert⟩ :=
    FilterContext.exists_bounds (h.getD_get? "from") (h.getD_get? "to") hbounds
  refine ⟨range bounds' [], ?_, rfl, rfl, fun path p hp => ?_⟩
  · rw [ofRange, hbounds', ControlFlag.ofValue_eq_nil (h.getD_get? "flags") hflags]
    rfl
  · cases hp with
    | range hends => exact .range (hconvert _ hends)

/-- What a value states about a field of texts can be replaced by what it states in another case. -/
theorem exists_replaces (htype : declared.valueType? = some .string) (h : v.CaseAlike v')
    (hflat : declared.isRelation = true → nested? v = none)
    (hcondition : ofValue declared field v = .ok condition)
    (hsuits : FilterNode.suits .string condition = true) :
    ∃ condition', ofValue declared field v' = .ok condition' ∧ c.Replaces condition' condition := by
  have htext : declared.isText = true := by
    rw [DeclaredType.isText, htype]
    rfl
  obtain ⟨written, hwritten, rfl⟩ := ofValue_ok hcondition
  rw [if_pos htext] at hsuits ⊢
  suffices hw : ∃ written', ofWritten declared field v' = .ok written' ∧
      c.Replaces written'.upper written.upper by
    obtain ⟨written', hwritten', hreplaces⟩ := hw
    exact ⟨_, ofValue_of_ofWritten htext hwritten', hreplaces⟩
  have hlist : ∀ {values values' : List Json},
      Json.upperTextsOfItems values = Json.upperTextsOfItems values' →
      c.Replaces (isIn values').upper (isIn values).upper := by
    intro values values' hvalues
    refine ⟨rfl, rfl, fun path p hp => ?_⟩
    cases hp with
    | isIn hls => exact .isIn (FilterContext.candidates_caseAlike hvalues hls)
  cases v with
  | str s =>
    cases v' with
    | str s' =>
      cases hwritten
      have htexts := Json.str.inj h
      refine ⟨_, rfl, ?_⟩
      rw [← isPattern_eq htexts]
      split
      · rw [upper, upper, ← htexts]
        exact ⟨rfl, rfl, fun _ _ => id⟩
      · rw [upper, upper, Json.upper, Json.upper, ← htexts]
        exact ⟨rfl, rfl, fun _ _ => id⟩
    | null | bool | num | arr | obj => cases h
  | arr items =>
    cases v' with
    | arr items' =>
      cases hwritten
      exact ⟨_, rfl, hlist (Json.arr.inj h)⟩
    | null | bool | num | str | obj => cases h
  | obj fields =>
    cases v' with
    | obj fields' =>
      rw [ofWritten_obj hflat] at hwritten
      rw [ofWritten_obj fun hrelation => h.nested?_eq_none (hflat hrelation), ← h.isRange_eq]
      by_cases hrange : isRange fields = true
      · rw [if_pos hrange] at hwritten ⊢
        exact exists_ofRange_replaces h hwritten hsuits
      · rw [if_neg hrange] at hwritten ⊢
        cases hwritten
        exact ⟨_, rfl, hlist h.values_eq⟩
    | null | bool | num | str | arr => cases h
  | null | bool | num =>
    cases v' <;> cases h
    exact ⟨written, hwritten, hsuits, rfl, fun _ _ => id⟩

end Condition

end RowFilter
