import RowFilter.Page.SortToken
import RowFilter.Proofs.Filter.Column
import RowFilter.Proofs.Naming

/-!
# Fields by their names

A field can be named as the schema does it or in snake case, by the key of a condition and by a sort
token. A sort token has no other meaning; a key that is reserved for the page or for negation has,
and then the name of a field does not reach it.
-/

namespace RowFilter

/-- The names that a field goes by: its own and the one in snake case. -/
inductive Naming.Spells (n : String) : String → Prop where
  | own : Spells n n
  | snake : Spells n (snakeCase n)

namespace Naming.IsFieldName

variable {n key : String}

theorem camelCase_of_spells (h : IsFieldName n) (hkey : Spells n key) : camelCase key = n := by
  cases hkey with
  | own => exact h.camelCase_eq
  | snake => exact h.camelCase_snakeCase

/-- The snake case of a name begins as the name does. -/
theorem head?_of_spells (h : IsFieldName n) (hkey : Spells n key) :
    key.toList.head?.any Char.isLower = true := by
  cases hkey with
  | own => exact h.lower
  | snake =>
    obtain ⟨hlower, halphanum⟩ := h
    rw [snakeCase, String.toList_ofList]
    cases hn : n.toList with
    | nil => rwa [hn] at hlower
    | cons c rest =>
      rw [hn] at hlower halphanum
      obtain ⟨-, -, -, -, hsmall⟩ := Text.case_of_isAlphanum (halphanum c List.mem_cons_self)
      have hlower : c.isLower = true := by simpa using hlower
      simp [snakeFrom, hsmall hlower, hlower]

theorem plain_snakeFrom {cs : List Char} (h : ∀ c ∈ cs, c.isAlphanum = true)
    (behindWord : Bool) : Text.Plain (snakeFrom behindWord cs) := by
  induction cs generalizing behindWord with
  | nil => exact Text.plain_nil
  | cons c rest ih =>
    obtain ⟨hc, hrest⟩ := List.forall_mem_cons.1 h
    have hplain : ∀ {d : Char}, d.isAlphanum = true → Text.isPlain d = true :=
      fun hd => by simp [Text.isPlain, hd]
    rw [snakeFrom]
    split
    · next hcase =>
      obtain ⟨-, -, hupper, -⟩ := Text.case_of_isAlphanum hc
      obtain ⟨hlower, -, halphanum, -⟩ := hupper hcase
      rw [hlower, List.append_assoc]
      refine Text.Plain.append ?_ (.cons (hplain halphanum) (ih hrest true))
      split
      · exact .cons (by decide) Text.plain_nil
      · exact Text.plain_nil
    · exact .cons (hplain hc) (ih hrest _)

theorem plain_of_spells (h : IsFieldName n) (hkey : Spells n key) : Text.Plain key.toList := by
  cases hkey with
  | own => exact fun c hc => by simp [Text.isPlain, h.alphanum c hc]
  | snake =>
    rw [snakeCase, String.toList_ofList]
    exact plain_snakeFrom h.alphanum false

end Naming.IsFieldName

/-! ## Sort tokens -/

namespace SortToken

open Naming

variable {n key sign : String} {cs : List Char} {direction : Direction}

/-- What can stand before the name in a sort token, and the direction it stands for. -/
def signs : List (String × Direction) := [("", .ascending), ("+", .ascending), ("-", .descending)]

theorem takeDirection_of_lower (h : cs.head?.any Char.isLower = true) :
    takeDirection cs = (.ascending, cs) := by
  unfold takeDirection
  split
  · cases h
  · cases h
  · rfl

theorem takeDirection_sign (h : cs.head?.any Char.isLower = true)
    (hsign : (sign, direction) ∈ signs) :
    Text.Plain sign.toList ∧ takeDirection (sign.toList ++ cs) = (direction, cs) := by
  simp only [signs, List.mem_cons, Prod.mk.injEq, List.not_mem_nil, or_false] at hsign
  rcases hsign with ⟨rfl, rfl⟩ | ⟨rfl, rfl⟩ | ⟨rfl, rfl⟩
  · exact ⟨Text.plain_of_all (by decide), takeDirection_of_lower h⟩
  · exact ⟨Text.plain_of_all (by decide), rfl⟩
  · exact ⟨Text.plain_of_all (by decide), rfl⟩

theorem isNameChar_ascii : ∀ n : Fin 128, (Char.ofNat n.val).isAlphanum = true →
    isNameChar (Char.ofNat n.val) = true ∧
      ((Char.ofNat n.val).isLower = true → (Char.ofNat n.val).isDigit = false) := by
  decide +kernel

theorem isNameChar_of_isAlphanum {c : Char} (h : c.isAlphanum = true) :
    isNameChar c = true ∧ (c.isLower = true → c.isDigit = false) := by
  have hascii := isNameChar_ascii ⟨c.toNat, Text.toNat_lt_of_isAlphanum h⟩
  simp only [Char.ofNat_toNat] at hascii
  exact hascii h

theorem isName_of_isFieldName (h : IsFieldName n) : isName n.toList = true := by
  obtain ⟨hlower, halphanum⟩ := h
  rw [isName, Bool.and_eq_true, List.all_eq_true, Bool.not_eq_true']
  refine ⟨?_, fun c hc => (isNameChar_of_isAlphanum (halphanum c hc)).1⟩
  cases hn : n.toList with
  | nil => rfl
  | cons c rest =>
    rw [hn] at hlower halphanum
    exact (isNameChar_of_isAlphanum (halphanum c List.mem_cons_self)).2 (by simpa using hlower)

/-- A sort token names a field by either name, behind any sign. -/
theorem ofText_of_spells (h : IsFieldName n) (hkey : Spells n key)
    (hsign : (sign, direction) ∈ signs) : ofText (sign ++ key) = .ok ⟨n, direction⟩ := by
  have hplain := h.plain_of_spells hkey
  obtain ⟨hsignPlain, hdirection⟩ := takeDirection_sign (h.head?_of_spells hkey) hsign
  have hcamel : camelChars key.toList = n.toList := by
    rw [← h.camelCase_of_spells hkey, camelCase, String.toList_ofList]
  have hname := isName_of_isFieldName h
  have hne : n.toList.isEmpty = false := by
    obtain ⟨hlower, -⟩ := h
    cases hn : n.toList with
    | nil => rw [hn] at hlower; cases hlower
    | cons c rest => rfl
  simp only [ofText, String.toList_append, Text.trimChars_of_plain (hsignPlain.append hplain),
    hdirection, Text.trimChars_of_plain hplain, hcamel, hne, hname, if_true, String.ofList_toList,
    Bool.false_eq_true, if_false]

end SortToken

/-! ## Keys of filter maps -/

namespace FilterReading

variable {schema : FieldSchema} {pageKey key notKey n : String} {combinator : Combinator}
  {negation : Negation} {kind : FieldKind} {value : Json} {filter before after : FilterMap}
  {inner inner' : FilterMap}

/-- What a filter map says that has a condition between two parts of it. -/
def around (b : FilterReading) (node : FilterNode) (a : FilterReading) : FilterReading :=
  ⟨b.nodes ++ node :: a.nodes, b.unknown ++ a.unknown⟩

/-- What a filter map says that has a value for a field between two parts of it. -/
def withCondition (schema : FieldSchema) (pageKey : String) (combinator : Combinator)
    (field : String) (kind : FieldKind) (negation : Negation) (value : Json)
    (before after : FilterMap) : Except FilterError FilterReading := do
  let b ← ofMap schema pageKey combinator before
  let condition ← Condition.ofValue (.ofFieldKind kind) field value
  let a ← ofMap schema pageKey combinator after
  .ok (b.around ⟨field, .ofFieldKind kind, condition, combinator, negation⟩ a)

theorem ofMap_eq_withCondition (hkind : schema.get? n = some kind) (hkey : Naming.camelCase key = n)
    (hentries : FilterEntry.ofMap pageKey filter =
      FilterEntry.ofMap pageKey before ++ ⟨negation, key, value⟩ :: FilterEntry.ofMap pageKey after) :
    ofMap schema pageKey combinator filter =
      withCondition schema pageKey combinator n kind negation value before after := by
  have hread : Reading.ofEntry schema combinator ⟨negation, key, value⟩ = (do
      let condition ← Condition.ofValue (.ofFieldKind kind) n value
      .ok (.node ⟨n, .ofFieldKind kind, condition, combinator, negation⟩)) := by
    simp only [Reading.ofEntry, FilterEntry.field, hkey, hkind]
  unfold withCondition ofMap
  rw [hentries, List.mapM_append, List.mapM_cons, hread]
  cases (FilterEntry.ofMap pageKey before).mapM (Reading.ofEntry schema combinator) with
  | error e => rfl
  | ok b =>
    cases Condition.ofValue (.ofFieldKind kind) n value with
    | error e => rfl
    | ok condition =>
      cases (FilterEntry.ofMap pageKey after).mapM (Reading.ofEntry schema combinator) with
      | error e => rfl
      | ok a =>
        change Except.ok _ = Except.ok _
        simp [around, List.filterMap_cons, Reading.node?, Reading.unknown?]

/-- An entry whose key is not reserved is a condition. -/
theorem ofMap_of_key (hkind : schema.get? n = some kind) (hkey : Naming.camelCase key = n)
    (hpage : key ≠ pageKey) (hnot : FilterEntry.isNotKey key = false) :
    ofMap schema pageKey combinator (before ++ (key, value) :: after) =
      withCondition schema pageKey combinator n kind .none value before after := by
  refine ofMap_eq_withCondition hkind hkey ?_
  simp [FilterEntry.ofMap, FilterEntry.ofEntry, hpage, hnot]

/-- Under `NOT` every entry is a condition. -/
theorem ofMap_of_negated (hkind : schema.get? n = some kind) (hkey : Naming.camelCase key = n)
    (hpage : notKey ≠ pageKey) (hnot : FilterEntry.isNotKey notKey = true) :
    ofMap schema pageKey combinator
        (before ++ (notKey, .obj (inner ++ (key, value) :: inner')) :: after) =
      withCondition schema pageKey combinator n kind .not value
        (before ++ [(notKey, .obj inner)]) ((notKey, .obj inner') :: after) := by
  refine ofMap_eq_withCondition hkind hkey ?_
  simp [FilterEntry.ofMap, FilterEntry.ofEntry, hpage, hnot]

end FilterReading

open Naming in
/-- **Names are normalised once and for all**: camel case is final, and it undoes the snake case of
a name that begins with a lower-case letter and goes on with letters and digits. So a field with such
a name is reached by either name, by a sort token behind any sign, by a key that is not reserved, and
by any key under `NOT`. -/
theorem Naming.reaches_field :
    (∀ k, camelCase (camelCase k) = camelCase k) ∧
    ∀ n, IsFieldName n → camelCase (snakeCase n) = n ∧
      ∀ key, Spells n key →
        (∀ sign direction, (sign, direction) ∈ SortToken.signs →
          SortToken.ofText (sign ++ key) = .ok ⟨n, direction⟩) ∧
        ∀ (schema : FieldSchema) kind, schema.get? n = some kind →
          ∀ pageKey combinator value before after,
            (key ≠ pageKey → FilterEntry.isNotKey key = false →
              FilterReading.ofMap schema pageKey combinator (before ++ (key, value) :: after) =
                FilterReading.withCondition schema pageKey combinator n kind .none value before after) ∧
            ∀ notKey inner inner', notKey ≠ pageKey → FilterEntry.isNotKey notKey = true →
              FilterReading.ofMap schema pageKey combinator
                  (before ++ (notKey, .obj (inner ++ (key, value) :: inner')) :: after) =
                FilterReading.withCondition schema pageKey combinator n kind .not value
                  (before ++ [(notKey, .obj inner)]) ((notKey, .obj inner') :: after) := by
  refine ⟨camelCase_camelCase, fun n hn => ⟨hn.camelCase_snakeCase, fun key hkey => ?_⟩⟩
  have hcamel := hn.camelCase_of_spells hkey
  refine ⟨fun sign direction hsign => SortToken.ofText_of_spells hn hkey hsign, ?_⟩
  intro schema kind hkind pageKey combinator value before after
  exact ⟨FilterReading.ofMap_of_key hkind hcamel,
    fun notKey inner inner' => FilterReading.ofMap_of_negated hkind hcamel⟩

/-- Goods with a price per unit, and a field whose name is the key of negations but for its case. -/
def FieldSchema.goods : FieldSchema :=
  ⟨"goods", "goods", none, [("unitPrice", .scalar .i64), ("nOT", .scalar .i64)]⟩

theorem Naming.reaches_field_unitPrice :
    let node : FilterNode :=
      ⟨"unitPrice", .scalar .i64, .equals (.num (.int 4)), .and, .none⟩
    camelCase (camelCase "__Unit_PRICE_") = camelCase "__Unit_PRICE_" ∧
      IsFieldName "unitPrice" ∧ snakeCase "unitPrice" = "unit_price" ∧
      SortToken.ofText "-unit_price" = .ok ⟨"unitPrice", .descending⟩ ∧
      FieldSchema.goods.get? "unitPrice" = some (.scalar .i64) ∧
      FilterReading.ofMap .goods "_page" .and [("unit_price", .num (.int 4))] = .ok ⟨[node], []⟩ ∧
      FilterReading.ofMap .goods "_page" .and [("not", .obj [("unitPrice", .num (.int 4))])] =
        .ok ⟨[{ node with negation := .not }], []⟩ := by
  obtain ⟨hfinal, hnames⟩ := reaches_field
  have hname : IsFieldName "unitPrice" := by decide
  have hsnake : snakeCase "unitPrice" = "unit_price" := by decide +kernel
  have hkind : FieldSchema.goods.get? "unitPrice" = some (.scalar .i64) := rfl
  obtain ⟨-, hkeys⟩ := hnames _ hname
  obtain ⟨htoken, hkey⟩ := hsnake ▸ hkeys _ .snake
  obtain ⟨-, hown⟩ := hkeys _ .own
  obtain ⟨hpositive, -⟩ := hkey _ _ hkind "_page" .and (.num (.int 4)) [] []
  obtain ⟨-, hnegated⟩ := hown _ _ hkind "_page" .and (.num (.int 4)) [] []
  exact ⟨hfinal _, hname, hsnake, htoken "-" .descending (by decide), hkind,
    hpositive (by decide) (by decide), hnegated "not" [] [] (by decide) (by decide)⟩

/-- Its own name does not reach a field if it is reserved for negation. The name in snake case does. -/
theorem Naming.not_reached_nOT :
    IsFieldName "nOT" ∧ FieldSchema.goods.get? "nOT" = some (.scalar .i64) ∧
      FilterReading.ofMap .goods "_page" .and [("nOT", .num (.int 4))] = .ok ⟨[], []⟩ ∧
      FilterReading.ofMap .goods "_page" .and [("n_o_t", .num (.int 4))] =
        .ok ⟨[⟨"nOT", .scalar .i64, .equals (.num (.int 4)), .and, .none⟩], []⟩ := by
  have hcamel : camelCase "n_o_t" = "nOT" := by decide +kernel
  have hkind : FieldSchema.goods.get? "nOT" = some (.scalar .i64) := rfl
  have hsnake : FilterReading.ofMap .goods "_page" .and ([] ++ ("n_o_t", .num (.int 4)) :: []) = _ :=
    FilterReading.ofMap_of_key hkind hcamel (by decide) (by decide)
  exact ⟨by decide, hkind, rfl, hsnake⟩

end RowFilter
