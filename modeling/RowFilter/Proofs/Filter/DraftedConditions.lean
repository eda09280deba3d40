import RowFilter.Filter.Draft
import RowFilter.Proofs.Text.Split

/-!
# Drafted conditions keep out of each other's way

Each condition of a draft is written at a path of keys. A value on the way that is no map gives way
to one, and a value at the end is replaced, so a later condition undoes an earlier one where its path
begins the other or continues it. Where the paths part, both stay, and so they do when the page is
added.
-/

namespace RowFilter

namespace FilterDraft

variable {p q rest : List String} {key : String} {value : Json} {m m' : FilterMap} {d : FilterDraft}

/-! ## Values at a path -/

/-- The value at a path of keys, if there are maps all along. -/
def valueAt : List String → FilterMap → Option Json
  | [], _ => none
  | [key], m => m.get? key
  | key :: rest, m => valueAt rest (fieldsOf (m.get? key))

theorem valueAt_cons (h : rest ≠ []) :
    valueAt (key :: rest) m = valueAt rest (fieldsOf (m.get? key)) := by
  cases rest with
  | nil => exact absurd rfl h
  | cons => rfl

theorem insertAt_cons (h : rest ≠ []) :
    insertAt (key :: rest) value m =
      m.insert key (.obj (insertAt rest value (fieldsOf (m.get? key)))) := by
  cases rest with
  | nil => exact absurd rfl h
  | cons => rfl

/-- Of a map only the value under the first key of a path is looked at. -/
theorem valueAt_congr (h : m.get? key = m'.get? key) :
    valueAt (key :: rest) m = valueAt (key :: rest) m' := by
  cases rest with
  | nil => exact h
  | cons => rw [valueAt_cons (List.cons_ne_nil _ _), valueAt_cons (List.cons_ne_nil _ _), h]

/-- What has been written at a path is found there. -/
theorem valueAt_insertAt_self (h : p ≠ []) : valueAt p (insertAt p value m) = some value := by
  induction p generalizing m with
  | nil => exact absurd rfl h
  | cons key rest ih =>
    by_cases hrest : rest = []
    · subst hrest
      exact Keyed.get?_insert_self m key value
    · rw [insertAt_cons hrest, valueAt_cons hrest, Keyed.get?_insert_self]
      exact ih hrest

/-- Whether two paths part at some key: neither begins the other. -/
def Apart (p q : List String) : Prop := ¬ p <+: q ∧ ¬ q <+: p

instance (p q : List String) : Decidable (Apart p q) :=
  inferInstanceAs (Decidable (¬ p <+: q ∧ ¬ q <+: p))

theorem Apart.ne_nil (h : Apart p q) : p ≠ [] ∧ q ≠ [] :=
  ⟨fun hp => h.1 (hp ▸ List.nil_prefix), fun hq => h.2 (hq ▸ List.nil_prefix)⟩

theorem apart_cons_self : Apart (key :: p) (key :: q) ↔ Apart p q := by
  simp [Apart]

/-- What is written at a path is not seen from a path apart. -/
theorem valueAt_insertAt_of_apart (h : Apart p q) :
    valueAt p (insertAt q value m) = valueAt p m := by
  induction q generalizing p m with
  | nil => exact absurd rfl h.ne_nil.2
  | cons key rest ih =>
    obtain ⟨first, more, rfl⟩ := List.exists_cons_of_ne_nil h.ne_nil.1
    by_cases hkey : key = first
    · -- under the same key the paths part further on, so there is more of both
      subst hkey
      have hapart := apart_cons_self.1 h
      obtain ⟨hmore, hrest⟩ := hapart.ne_nil
      rw [insertAt_cons hrest, valueAt_cons hmore, valueAt_cons hmore, Keyed.get?_insert_self]
      exact ih hapart
    · refine valueAt_congr ?_
      cases rest with
      | nil => exact Keyed.get?_insert_of_ne m value hkey
      | cons => exact Keyed.get?_insert_of_ne m _ hkey

end FilterDraft

open FilterDraft

/-! ## Steps of a draft -/

/-- A step in the making of a filter map. -/
inductive DraftStep where
  | equals (field : String) (value : Json)
  | equalsAny (field : String) (values : List Json)
  | isNull (field : String)
  | notEquals (field : String) (value : Json)
  | atLeast (field : String) (low : Json)
  | atMost (field : String) (high : Json)
  | between (field : String) (low high : Json)
  | sortedBy (token : String)
  | offset (n : Nat)
  | limit (n : Nat)

namespace DraftStep

variable {step : DraftStep} {steps before after : List DraftStep} {path : List String} {value : Json}
  {d : FilterDraft}

/-- The draft after one more step. -/
def apply (d : FilterDraft) : DraftStep → FilterDraft
  | equals field value => d.equals field value
  | equalsAny field values => d.equalsAny field values
  | isNull field => d.isNull field
  | notEquals field value => d.notEquals field value
  | atLeast field low => d.atLeast field low
  | atMost field high => d.atMost field high
  | between field low high => d.between field low high
  | sortedBy token => d.sortedBy token
  | offset n => d.offset n
  | limit n => d.limit n

/-- The path at which a condition is written, and its value. A negated condition stands under
`NOT`. -/
def condition? : DraftStep → Option (List String × Json)
  | equals field value => some (Text.split '.' field, value)
  | equalsAny field values => some (Text.split '.' field, .arr values)
  | isNull field => some (Text.split '.' field, .null)
  | notEquals field value => some ("NOT" :: Text.split '.' field, value)
  | atLeast field low => some (Text.split '.' field, .obj [("from", low)])
  | atMost field high => some (Text.split '.' field, .obj [("to", high)])
  | between field low high => some (Text.split '.' field, .obj [("from", low), ("to", high)])
  | sortedBy _ | offset _ | limit _ => none

/-- A step writes its condition and nothing else. -/
theorem filter_apply (d : FilterDraft) (step : DraftStep) :
    (apply d step).filter =
      step.condition?.elim d.filter fun condition => insertAt condition.1 condition.2 d.filter := by
  cases step <;> rfl

/-- Whether the condition of a step is written apart from a path. -/
def KeepsClearOf (path : List String) (step : DraftStep) : Prop :=
  ∀ condition ∈ step.condition?, Apart path condition.1

theorem valueAt_apply (h : step.KeepsClearOf path) :
    valueAt path (apply d step).filter = valueAt path d.filter := by
  rw [filter_apply]
  cases hcondition : step.condition? with
  | none => rfl
  | some condition => exact valueAt_insertAt_of_apart (h condition hcondition)

theorem valueAt_foldl (h : ∀ step ∈ steps, step.KeepsClearOf path) :
    valueAt path (steps.foldl apply d).filter = valueAt path d.filter := by
  induction steps generalizing d with
  | nil => rfl
  | cons step rest ih =>
    obtain ⟨hstep, hrest⟩ := List.forall_mem_cons.1 h
    rw [List.foldl_cons, ih hrest, valueAt_apply hstep]

theorem path_ne_nil (h : step.condition? = some (path, value)) : path ≠ [] := by
  have hsplit : ∀ field, Text.split '.' field ≠ [] := fun field hnil =>
    Text.splitChars_ne_nil '.' field.toList (List.map_eq_nil_iff.1 hnil)
  cases step <;> cases h <;> first | exact hsplit _ | exact List.cons_ne_nil _ _

/-- Only what stands under the page key depends on the page. -/
theorem valueAt_toMap (h : path.head? ≠ some FilterConfig.standard.pageKey) :
    valueAt path d.toMap = valueAt path d.filter := by
  rw [toMap]
  split
  · rfl
  · cases path with
    | nil => rfl
    | cons key rest =>
      refine valueAt_congr (Keyed.get?_insert_of_ne _ _ fun hkey => h ?_)
      rw [hkey]
      rfl

/-- The filter map that a sequence of steps makes. -/
def build (steps : List DraftStep) : FilterMap := (steps.foldl apply .empty).toMap

/-- **Conditions at paths apart do not disturb each other.** In any sequence of steps, a condition
outside the page is in the finished filter map, with its value at its path, if the path of no later
condition begins its own or continues it. What comes before it does not matter, and neither do the
steps that ask for an order or a page. -/
theorem valueAt_build (hstep : step.condition? = some (path, value))
    (hpage : path.head? ≠ some FilterConfig.standard.pageKey)
    (hafter : ∀ later ∈ after, later.KeepsClearOf path) :
    valueAt path (build (before ++ step :: after)) = some value := by
  have hwritten : valueAt path (apply (before.foldl apply .empty) step).filter = some value := by
    rw [filter_apply, hstep]
    exact valueAt_insertAt_self (path_ne_nil hstep)
  calc valueAt path (build (before ++ step :: after))
      = valueAt path ((before ++ step :: after).foldl apply .empty).filter := valueAt_toMap hpage
    _ = valueAt path (after.foldl apply (apply (before.foldl apply .empty) step)).filter := by
        rw [List.foldl_append, List.foldl_cons]
    _ = some value := (valueAt_foldl hafter).trans hwritten

/-- The name of an author is not disturbed by their key, by a negated condition on the same name, or
by the page. -/
theorem valueAt_build_author :
    let after : List DraftStep := [equals "author.id" (.num (.int 4)),
      notEquals "author.name" (.str "Herbert"), limit 20, sortedBy "-published"]
    (∀ later ∈ after, later.KeepsClearOf ["author", "name"]) ∧
      valueAt ["author", "name"] (build ([isNull "author", limit 5] ++
        equals "author.name" (.str "Tolkien") :: after)) = some (.str "Tolkien") := by
  intro after
  have hafter : ∀ later ∈ after, later.KeepsClearOf ["author", "name"] := by
    simp only [after, List.forall_mem_cons, KeepsClearOf]
    decide
  exact ⟨hafter, valueAt_build rfl (by decide) hafter⟩

/-- A later condition replaces one whose path it continues. -/
example : valueAt ["author"] (build [equals "author" (.num (.int 5)), isNull "author.name"]) =
    some (.obj [("name", .null)]) := rfl

end DraftStep

end RowFilter
