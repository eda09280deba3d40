/-!
# Keyed lists

A keyed list is an association list that remembers the order in which its keys first appeared.
Writing a key that is already present replaces the value and keeps the position, so a reader sees
each key once, at its first position, with its last value.
-/

namespace RowFilter

/-- Entries by key, in the order in which the keys were first written. -/
abbrev Keyed (α : Type) := List (String × α)

namespace Keyed

variable {α β : Type}

/-- The value stored under a key. -/
def get? : Keyed α → String → Option α
  | [], _ => none
  | (k, v) :: rest, key => if k = key then some v else get? rest key

/-- Whether a key is present. -/
def contains (m : Keyed α) (key : String) : Bool := (m.get? key).isSome

/-- Write a value: replace it in place when the key is present, else append it. -/
def insert : Keyed α → String → α → Keyed α
  | [], key, value => [(key, value)]
  | (k, v) :: rest, key, value =>
    if k = key then (k, value) :: rest else (k, v) :: insert rest key value

/-- The entries without a key. -/
def erase : Keyed α → String → Keyed α
  | [], _ => []
  | (k, v) :: rest, key => if k = key then erase rest key else (k, v) :: erase rest key

/-- The keys, in order. -/
def keys (m : Keyed α) : List String := m.map Prod.fst

/-- The values, in order. -/
def values (m : Keyed α) : List α := m.map Prod.snd

/-- The position of a key. -/
def index? (m : Keyed α) (key : String) : Option Nat := m.keys.findIdx? (· == key)

/-- The keyed list that results from writing the entries one after another. -/
def ofList (entries : List (String × α)) : Keyed α :=
  entries.foldl (fun m entry => m.insert entry.1 entry.2) []

@[simp] theorem get?_nil (key : String) : get? ([] : Keyed α) key = none := rfl

theorem get?_cons (k : String) (v : α) (rest : Keyed α) (key : String) :
    get? ((k, v) :: rest) key = if k = key then some v else get? rest key := rfl

@[simp] theorem get?_insert_self (m : Keyed α) (key : String) (value : α) :
    (m.insert key value).get? key = some value := by
  induction m with
  | nil => simp [insert, get?]
  | cons e rest ih =>
    obtain ⟨k, v⟩ := e
    by_cases h : k = key <;> simp [insert, get?, h, ih]

theorem get?_insert_of_ne (m : Keyed α) {key other : String} (value : α) (h : key ≠ other) :
    (m.insert key value).get? other = m.get? other := by
  induction m with
  | nil => simp [insert, get?, h]
  | cons e rest ih =>
    obtain ⟨k, v⟩ := e
    by_cases hk : k = key
    · subst hk
      simp [insert, get?, h]
    · simp [insert, get?, hk, ih]

@[simp] theorem get?_erase_self (m : Keyed α) (key : String) : (m.erase key).get? key = none := by
  induction m with
  | nil => rfl
  | cons e rest ih =>
    obtain ⟨k, v⟩ := e
    by_cases h : k = key <;> simp [erase, get?, h, ih]

theorem get?_erase_of_ne (m : Keyed α) {key other : String} (h : key ≠ other) :
    (m.erase key).get? other = m.get? other := by
  induction m with
  | nil => rfl
  | cons e rest ih =>
    obtain ⟨k, v⟩ := e
    by_cases hk : k = key
    · subst hk
      simp [erase, get?, h, ih]
    · simp [erase, get?, hk, ih]

theorem mem_of_get? {m : Keyed α} {key : String} {value : α} (h : m.get? key = some value) :
    (key, value) ∈ m := by
  induction m with
  | nil => cases h
  | cons entry rest ih =>
    obtain ⟨k, v⟩ := entry
    rw [get?_cons] at h
    split at h
    · next hk =>
      cases h
      rw [hk]
      exact List.mem_cons_self
    · exact List.mem_cons_of_mem _ (ih h)

theorem contains_iff {m : Keyed α} {key : String} : m.contains key = true ↔ key ∈ m.keys := by
  induction m with
  | nil => exact iff_of_false Bool.false_ne_true List.not_mem_nil
  | cons entry rest ih =>
    obtain ⟨k, v⟩ := entry
    rw [contains, get?_cons, keys, List.map_cons, List.mem_cons]
    by_cases hk : k = key
    · simp [hk]
    · rw [if_neg hk]
      exact ih.trans (or_iff_right fun h => hk h.symm).symm

end Keyed

end RowFilter
