/-!
# Stable sorting

Each item in turn is put in behind the last item that is not greater. Items that are equal in the
order keep their places relative to each other.
-/

namespace RowFilter.StableSort

variable {α : Type}

/-- Put an item into a list that runs from the greatest item to the least. -/
def place (less : α → α → Bool) (x : α) : List α → List α
  | [] => [x]
  | y :: rest => if less x y then y :: place less x rest else x :: y :: rest

/-- The items from the least to the greatest. -/
def sort (less : α → α → Bool) (items : List α) : List α :=
  (items.foldl (fun placed x => place less x placed) []).reverse

theorem place_perm (less : α → α → Bool) (x : α) (items : List α) :
    (place less x items).Perm (x :: items) := by
  induction items with
  | nil => exact .refl _
  | cons y rest ih =>
    unfold place
    split
    · exact (ih.cons y).trans (.swap x y rest)
    · exact .refl _

theorem foldl_place_perm (less : α → α → Bool) (items placed : List α) :
    (items.foldl (fun placed x => place less x placed) placed).Perm (items ++ placed) := by
  induction items generalizing placed with
  | nil => exact .refl _
  | cons x rest ih =>
    exact (ih _).trans (((place_perm less x placed).append_left rest).trans List.perm_middle)

/-- Sorting loses no item and adds none. -/
theorem sort_perm (less : α → α → Bool) (items : List α) : (sort less items).Perm items := by
  have h := foldl_place_perm less items []
  rw [List.append_nil] at h
  exact (List.reverse_perm _).trans h

example : sort (fun x y : Nat × Nat => x.1 < y.1) [(2, 0), (1, 1), (2, 2), (1, 3)] =
    [(1, 1), (1, 3), (2, 0), (2, 2)] := by decide

end RowFilter.StableSort
