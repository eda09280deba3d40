import Mathlib.Data.List.Forall2
import RowFilter.StableSort

/-!
# Sorting some of the items

A stable sort of some of the items of a list gives these items in the places in which a sort of the
whole list has them, as long as the order is a total preorder. Where it is not, an item that is left
out can have kept two others apart. Under such an order the items come out ranked: the less before
the greater, and those of one rank in the order in which they came.
-/

namespace RowFilter.StableSort

variable {α : Type} {less : α → α → Bool} {x y : α} {items placed : List α}

/-- Whether `less` is the strict part of a total preorder on some items. -/
structure Orders (less : α → α → Bool) (items : List α) : Prop where
  asymm : ∀ x ∈ items, ∀ y ∈ items, less x y = true → less y x = false
  trans : ∀ x ∈ items, ∀ y ∈ items, ∀ z ∈ items,
    less x y = false → less y z = false → less x z = false

theorem Orders.mono {part : List α} (h : Orders less items) (hpart : part ⊆ items) :
    Orders less part := by
  refine ⟨?_, ?_⟩
  · intro x hx y hy
    exact h.asymm x (hpart hx) y (hpart hy)
  · intro x hx y hy z hz
    exact h.trans x (hpart hx) y (hpart hy) z (hpart hz)

/-- A comparison that turns around and is transitive on some items orders them. -/
theorem orders_of_compare {cmp : α → α → Ordering} (hswap : ∀ x y, cmp y x = (cmp x y).swap)
    (htrans : ∀ x ∈ items, ∀ y ∈ items, ∀ z ∈ items,
      cmp x y ≠ .gt → cmp y z ≠ .gt → cmp x z ≠ .gt) :
    Orders (fun x y => cmp x y == .lt) items := by
  constructor
  · intro x _ y _ hless
    have hlt : cmp x y = .lt := by simpa using hless
    simp [hswap x y, hlt]
  · intro x hx y hy z hz hxy hyz
    have hyx : cmp y x ≠ .gt := by
      intro hgt
      simp [hswap y x, hgt] at hxy
    have hzy : cmp z y ≠ .gt := by
      intro hgt
      simp [hswap z y, hgt] at hyz
    have hzx := htrans z hz y hy x hx hzy hyx
    cases hxz : cmp x z with
    | lt =>
      rw [hswap x z, hxz] at hzx
      exact absurd rfl hzx
    | eq | gt => rfl

/-- The items run from the greatest to the least: none is less than a later one. -/
def Descends (less : α → α → Bool) (placed : List α) : Prop :=
  placed.Pairwise fun x y => less x y = false

theorem mem_place : y ∈ place less x placed ↔ y = x ∨ y ∈ placed := by
  rw [(place_perm less x placed).mem_iff, List.mem_cons]

/-- One step of the sort keeps the items descending. -/
theorem Descends.place (h : Descends less placed) (horders : Orders less (x :: placed)) :
    Descends less (place less x placed) := by
  induction placed with
  | nil => exact List.pairwise_singleton _ _
  | cons y rest ih =>
    obtain ⟨hhead, hrest⟩ := List.pairwise_cons.1 h
    have hx : x ∈ x :: y :: rest := List.mem_cons_self
    have hy : y ∈ x :: y :: rest := List.mem_cons_of_mem _ List.mem_cons_self
    have hsub : x :: rest ⊆ x :: y :: rest := List.cons_subset_cons x (List.subset_cons_self y rest)
    unfold StableSort.place
    split
    · next hless =>
      refine List.pairwise_cons.2 ⟨?_, ih hrest (horders.mono hsub)⟩
      intro z hz
      rcases mem_place.1 hz with rfl | hz
      · exact horders.asymm z hx y hy hless
      · exact hhead z hz
    · next hless =>
      have hless : less x y = false := Bool.eq_false_iff.2 hless
      refine List.pairwise_cons.2 ⟨?_, h⟩
      intro z hz
      rcases List.mem_cons.1 hz with rfl | hz'
      · exact hless
      · exact horders.trans x hx y hy z (List.mem_cons_of_mem _ hz) hless (hhead z hz')

variable (q : α → Bool)

/-- An item that is left out takes no place. -/
theorem filter_place_of_not (hx : q x = false) :
    (place less x placed).filter q = placed.filter q := by
  induction placed with
  | nil => simp [place, hx]
  | cons y rest ih =>
    unfold place
    split
    · rw [List.filter_cons, ih, List.filter_cons]
    · rw [List.filter_cons, hx]
      rfl

/-- In front of items none of which is greater, an item comes first. -/
theorem place_of_not_less (h : ∀ y ∈ placed, less x y = false) :
    place less x placed = x :: placed := by
  cases placed with
  | nil => rfl
  | cons y rest =>
    unfold place
    rw [h y List.mem_cons_self]
    rfl

/-- An item that stays is put where it would have been put with all the others there. -/
theorem filter_place (hx : q x = true) (h : Descends less placed)
    (horders : Orders less (x :: placed)) :
    (place less x placed).filter q = place less x (placed.filter q) := by
  induction placed with
  | nil => simp [place, hx]
  | cons y rest ih =>
    obtain ⟨hhead, hrest⟩ := List.pairwise_cons.1 h
    have hsub : x :: rest ⊆ x :: y :: rest := List.cons_subset_cons x (List.subset_cons_self y rest)
    have ih := ih hrest (horders.mono hsub)
    cases hless : less x y with
    | true =>
      rw [show place less x (y :: rest) = y :: place less x rest by simp [place, hless]]
      cases hy : q y with
      | true => simp [hy, ih, place, hless]
      | false => simp [hy, ih]
    | false =>
      rw [show place less x (y :: rest) = x :: y :: rest by simp [place, hless]]
      have hall : ∀ z ∈ (y :: rest).filter q, less x z = false := by
        intro z hz
        have hz : z ∈ y :: rest := (List.mem_filter.1 hz).1
        rcases List.mem_cons.1 hz with rfl | hz'
        · exact hless
        · exact horders.trans x List.mem_cons_self y (List.mem_cons_of_mem _ List.mem_cons_self) z
            (List.mem_cons_of_mem _ hz) hless (hhead z hz')
      rw [place_of_not_less hall, List.filter_cons, hx]
      rfl

theorem filter_foldl_place (horders : Orders less (items ++ placed)) (h : Descends less placed) :
    (items.foldl (fun placed x => place less x placed) placed).filter q =
      (items.filter q).foldl (fun placed x => place less x placed) (placed.filter q) := by
  -- the invariant is that what has been placed descends, and is ordered with what is still to come
  induction items generalizing placed with
  | nil => rfl
  | cons x rest ih =>
    have hplaced : Orders less (x :: placed) :=
      horders.mono (List.cons_subset_cons x (List.subset_append_right rest placed))
    have hnext : Orders less (rest ++ place less x placed) := by
      have hperm : (rest ++ place less x placed).Perm (x :: rest ++ placed) :=
        ((place_perm less x placed).append_left rest).trans List.perm_middle
      exact horders.mono hperm.subset
    rw [List.foldl_cons, ih hnext (h.place hplaced), List.filter_cons]
    cases hx : q x with
    | true => rw [filter_place q hx h hplaced]; rfl
    | false => rw [filter_place_of_not q hx]; rfl

/-- **A sort of some of the items** is the sort of all of them, without the others. -/
theorem filter_sort (horders : Orders less items) :
    (sort less items).filter q = sort less (items.filter q) := by
  have hfold := filter_foldl_place q (by simpa using horders) (List.Pairwise.nil : Descends less [])
  unfold sort
  rw [List.filter_reverse, hfold, List.filter_nil]

/-- Items of one rank stay as they are. -/
theorem sort_of_not_less (h : ∀ x ∈ items, ∀ y ∈ items, less x y = false) :
    sort less items = items := by
  -- each item is placed in front of those before it, so they stand in reverse
  have hfold : ∀ rest placed : List α, rest ++ placed ⊆ items →
      rest.foldl (fun placed x => place less x placed) placed = rest.reverse ++ placed := by
    intro rest
    induction rest with
    | nil => exact fun _ _ => rfl
    | cons x rest ih =>
      intro placed hsub
      have hx : x ∈ items := hsub List.mem_cons_self
      have hplace : place less x placed = x :: placed := by
        refine place_of_not_less fun y hy => h x hx y (hsub ?_)
        exact List.mem_append_right _ hy
      have hnext : rest ++ x :: placed ⊆ items :=
        fun y hy => hsub (List.perm_middle.mem_iff.1 hy)
      rw [List.foldl_cons, hplace, ih (x :: placed) hnext, List.reverse_cons, List.append_assoc,
        List.singleton_append]
  have hall := hfold items [] (List.append_subset.2 ⟨List.Subset.refl items, List.nil_subset items⟩)
  rw [sort, hall, List.append_nil, List.reverse_reverse]

section

variable (rank : α → Nat)

theorem orders_of_rank (items : List α) : Orders (fun x y => decide (rank x < rank y)) items := by
  constructor
  · intro x _ y _ hless
    exact decide_eq_false (Nat.lt_asymm (of_decide_eq_true hless))
  · intro x _ y _ z _ hxy hyz
    have hyx := Nat.not_lt.1 (of_decide_eq_false hxy)
    have hzy := Nat.not_lt.1 (of_decide_eq_false hyz)
    exact decide_eq_false (Nat.not_lt.2 (Nat.le_trans hzy hyx))

/-- A sort by rank keeps the order of items that are all of one rank. -/
theorem filter_sort_of_rank (hq : ∀ x y, q x = true → q y = true → rank x = rank y) :
    (sort (fun x y => decide (rank x < rank y)) items).filter q = items.filter q := by
  rw [filter_sort q (orders_of_rank rank items)]
  refine sort_of_not_less fun x hx y hy => ?_
  rw [hq x y (List.mem_filter.1 hx).2 (List.mem_filter.1 hy).2]
  exact decide_eq_false (Nat.lt_irrefl _)

end

/-! ## Ranked items -/

/-- Whether an item comes out before another one: it is less, or the two are of one rank and it came
earlier. -/
def Precedes (less : α → α → Bool) (earlier : α → α → Prop) (x y : α) : Prop :=
  less x y = true ∨ less y x = false ∧ earlier x y

variable {earlier : α → α → Prop}

/-- One step of the sort keeps the items ranked, from the last to the first. -/
theorem pairwise_place (h : placed.Pairwise fun y x => Precedes less earlier x y)
    (horders : Orders less (x :: placed)) (hx : ∀ y ∈ placed, earlier y x) :
    (place less x placed).Pairwise fun y x => Precedes less earlier x y := by
  induction placed with
  | nil => exact List.pairwise_singleton _ _
  | cons y rest ih =>
    obtain ⟨hhead, hrest⟩ := List.pairwise_cons.1 h
    obtain ⟨hyx, hrestx⟩ := List.forall_mem_cons.1 hx
    have hsub : x :: rest ⊆ x :: y :: rest := List.cons_subset_cons x (List.subset_cons_self y rest)
    have hmemx : x ∈ x :: y :: rest := List.mem_cons_self
    have hmemy : y ∈ x :: y :: rest := List.mem_cons_of_mem _ List.mem_cons_self
    unfold place
    split
    · next hless =>
      refine List.pairwise_cons.2 ⟨?_, ih hrest (horders.mono hsub) hrestx⟩
      intro z hz
      rcases mem_place.1 hz with rfl | hz
      · exact .inl hless
      · exact hhead z hz
    · next hless =>
      have hless : less x y = false := Bool.eq_false_iff.2 hless
      refine List.pairwise_cons.2 ⟨?_, h⟩
      intro z hz
      rcases List.mem_cons.1 hz with rfl | hz
      · exact .inr ⟨hless, hyx⟩
      · have hmemz : z ∈ x :: y :: rest := List.mem_cons_of_mem _ (List.mem_cons_of_mem _ hz)
        have hyz : less y z = false := by
          rcases hhead z hz with hzy | ⟨hyz, _⟩
          · exact horders.asymm z hmemz y hmemy hzy
          · exact hyz
        exact .inr ⟨horders.trans x hmemx y hmemy z hmemz hless hyz, hrestx z hz⟩

theorem pairwise_foldl_place (h : placed.Pairwise fun y x => Precedes less earlier x y)
    (horders : Orders less (items ++ placed)) (hitems : items.Pairwise earlier)
    (hplaced : ∀ y ∈ placed, ∀ x ∈ items, earlier y x) :
    (items.foldl (fun placed x => place less x placed) placed).Pairwise
      fun y x => Precedes less earlier x y := by
  -- what has been placed is ranked, and came earlier than what is still to come
  induction items generalizing placed with
  | nil => exact h
  | cons x rest ih =>
    obtain ⟨hx, hrest⟩ := List.pairwise_cons.1 hitems
    have hnext : x :: placed ⊆ x :: rest ++ placed :=
      List.cons_subset_cons x (List.subset_append_right rest placed)
    have hperm : (rest ++ place less x placed).Perm (x :: rest ++ placed) :=
      ((place_perm less x placed).append_left rest).trans List.perm_middle
    refine ih (pairwise_place h (horders.mono hnext) ?_) (horders.mono hperm.subset) hrest ?_
    · intro y hy
      exact hplaced y hy x List.mem_cons_self
    · intro y hy z hz
      rcases mem_place.1 hy with rfl | hy
      · exact hx z hz
      · exact hplaced y hy z (List.mem_cons_of_mem _ hz)

/-- **Sorted items are ranked**: the less come before the greater, and those of one rank come in the
order in which they were given. -/
theorem pairwise_sort (horders : Orders less items) (hitems : items.Pairwise earlier) :
    (sort less items).Pairwise (Precedes less earlier) := by
  unfold sort
  rw [List.pairwise_reverse]
  exact pairwise_foldl_place List.Pairwise.nil (by simpa using horders) hitems (by simp)

/-! ## Images -/

variable {β : Type} (f : β → α)

theorem Orders.comap {items : List β} (h : Orders less (items.map f)) :
    Orders (fun x y => less (f x) (f y)) items := by
  constructor
  · intro x hx y hy
    exact h.asymm _ (List.mem_map_of_mem hx) _ (List.mem_map_of_mem hy)
  · intro x hx y hy z hz
    exact h.trans _ (List.mem_map_of_mem hx) _ (List.mem_map_of_mem hy) _ (List.mem_map_of_mem hz)

theorem place_map (x : β) (placed : List β) :
    place less (f x) (placed.map f) = (place (fun x y => less (f x) (f y)) x placed).map f := by
  induction placed with
  | nil => rfl
  | cons y rest ih =>
    rw [List.map_cons, place, place, ih]
    split <;> rfl

/-- Images are sorted as that of which they are the images. -/
theorem sort_map (items : List β) :
    sort less (items.map f) = (sort (fun x y => less (f x) (f y)) items).map f := by
  have hfold : ∀ (items placed : List β),
      (items.map f).foldl (fun placed x => place less x placed) (placed.map f) =
        (items.foldl (fun placed x => place (fun x y => less (f x) (f y)) x placed) placed).map f := by
    intro items
    induction items with
    | nil => exact fun placed => rfl
    | cons x rest ih =>
      intro placed
      rw [List.map_cons, List.foldl_cons, List.foldl_cons, place_map, ih]
  unfold sort
  rw [List.map_reverse, ← hfold items []]
  rfl

/-- Lists that correspond item by item are sorted alike, if the comparisons do not tell the items
apart. -/
theorem forall₂_sort {r : α → β → Prop} {less' : β → β → Bool}
    (hless : ∀ {x x' y y'}, r x x' → r y y' → less x y = less' x' y') {items : List α}
    {items' : List β} (h : List.Forall₂ r items items') :
    List.Forall₂ r (sort less items) (sort less' items') := by
  have hplace : ∀ {x x' placed placed'}, r x x' → List.Forall₂ r placed placed' →
      List.Forall₂ r (place less x placed) (place less' x' placed') := by
    intro x x' placed placed' hx hplaced
    induction hplaced with
    | nil => exact .cons hx .nil
    | cons hy hrest ih =>
      rw [place, place, hless hx hy]
      split
      · exact .cons hy ih
      · exact .cons hx (.cons hy hrest)
  have hfold : ∀ {placed placed'}, List.Forall₂ r placed placed' →
      List.Forall₂ r (items.foldl (fun placed x => place less x placed) placed)
        (items'.foldl (fun placed x => place less' x placed) placed') := by
    induction h with
    | nil => exact id
    | cons hx _ ih => exact fun hplaced => ih (hplace hx hplaced)
  exact List.forall₂_reverse_iff.2 (hfold .nil)

end RowFilter.StableSort
