import Mathlib.Data.List.Chain

/-!
# Checks over sorted tables

A table in increasing order is checked against a span without going through all of it: a part that
lies before the span or behind it is passed over as a whole, and any other part is halved.
-/

namespace RowFilter

variable {α : Type} {lo hi : α → Nat} {p : α → Bool} {first last depth : Nat} {xs : List α}

/-- Whether an entry starts before another and ends before it. -/
def Precedes (lo hi : α → Nat) (x y : α) : Prop := lo x < lo y ∧ hi x < hi y

instance (lo hi : α → Nat) : DecidableRel (Precedes lo hi) :=
  fun x y => inferInstanceAs (Decidable (lo x < lo y ∧ hi x < hi y))

instance (lo hi : α → Nat) : Trans (Precedes lo hi) (Precedes lo hi) (Precedes lo hi) where
  trans h h' := ⟨Nat.lt_trans h.1 h'.1, Nat.lt_trans h.2 h'.2⟩

/-- Whether all entries lie behind a span, or all lie before it. -/
def isApart (lo hi : α → Nat) (first last : Nat) (xs : List α) : Bool :=
  (xs.head?.all fun x => Nat.blt last (lo x)) || (xs.getLast?.all fun x => Nat.blt (hi x) first)

/-- Whether the entries that may meet a span have a property. -/
def allMeeting (lo hi : α → Nat) (p : α → Bool) (first last : Nat) : Nat → List α → Bool
  | 0, xs => xs.all p
  | depth + 1, xs =>
    isApart lo hi first last xs ||
      (allMeeting lo hi p first last depth (xs.take (xs.length / 2)) &&
        allMeeting lo hi p first last depth (xs.drop (xs.length / 2)))

theorem apart_of_isApart (hsorted : xs.Pairwise (Precedes lo hi))
    (h : isApart lo hi first last xs = true) : ∀ x ∈ xs, last < lo x ∨ hi x < first := by
  intro x hx
  rw [isApart, Bool.or_eq_true] at h
  rcases h with hbehind | hbefore
  · left
    cases xs with
    | nil => cases hx
    | cons head rest =>
      have hhead : last < lo head := by simpa using hbehind
      rcases List.mem_cons.1 hx with rfl | hrest
      · exact hhead
      · exact Nat.lt_trans hhead ((List.pairwise_cons.1 hsorted).1 x hrest).1
  · right
    rcases List.eq_nil_or_concat xs with rfl | ⟨init, final, rfl⟩
    · cases hx
    · rw [List.concat_eq_append] at hsorted hbefore hx
      have hfinal : hi final < first := by simpa using hbefore
      rcases List.mem_append.1 hx with hinit | hlast
      · have hprecedes := (List.pairwise_append.1 hsorted).2.2 x hinit final List.mem_cons_self
        exact Nat.lt_trans hprecedes.2 hfinal
      · rw [List.mem_singleton.1 hlast]
        exact hfinal

/-- A property that the entries apart from a span have anyway holds of the whole table if it holds
of those that may meet the span. -/
theorem forall_of_allMeeting (hsorted : xs.Pairwise (Precedes lo hi))
    (hapart : ∀ x, last < lo x ∨ hi x < first → p x = true)
    (h : allMeeting lo hi p first last depth xs = true) : ∀ x ∈ xs, p x = true := by
  induction depth generalizing xs with
  | zero => exact List.all_eq_true.1 h
  | succ depth ih =>
    rw [allMeeting, Bool.or_eq_true, Bool.and_eq_true] at h
    intro x hx
    rcases h with h | ⟨htake, hdrop⟩
    · exact hapart x (apart_of_isApart hsorted h x hx)
    · rw [← List.take_append_drop (xs.length / 2) xs] at hx
      rcases List.mem_append.1 hx with hx | hx
      · exact ih (hsorted.sublist (List.take_sublist _ _)) htake x hx
      · exact ih (hsorted.sublist (List.drop_sublist _ _)) hdrop x hx

end RowFilter
