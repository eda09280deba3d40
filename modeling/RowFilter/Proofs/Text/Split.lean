import Mathlib.Data.List.Basic
import RowFilter.Text.Basic

/-!
# Splitting at a separator

No piece of a split text has the separator in it. What texts are joined to has the pieces of each of
them, and texts without the separator are their own only pieces.
-/

namespace RowFilter.Text

variable {separator : Char} {piece rest cs : List Char}

theorem splitChars_of_not_mem (h : separator ∉ piece) : splitChars separator piece = [piece] := by
  induction piece with
  | nil => rfl
  | cons c piece ih =>
    obtain ⟨hc, hpiece⟩ := not_or.1 (mt List.mem_cons.2 h)
    rw [splitChars, if_neg (Ne.symm hc), ih hpiece]

theorem splitChars_ne_nil (separator : Char) (cs : List Char) : splitChars separator cs ≠ [] := by
  cases cs with
  | nil => exact List.cons_ne_nil _ _
  | cons c rest =>
    rw [splitChars]
    split
    · exact List.cons_ne_nil _ _
    · split <;> exact List.cons_ne_nil _ _

/-- A separator parts the pieces in front of it from those behind it. -/
theorem splitChars_separator (cs rest : List Char) :
    splitChars separator (cs ++ separator :: rest) =
      splitChars separator cs ++ splitChars separator rest := by
  induction cs with
  | nil => simp [splitChars]
  | cons c cs ih =>
    rw [List.cons_append, splitChars, splitChars, ih]
    by_cases hc : c = separator
    · simp [hc]
    · obtain ⟨piece, pieces, hpieces⟩ :=
        List.exists_cons_of_ne_nil (splitChars_ne_nil separator cs)
      simp [hc, hpieces]

/-- The first piece ends at the first separator. -/
theorem splitChars_append (h : separator ∉ piece) :
    splitChars separator (piece ++ separator :: rest) = piece :: splitChars separator rest := by
  rw [splitChars_separator, splitChars_of_not_mem h, List.singleton_append]

theorem forall_mem_splitChars {p : Char → Prop} :
    (∀ piece ∈ splitChars separator cs, ∀ c ∈ piece, p c) ↔ ∀ c ∈ cs, c = separator ∨ p c := by
  induction cs with
  | nil => simp [splitChars]
  | cons c rest ih =>
    rw [splitChars, List.forall_mem_cons, ← ih]
    by_cases hc : c = separator
    · simp [hc]
    · obtain ⟨piece, pieces, hpieces⟩ :=
        List.exists_cons_of_ne_nil (splitChars_ne_nil separator rest)
      simp [hc, hpieces, and_assoc]

/-- What texts are joined to has the pieces of each of them. -/
theorem splitChars_join_eq_flatMap {texts : List String} (hne : texts ≠ []) :
    splitChars separator (join (String.singleton separator) texts).toList =
      texts.flatMap fun s => splitChars separator s.toList := by
  induction texts with
  | nil => exact absurd rfl hne
  | cons s rest ih =>
    cases rest with
    | nil => simp [join]
    | cons next rest =>
      have hjoin : (join (String.singleton separator) (s :: next :: rest)).toList =
          s.toList ++ separator ::
            (join (String.singleton separator) (next :: rest)).toList := by
        simp [join]
      rw [hjoin, splitChars_separator, ih (List.cons_ne_nil _ _)]
      rfl

/-- Texts without a separator are the pieces of what they are joined to. -/
theorem splitChars_join {pieces : List String} (hne : pieces ≠ [])
    (h : ∀ piece ∈ pieces, separator ∉ piece.toList) :
    splitChars separator (join (String.singleton separator) pieces).toList =
      pieces.map String.toList := by
  have hown : ∀ piece ∈ pieces, splitChars separator piece.toList = [piece.toList] :=
    fun piece hpiece => splitChars_of_not_mem (h piece hpiece)
  rw [splitChars_join_eq_flatMap hne, List.flatMap_congr hown, List.map_eq_flatMap]

end RowFilter.Text
