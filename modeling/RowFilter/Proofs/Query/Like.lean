import Mathlib.Data.List.Forall2
import RowFilter.Query.Like

/-!
# Patterns cut texts into pieces

A text matches a pattern when it can be cut into consecutive pieces, one for each character of the
pattern: any piece for `%`, one character for `_`, and the character itself for any other. The
matcher finds such a cut because the rests that it keeps are nested in each other: what is left
after any of them is left after the longest. So each text matches itself, and a plain text with a
`%` behind it is matched by what starts with the text.
-/

namespace RowFilter.Like

/-- Whether a piece of a text is one that a character of a pattern stands for. -/
def Fits (piece : List Char) (p : Char) : Prop := p = '%' ∨ ∃ c, piece = [c] ∧ (p = '_' ∨ p = c)

theorem fits_self (c : Char) : Fits [c] c := .inr ⟨c, rfl, .inr rfl⟩

/-- Whether each rest is an end piece of every rest before it. -/
def Nested (rests : List (List Char)) : Prop := rests.Pairwise fun before after => after <:+ before

variable {rests : List (List Char)} {p : Char} {v : List Char}

theorem mem_endings {α : Type} {xs ys : List α} : ys ∈ endings xs ↔ ys <:+ xs := by
  induction xs with
  | nil => simp [endings]
  | cons x rest ih => rw [endings, List.mem_cons, ih, List.suffix_cons_iff]

theorem nested_endings (cs : List Char) : Nested (endings cs) := by
  induction cs with
  | nil => exact List.pairwise_singleton _ _
  | cons c rest ih =>
    refine List.pairwise_cons.2 ⟨fun after hafter => ?_, ih⟩
    exact (mem_endings.1 hafter).trans (List.suffix_cons c rest)

theorem Nested.advance (h : Nested rests) : Nested (advance rests p) := by
  unfold Like.advance
  split
  · split
    · exact List.Pairwise.nil
    · exact nested_endings _
  · refine List.Pairwise.filterMap _ ?_ h
    intro before after hsuffix before' hbefore after' hafter
    have hbefore : ∃ c, before = c :: before' := by grind
    have hafter : ∃ c, after = c :: after' := by grind
    obtain ⟨c, rfl⟩ := hbefore
    obtain ⟨c', rfl⟩ := hafter
    -- the longer rest loses a character too, so the shorter one can only be as long as what is left
    rcases List.suffix_cons_iff.1 hsuffix with heq | hsuffix
    · cases heq
      exact List.suffix_refl _
    · exact (List.suffix_cons c' after').trans hsuffix

/-- One character of the pattern takes one piece off one of the rests. -/
theorem mem_advance (h : Nested rests) :
    v ∈ advance rests p ↔ ∃ r ∈ rests, ∃ piece, r = piece ++ v ∧ Fits piece p := by
  unfold advance
  split
  · next hrun =>
    cases rests with
    | nil => simp
    | cons longest rest =>
      rw [mem_endings]
      constructor
      · rintro ⟨piece, hpiece⟩
        exact ⟨longest, List.mem_cons_self, piece, hpiece.symm, .inl hrun⟩
      · rintro ⟨r, hr, piece, rfl, _⟩
        have hsuffix : piece ++ v <:+ longest := by
          rcases List.mem_cons.1 hr with hr | hr
          · exact hr ▸ List.suffix_refl _
          · exact (List.pairwise_cons.1 h).1 _ hr
        exact (List.suffix_append piece v).trans hsuffix
  · next hrun =>
    rw [List.mem_filterMap]
    constructor
    · rintro ⟨r, hr, hv⟩
      cases r with
      | nil => cases hv
      | cons c rest =>
        obtain ⟨hp, hv⟩ := Option.ite_none_right_eq_some.1 hv
        cases hv
        exact ⟨c :: v, hr, [c], rfl, .inr ⟨c, rfl, hp⟩⟩
    · rintro ⟨r, hr, piece, rfl, hfits | ⟨c, rfl, hp⟩⟩
      · exact absurd hfits hrun
      · exact ⟨c :: v, hr, if_pos hp⟩

/-- A pattern takes one piece for each of its characters off one of the rests. -/
theorem mem_foldl_advance (pattern : List Char) (h : Nested rests) :
    v ∈ pattern.foldl advance rests ↔
      ∃ r ∈ rests, ∃ pieces, r = pieces.flatten ++ v ∧ List.Forall₂ Fits pieces pattern := by
  induction pattern generalizing rests with
  | nil => simp
  | cons p pattern ih =>
    rw [List.foldl_cons, ih h.advance]
    constructor
    · rintro ⟨_, hr, pieces, rfl, hpieces⟩
      obtain ⟨r, hr, piece, rfl, hpiece⟩ := (mem_advance h).1 hr
      exact ⟨_, hr, piece :: pieces, by simp, .cons hpiece hpieces⟩
    · rintro ⟨r, hr, _, rfl, hpieces⟩
      cases hpieces with
      | @cons piece _ pieces _ hpiece hpieces =>
        refine ⟨pieces.flatten ++ v, (mem_advance h).2 ⟨_, hr, piece, ?_, hpiece⟩, pieces, rfl,
          hpieces⟩
        rw [List.flatten_cons, List.append_assoc]

theorem matchesChars_iff {text pattern : List Char} :
    matchesChars text pattern = true ↔
      ∃ pieces, text = pieces.flatten ∧ List.Forall₂ Fits pieces pattern := by
  have hmem := mem_foldl_advance (v := []) pattern
    (List.pairwise_singleton (fun before after : List Char => after <:+ before) text)
  simp only [List.mem_singleton, exists_eq_left, List.append_nil] at hmem
  rw [← hmem, matchesChars, List.any_eq_true]
  constructor
  · rintro ⟨rest, hrest, hempty⟩
    rwa [← List.isEmpty_iff.1 hempty]
  · exact fun hnil => ⟨[], hnil, rfl⟩

/-- A text is a pattern that it matches itself, wildcards or not. -/
theorem isMatch_self (s : String) : isMatch s s = true := by
  refine matchesChars_iff.2 ⟨s.toList.map fun c => [c], ?_, ?_⟩
  · induction s.toList with
    | nil => rfl
    | cons c rest ih => rw [List.map_cons, List.flatten_cons, ← ih, List.singleton_append]
  · rw [List.forall₂_map_left_iff, List.forall₂_same]
    exact fun c _ => fits_self c

/-- The first character of a pattern takes the first piece. -/
theorem matchesChars_cons {text pattern : List Char} :
    matchesChars text (p :: pattern) = true ↔
      ∃ piece rest, text = piece ++ rest ∧ Fits piece p ∧ matchesChars rest pattern = true := by
  rw [matchesChars_iff]
  constructor
  · rintro ⟨_, rfl, hpieces⟩
    cases hpieces with
    | @cons piece _ pieces _ hpiece hpieces =>
      exact ⟨piece, pieces.flatten, rfl, hpiece, matchesChars_iff.2 ⟨pieces, rfl, hpieces⟩⟩
  · rintro ⟨piece, rest, rfl, hpiece, hrest⟩
    obtain ⟨pieces, rfl, hpieces⟩ := matchesChars_iff.1 hrest
    exact ⟨piece :: pieces, rfl, .cons hpiece hpieces⟩

/-- A character that is no wildcard stands for itself alone. -/
theorem fits_plain {piece : List Char} (hrun : p ≠ '%') (hany : p ≠ '_') :
    Fits piece p ↔ piece = [p] := by
  constructor
  · rintro (h | ⟨c, rfl, h | rfl⟩)
    · exact absurd h hrun
    · exact absurd h hany
    · rfl
  · rintro rfl
    exact fits_self p

/-- A plain text with a `%` behind it is a pattern for what starts with the text. -/
theorem matchesChars_start {text start : List Char} (hplain : ∀ c ∈ start, c ≠ '%' ∧ c ≠ '_') :
    matchesChars text (start ++ ['%']) = true ↔ start <+: text := by
  induction start generalizing text with
  | nil =>
    refine iff_of_true (matchesChars_cons.2 ⟨text, [], ?_, .inl rfl, rfl⟩) (List.nil_prefix)
    rw [List.append_nil]
  | cons c start ih =>
    obtain ⟨hc, hstart⟩ := List.forall_mem_cons.1 hplain
    rw [List.cons_append, matchesChars_cons]
    constructor
    · rintro ⟨piece, rest, rfl, hpiece, hrest⟩
      rw [(fits_plain hc.1 hc.2).1 hpiece]
      exact List.cons_prefix_cons.2 ⟨rfl, (ih hstart).1 hrest⟩
    · rintro ⟨rest, rfl⟩
      refine ⟨[c], start ++ rest, rfl, fits_self c, (ih hstart).2 ?_⟩
      exact List.prefix_append start rest

/-- **A pattern matches the texts that can be cut up along it**, with a piece of any length for each
`%`, one of one character for each `_`, and the character itself for each other. Each text matches
itself, and a plain text with a `%` behind it is matched by exactly what starts with the text. -/
theorem isMatch_iff_cut (text pattern : String) :
    (isMatch text pattern = true ↔
      ∃ pieces, text.toList = pieces.flatten ∧ List.Forall₂ Fits pieces pattern.toList) ∧
    isMatch text text = true ∧
    ∀ start : String, (∀ c ∈ start.toList, c ≠ '%' ∧ c ≠ '_') →
      (isMatch text (start ++ "%") = true ↔ start.toList <+: text.toList) := by
  refine ⟨matchesChars_iff, isMatch_self text, fun start hplain => ?_⟩
  rw [isMatch, String.toList_append]
  exact matchesChars_start hplain

/-- A text of wildcards and its pieces, and a text that goes on behind a plain start. -/
theorem isMatch_iff_cut_discount :
    isMatch "50%_OFF" "5_%F" = true ∧ isMatch "50%_OFF" "50%_OFF" = true ∧
    (∀ c ∈ "50".toList, c ≠ '%' ∧ c ≠ '_') ∧ isMatch "50%_OFF" ("50" ++ "%") = true := by
  obtain ⟨hcut, hself, hstart⟩ := isMatch_iff_cut "50%_OFF" "5_%F"
  have hplain : ∀ c ∈ "50".toList, c ≠ '%' ∧ c ≠ '_' := by simp
  refine ⟨hcut.2 ⟨[['5'], ['0'], ['%', '_', 'O', 'F'], ['F']], rfl, ?_⟩, hself, hplain,
    (hstart "50" hplain).2 ⟨['%', '_', 'O', 'F', 'F'], rfl⟩⟩
  exact .cons (fits_self '5') (.cons (.inr ⟨'0', rfl, .inl rfl⟩)
    (.cons (.inl rfl) (.cons (fits_self 'F') .nil)))

end RowFilter.Like
