import RowFilter.Proofs.Text.UpperCase
import RowFilter.Text.Basic

/-!
# Characters without case

A wildcard, a comma and a blank are the upper case of nothing but themselves. So whether a text
begins or ends with a wildcard, and whether there is more to it than commas and blanks, can be seen
from its upper case.
-/

namespace RowFilter.Text

/-- Whether the case tables keep clear of a span: no character of it is mapped or is an image. -/
def keepsClear (span : Span) : Bool :=
  Nat.blt 0 span.1 &&
    (upperExpansions.all fun expansion =>
      (expansion.1 :: expansion.2).all fun code => Nat.blt code span.1 || Nat.blt span.2 code) &&
    upperRuns.all fun run =>
      (Nat.blt run.last span.1 || Nat.blt span.2 run.first) &&
        (Nat.blt (imageLast run) span.1 || Nat.blt span.2 (imageFirst run))

/-- The spans of the wildcard, the comma and the blanks. -/
def caselessSpans : List Span := (0x25, 0x25) :: (0x2C, 0x2C) :: blankSpans

theorem keepsClear_caselessSpans : caselessSpans.all keepsClear = true := by decide

/-- Whether a character is a wildcard, a comma or a blank. -/
def IsCaseless (c : Char) : Prop := ∃ span ∈ caselessSpans, span.1 ≤ c.toNat ∧ c.toNat ≤ span.2

variable {c d : Char} {cs : List Char}

theorem exists_of_inSpans {spans : List Span} {code : Nat} (h : inSpans spans code = true) :
    ∃ span ∈ spans, span.1 ≤ code ∧ code ≤ span.2 := by
  induction spans with
  | nil => cases h
  | cons span rest ih =>
    obtain ⟨first, last⟩ := span
    simp only [inSpans, Bool.and_eq_true, Bool.or_eq_true, decide_eq_true_eq] at h
    rcases h with ⟨hfirst, hlast | hrest⟩
    · exact ⟨_, List.mem_cons_self, hfirst, hlast⟩
    · obtain ⟨span, hspan, hcode⟩ := ih hrest
      exact ⟨span, List.mem_cons_of_mem _ hspan, hcode⟩

theorem isCaseless_of_isBlank (h : isBlank c = true) : IsCaseless c := by
  obtain ⟨span, hspan, hcode⟩ := exists_of_inSpans h
  exact ⟨span, List.mem_cons_of_mem _ (List.mem_cons_of_mem _ hspan), hcode⟩

theorem isCaseless_wildcard : IsCaseless '%' := ⟨_, List.mem_cons_self, by decide⟩

theorem isCaseless_comma : IsCaseless ',' :=
  ⟨_, List.mem_cons_of_mem _ List.mem_cons_self, by decide⟩

/-- A character without case is in no entry of the case tables. -/
theorem IsCaseless.clear (h : IsCaseless c) : 0 < c.toNat ∧
    (∀ expansion ∈ upperExpansions, ∀ code ∈ expansion.1 :: expansion.2, c.toNat ≠ code) ∧
    ∀ run ∈ upperRuns, run.image? c.toNat = none ∧
      ∀ code, run.image? code ≠ some c.toNat := by
  obtain ⟨span, hspan, hfirst, hlast⟩ := h
  have hclear := List.all_eq_true.1 keepsClear_caselessSpans span hspan
  simp only [keepsClear, Bool.and_eq_true, Bool.or_eq_true, List.all_eq_true, Nat.blt_eq] at hclear
  obtain ⟨⟨hpositive, hexpansions⟩, hruns⟩ := hclear
  refine ⟨by omega, fun expansion hexpansion code hcode => ?_, fun run hrun => ⟨?_, ?_⟩⟩
  · have := hexpansions expansion hexpansion code hcode
    omega
  · have := (hruns run hrun).1
    exact if_neg (by omega)
  · intro code himage
    have hbounds := image_bounds himage
    have := (hruns run hrun).2
    omega

theorem toNat_ofNat_of_pos {code : Nat} (h : 0 < (Char.ofNat code).toNat) :
    (Char.ofNat code).toNat = code := by
  by_cases hvalid : code.isValidChar
  · rw [Char.ofNat, dif_pos hvalid]
    rfl
  · rw [Char.ofNat, dif_neg hvalid] at h
    cases h

theorem IsCaseless.upperChar_eq (h : IsCaseless c) : upperChar c = [c] := by
  obtain ⟨-, hexpansions, hruns⟩ := h.clear
  refine upperChar_of_isUpperCode (isUpperCode_of_tables ?_ ?_)
  · intro expansion hexpansion
    exact bne_iff_ne.2 (hexpansions expansion hexpansion _ List.mem_cons_self)
  · intro run hrun
    rw [(hruns run hrun).1]
    rfl

/-- A character without case is the upper case of no other. -/
theorem IsCaseless.mem_upperChar (h : IsCaseless d) : d ∈ upperChar c ↔ c = d := by
  constructor
  · intro hd
    obtain ⟨hpositive, hexpansions, hruns⟩ := h.clear
    rw [upperChar, mapCase] at hd
    split at hd
    · next codes hcodes =>
      obtain ⟨code, hcode, rfl⟩ := List.mem_map.1 hd
      exact absurd (toNat_ofNat_of_pos hpositive)
        (hexpansions _ (mem_upperExpansions hcodes) code (List.mem_cons_of_mem _ hcode))
    · split at hd
      · next code hcode =>
        obtain ⟨run, hrun, himage⟩ := List.exists_of_findSome?_eq_some hcode
        rw [List.mem_singleton] at hd
        subst hd
        rw [← toNat_ofNat_of_pos hpositive] at himage
        exact absurd himage ((hruns run hrun).2 _)
      · exact (List.mem_singleton.1 hd).symm
  · rintro rfl
    rw [h.upperChar_eq]
    exact List.mem_singleton_self c

/-! ## Ends of a text -/

theorem IsCaseless.head?_upperChars (h : IsCaseless d) :
    (upperChars cs).head? = some d ↔ cs.head? = some d := by
  cases cs with
  | nil => exact Iff.rfl
  | cons c rest =>
    obtain ⟨first, more, hupper⟩ := List.exists_cons_of_ne_nil (upperChar_ne_nil c)
    have himage : first = d ↔ c = d := by
      constructor
      · rintro rfl
        exact h.mem_upperChar.1 (hupper ▸ List.mem_cons_self)
      · rintro rfl
        exact (List.cons.inj (hupper.symm.trans h.upperChar_eq)).1
    simp [upperChars, hupper, himage]

theorem IsCaseless.getLast?_upperChars (h : IsCaseless d) :
    (upperChars cs).getLast? = some d ↔ cs.getLast? = some d := by
  cases cs using List.reverseRecOn with
  | nil => exact Iff.rfl
  | append_singleton rest c =>
    have himage : (upperChar c).getLast (upperChar_ne_nil c) = d ↔ c = d := by
      constructor
      · rintro rfl
        exact h.mem_upperChar.1 (List.getLast_mem _)
      · rintro rfl
        simp [h.upperChar_eq]
    have hupper : upperChars (rest ++ [c]) = upperChars rest ++ upperChar c := by
      simp [upperChars]
    rw [hupper, List.getLast?_append_of_ne_nil _ (upperChar_ne_nil c), List.getLast?_concat,
      List.getLast?_eq_some_getLast (upperChar_ne_nil c), Option.some.injEq, Option.some.injEq,
      himage]

/-- Whether a text is made up of some characters without case can be seen from its upper case. -/
theorem forall_mem_upperChars {p : Char → Prop} (hp : ∀ c, p c → IsCaseless c) :
    (∀ c ∈ upperChars cs, p c) ↔ ∀ c ∈ cs, p c := by
  constructor
  · intro h c hc
    obtain ⟨d, hd⟩ := List.exists_mem_of_ne_nil _ (upperChar_ne_nil c)
    have hpd := h d (List.mem_flatMap.2 ⟨c, hc, hd⟩)
    exact (hp d hpd).mem_upperChar.1 hd ▸ hpd
  · intro h d hd
    obtain ⟨c, hc, hd⟩ := List.mem_flatMap.1 hd
    rw [(hp c (h c hc)).upperChar_eq] at hd
    exact List.mem_singleton.1 hd ▸ h c hc

end RowFilter.Text
