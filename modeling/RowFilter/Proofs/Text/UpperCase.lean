import RowFilter.Proofs.SortedTable
import RowFilter.Text.Case

/-!
# Upper case is final

Text in upper case stays as it is when it is put in upper case again: no character of an image has
an upper case of its own. The tables are checked run against run, so that no image of a run has to
be looked at by itself.
-/

namespace RowFilter.Text

/-- Whether a code point has no other upper case. -/
def isUpperCode (code : Nat) : Bool :=
  (upperExpansions.lookup code).isNone && (upperRuns.findSome? (·.image? code)).isNone

/-- The first image of a run. -/
def imageFirst (run : CaseRun) : Nat := ((run.first : Int) + run.delta).toNat

/-- The last image of a run. -/
def imageLast (run : CaseRun) : Nat := ((run.last : Int) + run.delta).toNat

/-- Whether no image of a run belongs to another run: the images lie before it or behind it, or are
those between which it lies. -/
def avoids (run other : CaseRun) : Bool :=
  Nat.blt (imageLast run) other.first || Nat.blt other.last (imageFirst run) ||
    other.step == 2 && (run.step == 2 || run.first == run.last) &&
      (imageFirst run + other.first) % 2 == 1 && decide (0 ≤ (run.first : Int) + run.delta)

theorem upperRuns_sorted : upperRuns.Pairwise (Precedes CaseRun.first CaseRun.last) := by
  have hchain : upperRuns.IsChain (Precedes CaseRun.first CaseRun.last) := by decide +kernel
  exact hchain.pairwise

theorem upperExpansions_sorted : upperExpansions.Pairwise (Precedes Prod.fst Prod.fst) := by
  have hchain : upperExpansions.IsChain (Precedes Prod.fst Prod.fst) := by decide +kernel
  exact hchain.pairwise

theorem avoids_runs : (upperRuns.all fun run => upperRuns.all (avoids run)) = true := by
  have hmeeting : (upperRuns.all fun run => allMeeting CaseRun.first CaseRun.last (avoids run)
      (imageFirst run) (imageLast run) 8 upperRuns) = true := by decide +kernel
  rw [List.all_eq_true] at hmeeting ⊢
  intro run hrun
  refine List.all_eq_true.2 (forall_of_allMeeting upperRuns_sorted ?_ (hmeeting run hrun))
  rintro other (hbefore | hbehind)
  · simp [avoids, hbefore]
  · simp [avoids, hbehind]

theorem avoids_expansions : (upperRuns.all fun run => upperExpansions.all fun expansion =>
    Nat.blt (imageLast run) expansion.1 || Nat.blt expansion.1 (imageFirst run)) = true := by
  have hmeeting : (upperRuns.all fun run => allMeeting Prod.fst Prod.fst
      (fun expansion => Nat.blt (imageLast run) expansion.1 || Nat.blt expansion.1 (imageFirst run))
      (imageFirst run) (imageLast run) 7 upperExpansions) = true := by decide
  rw [List.all_eq_true] at hmeeting ⊢
  intro run hrun
  refine List.all_eq_true.2 (forall_of_allMeeting upperExpansions_sorted ?_ (hmeeting run hrun))
  rintro expansion (hbefore | hbehind)
  · simp [hbefore]
  · simp [hbehind]

/-- A code point has no other upper case if neither table has an entry at it. -/
theorem isUpperCode_of_tables {code : Nat}
    (hexpansions : ∀ expansion ∈ upperExpansions, (code != expansion.1) = true)
    (hruns : ∀ run ∈ upperRuns, (run.image? code).isNone = true) : isUpperCode code = true := by
  rw [isUpperCode, Bool.and_eq_true, Option.isNone_iff_eq_none, Option.isNone_iff_eq_none]
  exact ⟨List.lookup_eq_none_iff.2 hexpansions, List.findSome?_eq_none_iff.2 fun run hrun =>
    Option.isNone_iff_eq_none.1 (hruns run hrun)⟩

theorem isUpperCode_expansions :
    (upperExpansions.all fun expansion => expansion.2.all isUpperCode) = true := by
  have hmeeting : (upperExpansions.all fun expansion => expansion.2.all fun code =>
      allMeeting Prod.fst Prod.fst (fun expansion => code != expansion.1) code code 7
          upperExpansions &&
        allMeeting CaseRun.first CaseRun.last (fun run => (run.image? code).isNone) code code 8
          upperRuns) = true := by decide +kernel
  simp only [List.all_eq_true, Bool.and_eq_true] at hmeeting ⊢
  intro expansion hexpansion code hcode
  obtain ⟨hexpansions, hruns⟩ := hmeeting expansion hexpansion code hcode
  refine isUpperCode_of_tables (forall_of_allMeeting upperExpansions_sorted ?_ hexpansions)
    (forall_of_allMeeting upperRuns_sorted ?_ hruns)
  · intro other hother
    exact bne_iff_ne.2 (by omega)
  · intro run hrun
    exact Option.isNone_iff_eq_none.2 (if_neg (by omega))

theorem isUpperCode_zero : isUpperCode 0 = true := by decide

variable {run other : CaseRun} {code image : Nat} {c : Char}

theorem image_bounds (h : run.image? code = some image) :
    imageFirst run ≤ image ∧ image ≤ imageLast run := by
  unfold CaseRun.image? at h
  split at h
  · cases h
    unfold imageFirst imageLast
    omega
  · cases h

theorem image?_eq_none_of_avoids (h : run.image? code = some image)
    (havoids : avoids run other = true) : other.image? image = none := by
  obtain ⟨hfirst, hlast⟩ := image_bounds h
  simp only [avoids, Bool.or_eq_true, Bool.and_eq_true, Nat.blt_eq, beq_iff_eq,
    decide_eq_true_eq] at havoids
  unfold CaseRun.image? at h ⊢
  refine if_neg ?_
  rintro ⟨hother, hother', hstep⟩
  rcases havoids with (hbefore | hbehind) | ⟨⟨⟨htwo, hrun⟩, hparity⟩, hpositive⟩
  · omega
  · omega
  · -- the images of `run` have one parity, and the characters of `other` have the other
    split at h
    · next hcode =>
      cases h
      rw [htwo] at hstep
      unfold imageFirst at hparity
      rcases hrun with hrun | hrun
      · rw [hrun] at hcode
        omega
      · omega
    · cases h

theorem isUpperCode_image (hrun : run ∈ upperRuns) (h : run.image? code = some image) :
    isUpperCode image = true := by
  obtain ⟨hfirst, hlast⟩ := image_bounds h
  refine isUpperCode_of_tables ?_ ?_
  · intro expansion hexpansion
    have havoids := List.all_eq_true.1 (List.all_eq_true.1 avoids_expansions run hrun) _ hexpansion
    simp only [Bool.or_eq_true, Nat.blt_eq] at havoids
    exact bne_iff_ne.2 (by omega)
  · intro other hother
    exact Option.isNone_iff_eq_none.2 (image?_eq_none_of_avoids h
      (List.all_eq_true.1 (List.all_eq_true.1 avoids_runs run hrun) other hother))

theorem upperChar_of_isUpperCode (h : isUpperCode c.toNat = true) : upperChar c = [c] := by
  rw [isUpperCode, Bool.and_eq_true, Option.isNone_iff_eq_none, Option.isNone_iff_eq_none] at h
  rw [upperChar, mapCase, h.1, h.2]

/-- What is no character becomes the null character, which has no upper case either. -/
theorem upperChar_ofNat (h : isUpperCode code = true) :
    upperChar (Char.ofNat code) = [Char.ofNat code] := by
  refine upperChar_of_isUpperCode ?_
  by_cases hvalid : code.isValidChar
  · rw [Char.ofNat, dif_pos hvalid]
    exact h
  · rw [Char.ofNat, dif_neg hvalid]
    exact isUpperCode_zero

theorem mem_upperExpansions {codes : List Nat} (h : upperExpansions.lookup code = some codes) :
    (code, codes) ∈ upperExpansions := by
  obtain ⟨before, after, hlist, _⟩ := List.lookup_eq_some_iff.1 h
  exact hlist ▸ List.mem_append_right _ List.mem_cons_self

theorem upperExpansions_ne_nil : (upperExpansions.all fun e => !e.2.isEmpty) = true := by
  decide

/-- No character vanishes in upper case. -/
theorem upperChar_ne_nil (c : Char) : upperChar c ≠ [] := by
  unfold upperChar mapCase
  split
  · next codes hcodes =>
    have hcodes : codes.isEmpty = false := by
      simpa using List.all_eq_true.1 upperExpansions_ne_nil _ (mem_upperExpansions hcodes)
    cases codes with
    | nil => cases hcodes
    | cons code codes => exact List.cons_ne_nil _ _
  · split <;> exact List.cons_ne_nil _ _

theorem upperChar_image (c : Char) : ∀ i ∈ upperChar c, upperChar i = [i] := by
  intro i hi
  rw [upperChar, mapCase] at hi
  split at hi
  · next codes hcodes =>
    obtain ⟨code, hcode, rfl⟩ := List.mem_map.1 hi
    have hexpansion := mem_upperExpansions hcodes
    exact upperChar_ofNat
      (List.all_eq_true.1 (List.all_eq_true.1 isUpperCode_expansions _ hexpansion) code hcode)
  · next hexpansion =>
    split at hi
    · next code hcode =>
      obtain ⟨run, hrun, himage⟩ := List.exists_of_findSome?_eq_some hcode
      rw [List.mem_singleton.1 hi]
      exact upperChar_ofNat (isUpperCode_image hrun himage)
    · next hrun =>
      rw [List.mem_singleton.1 hi]
      exact upperChar_of_isUpperCode (by rw [isUpperCode, hexpansion, hrun]; rfl)

theorem upperChars_of_upper {cs : List Char} (h : ∀ c ∈ cs, upperChar c = [c]) :
    upperChars cs = cs := by
  unfold upperChars
  induction cs with
  | nil => rfl
  | cons c rest ih =>
    obtain ⟨hc, hrest⟩ := List.forall_mem_cons.1 h
    rw [List.flatMap_cons, hc, ih hrest, List.singleton_append]

theorem upperChars_upperChars (cs : List Char) : upperChars (upperChars cs) = upperChars cs := by
  refine upperChars_of_upper fun i hi => ?_
  obtain ⟨c, _, hi⟩ := List.mem_flatMap.1 hi
  exact upperChar_image c i hi

/-- Putting text in upper case twice is putting it in upper case once. -/
@[simp] theorem upper_upper (s : String) : upper (upper s) = upper s := by
  rw [upper, upper, String.toList_ofList, upperChars_upperChars]

end RowFilter.Text
