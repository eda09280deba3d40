import RowFilter.Naming
import RowFilter.Proofs.Text.Caseless
import RowFilter.Proofs.Text.Plain
import RowFilter.Proofs.Text.Split

/-!
# Camel case and snake case

A name in camel case has no underscore left, so putting it in camel case again changes nothing. The
snake case of an ASCII name that begins with a lower-case letter is cut at its capitals; the words
between the underscores are the pieces, and capitalising them puts the capitals back.
-/

namespace RowFilter

/-! ## No character is mapped to an underscore -/

namespace Text

variable {expansions : List (Nat × List Nat)} {runs : List CaseRun} {c d : Char}
  {before cs : List Char} {code : Nat}

/-- Whether no image of a case table is this code point. -/
def avoidsImage (expansions : List (Nat × List Nat)) (runs : List CaseRun) (code : Nat) : Bool :=
  (expansions.all fun expansion => !expansion.2.contains code) &&
    runs.all fun run => Nat.blt (imageLast run) code || Nat.blt code (imageFirst run)

/-- A character that is no image in a case table is the image of itself only. -/
theorem not_mem_mapCase (havoids : avoidsImage expansions runs d.toNat = true)
    (hpositive : 0 < d.toNat) (hne : d ≠ c) : d ∉ mapCase expansions runs c := by
  simp only [avoidsImage, Bool.and_eq_true, List.all_eq_true, Bool.or_eq_true, Nat.blt_eq,
    Bool.not_eq_true', List.contains_eq_mem, decide_eq_false_iff_not] at havoids
  obtain ⟨hexpansions, hruns⟩ := havoids
  unfold mapCase
  split
  · next codes hcodes =>
    intro hd
    obtain ⟨code, hcode, rfl⟩ := List.mem_map.1 hd
    obtain ⟨_, _, hlist, _⟩ := List.lookup_eq_some_iff.1 hcodes
    refine hexpansions (c.toNat, codes) (hlist ▸ List.mem_append_right _ List.mem_cons_self) ?_
    rwa [toNat_ofNat_of_pos hpositive]
  · split
    · next code hcode =>
      obtain ⟨run, hrun, himage⟩ := List.exists_of_findSome?_eq_some hcode
      intro hd
      rw [List.mem_singleton] at hd
      subst hd
      rw [toNat_ofNat_of_pos hpositive] at hruns
      have := image_bounds himage
      have := hruns run hrun
      omega
    · exact fun hd => hne (List.mem_singleton.1 hd)

theorem avoidsImage_underscore : avoidsImage upperExpansions upperRuns '_'.toNat = true ∧
    avoidsImage lowerExpansions lowerRuns '_'.toNat = true := by decide

theorem underscore_not_mem_upperChar (h : '_' ≠ c) : '_' ∉ upperChar c :=
  not_mem_mapCase avoidsImage_underscore.1 (by decide) h

theorem underscore_not_mem_lowerAfter (h : '_' ∉ cs) : '_' ∉ lowerAfter before cs := by
  induction cs generalizing before with
  | nil => exact h
  | cons c rest ih =>
    obtain ⟨hc, hrest⟩ := not_or.1 (mt List.mem_cons.2 h)
    have himage : '_' ∉ (if c = 'Σ' then
        if meetsCased before && !meetsCased rest then ['ς'] else ['σ'] else lowerChar c) := by
      split
      · split <;> decide
      · exact not_mem_mapCase avoidsImage_underscore.2 (by decide) hc
    exact fun hmem => (List.mem_append.1 hmem).elim himage (ih hrest)

/-! ## Letters and digits of ASCII -/

/-- A character of ASCII is mapped by the first run of a table if no other entry is about ASCII. -/
theorem mapCase_of_ascii (first : CaseRun) (rest : List CaseRun)
    (hexpansions : (expansions.all fun expansion => Nat.ble 128 expansion.1) = true)
    (hrest : (rest.all fun run => Nat.ble 128 run.first) = true) (hc : c.toNat < 128) :
    mapCase expansions (first :: rest) c = mapCase [] [first] c := by
  simp only [List.all_eq_true, Nat.ble_eq] at hexpansions hrest
  have hlookup : expansions.lookup c.toNat = none := by
    refine List.lookup_eq_none_iff.2 fun expansion hexpansion => bne_iff_ne.2 ?_
    have := hexpansions expansion hexpansion
    omega
  have hothers : rest.findSome? (·.image? c.toNat) = none := by
    refine List.findSome?_eq_none_iff.2 fun run hrun => if_neg ?_
    have := hrest run hrun
    omega
  rw [mapCase, mapCase, hlookup, List.lookup_nil, List.findSome?_cons, List.findSome?_cons, hothers,
    List.findSome?_nil]

/-- The run of the capitals of ASCII among the lower cases. -/
def capitalRun : CaseRun := ⟨0x41, 0x5A, 1, 32⟩

/-- The run of the small letters of ASCII among the upper cases. -/
def smallRun : CaseRun := ⟨0x61, 0x7A, 1, -32⟩

theorem lowerChar_of_ascii (hc : c.toNat < 128) : lowerChar c = mapCase [] [capitalRun] c :=
  mapCase_of_ascii capitalRun lowerRuns.tail (by decide) (by decide) hc

theorem upperChar_of_ascii (hc : c.toNat < 128) : upperChar c = mapCase [] [smallRun] c :=
  mapCase_of_ascii smallRun upperRuns.tail (by decide) (by decide) hc

theorem case_of_ascii : ∀ n : Fin 128, (Char.ofNat n.val).isAlphanum = true →
    let c := Char.ofNat n.val
    c ≠ '_' ∧ c ≠ 'Σ' ∧
      (isUppercase c = true → mapCase [] [capitalRun] c = [c.toLower] ∧
        mapCase [] [smallRun] c.toLower = [c] ∧ c.toLower.isAlphanum = true ∧
        isUppercase c.toLower = false) ∧
      (isUppercase c = false → mapCase [] [capitalRun] c = [c]) ∧
      (c.isLower = true → isUppercase c = false) := by decide

/-- A capital is the upper case of its lower case. Other letters and the digits are their own lower
case. -/
theorem case_of_isAlphanum (h : c.isAlphanum = true) :
    c ≠ '_' ∧ c ≠ 'Σ' ∧
      (isUppercase c = true → lowerChar c = [c.toLower] ∧ upperChar c.toLower = [c] ∧
        c.toLower.isAlphanum = true ∧ isUppercase c.toLower = false) ∧
      (isUppercase c = false → lowerChar c = [c]) ∧
      (c.isLower = true → isUppercase c = false) := by
  have hc := toNat_lt_of_isAlphanum h
  have hcase := case_of_ascii ⟨c.toNat, hc⟩
  simp only [Char.ofNat_toNat] at hcase
  obtain ⟨hunderscore, hsigma, hcapital, hother, hsmall⟩ := hcase h
  rw [lowerChar_of_ascii hc]
  refine ⟨hunderscore, hsigma, fun hupper => ?_, hother, hsmall⟩
  obtain ⟨hlower, hback, halphanum, hnot⟩ := hcapital hupper
  rw [upperChar_of_ascii (toNat_lt_of_isAlphanum halphanum)]
  exact ⟨hlower, hback, halphanum, hnot⟩

/-- Whether a word has no capitals, and only letters and digits of ASCII. -/
def IsLowerWord (cs : List Char) : Prop :=
  ∀ c ∈ cs, c.isAlphanum = true ∧ isUppercase c = false

theorem lowerAfter_of_isLowerWord (h : IsLowerWord cs) : lowerAfter before cs = cs := by
  induction cs generalizing before with
  | nil => rfl
  | cons c rest ih =>
    obtain ⟨⟨hc, hlower⟩, hrest⟩ := List.forall_mem_cons.1 h
    obtain ⟨-, hsigma, -, hkept, -⟩ := case_of_isAlphanum hc
    rw [lowerAfter, ih hrest, if_neg hsigma, hkept hlower]
    rfl

end Text

namespace Naming

variable {c : Char} {cs : List Char} {n : String}

/-! ## Camel case is final -/

theorem not_mem_capitalised (h : '_' ∉ cs) : '_' ∉ capitalised cs := by
  cases cs with
  | nil => exact h
  | cons c rest =>
    obtain ⟨hc, hrest⟩ := not_or.1 (mt List.mem_cons.2 h)
    exact fun hmem => (List.mem_append.1 hmem).elim (Text.underscore_not_mem_upperChar hc)
      (Text.underscore_not_mem_lowerAfter hrest)

theorem not_mem_joinWords {words : List (List Char)} (h : ∀ word ∈ words, '_' ∉ word) :
    '_' ∉ joinWords words := by
  cases words with
  | nil => exact List.not_mem_nil
  | cons first others =>
    obtain ⟨hfirst, hothers⟩ := List.forall_mem_cons.1 h
    intro hmem
    rcases List.mem_append.1 hmem with hmem | hmem
    · exact Text.underscore_not_mem_lowerAfter hfirst hmem
    · obtain ⟨word, hword, hmem⟩ := List.mem_flatMap.1 hmem
      exact not_mem_capitalised (hothers word hword) hmem

theorem camelChars_of_not_mem (h : '_' ∉ cs) : camelChars cs = cs := by
  rw [camelChars, if_neg (by simpa using h)]

theorem not_mem_camelChars (cs : List Char) : '_' ∉ camelChars cs := by
  rw [camelChars]
  split
  · have hpieces : ∀ piece ∈ Text.splitChars '_' (trimEnd '_' cs), ∀ c ∈ piece, c ≠ '_' :=
      Text.forall_mem_splitChars.2 fun c _ => eq_or_ne c '_'
    exact not_mem_joinWords fun piece hpiece hmem => hpieces piece hpiece _ hmem rfl
  · next h => simpa using h

/-- Putting a name in camel case twice is putting it in camel case once. -/
@[simp] theorem camelCase_camelCase (name : String) :
    camelCase (camelCase name) = camelCase name := by
  rw [camelCase, camelCase, String.toList_ofList, camelChars_of_not_mem (not_mem_camelChars _)]

/-! ## Camel case undoes snake case -/

/-- The words of a name in snake case: what its capitals cut it into, with each capital in lower
case. Only the first word may be empty. -/
theorem exists_words (h : ∀ c ∈ cs, c.isAlphanum = true) :
    ∃ first others, Text.splitChars '_' (snakeFrom true cs) = first :: others ∧
      Text.IsLowerWord first ∧ first ++ others.flatMap capitalised = cs := by
  induction cs with
  | nil => exact ⟨[], [], rfl, List.forall_mem_nil _, rfl⟩
  | cons c rest ih =>
    obtain ⟨hc, hrest⟩ := List.forall_mem_cons.1 h
    obtain ⟨first, others, hsplit, hfirst, hjoined⟩ := ih hrest
    obtain ⟨hne, -, hupper, -, -⟩ := Text.case_of_isAlphanum hc
    rcases Bool.eq_false_or_eq_true (Text.isUppercase c) with hcase | hcase
    · -- a capital ends the word before it and begins one
      obtain ⟨hlower, hback, halphanum, hsmall⟩ := hupper hcase
      obtain ⟨hne', -⟩ := Text.case_of_isAlphanum halphanum
      refine ⟨[], (c.toLower :: first) :: others, ?_, List.forall_mem_nil _, ?_⟩
      · simp [snakeFrom, hcase, hlower, Text.splitChars, hne', hsplit]
      · rw [List.nil_append, List.flatMap_cons, capitalised, hback,
          Text.lowerChars, Text.lowerAfter_of_isLowerWord hfirst, List.append_assoc, hjoined]
        rfl
    · refine ⟨c :: first, others, ?_, List.forall_mem_cons.2 ⟨⟨hc, hcase⟩, hfirst⟩, ?_⟩
      · simp [snakeFrom, hcase, Text.splitChars, hne, hsplit]
      · rw [List.cons_append, hjoined]

/-- No underscore ends a name in snake case. -/
theorem getLast?_snakeFrom (h : ∀ c ∈ cs, c.isAlphanum = true) :
    (snakeFrom true cs).getLast? ≠ some '_' := by
  induction cs with
  | nil => exact nofun
  | cons c rest ih =>
    obtain ⟨hc, hrest⟩ := List.forall_mem_cons.1 h
    obtain ⟨hne, -, hupper, -, -⟩ := Text.case_of_isAlphanum hc
    -- whatever stands for `c`, the last character of it is no underscore
    have hlast : ∃ start last, last ≠ '_' ∧
        snakeFrom true (c :: rest) = start ++ last :: snakeFrom true rest := by
      rcases Bool.eq_false_or_eq_true (Text.isUppercase c) with hcase | hcase
      · obtain ⟨hlower, -, halphanum, -⟩ := hupper hcase
        obtain ⟨hne', -⟩ := Text.case_of_isAlphanum halphanum
        exact ⟨['_'], c.toLower, hne', by simp [snakeFrom, hcase, hlower]⟩
      · exact ⟨[], c, hne, by simp [snakeFrom, hcase, hne]⟩
    obtain ⟨start, last, hlast, heq⟩ := hlast
    rw [heq, List.getLast?_append, List.getLast?_cons]
    cases hend : (snakeFrom true rest).getLast? with
    | none => simpa using hlast
    | some d => simpa using fun hd => ih hrest (hend.trans (congrArg some hd))

theorem trimEnd_of_getLast? (h : cs.getLast? ≠ some c) : trimEnd c cs = cs := by
  cases cs using List.reverseRecOn with
  | nil => rfl
  | append_singleton rest d =>
    have hd : d ≠ c := by simpa using h
    simp [trimEnd, hd]

theorem camelChars_snakeFrom (h : ∀ c ∈ cs, c.isAlphanum = true) :
    camelChars (snakeFrom true cs) = cs := by
  obtain ⟨first, others, hsplit, hfirst, hjoined⟩ := exists_words h
  by_cases hmem : '_' ∈ snakeFrom true cs
  · rw [camelChars, if_pos (by simpa using hmem), trimEnd_of_getLast? (getLast?_snakeFrom h),
      hsplit, joinWords, Text.lowerChars, Text.lowerAfter_of_isLowerWord hfirst, hjoined]
  · rw [camelChars_of_not_mem hmem]
    -- there is only one word, and it is the name
    rw [Text.splitChars_of_not_mem hmem, List.cons.injEq] at hsplit
    obtain ⟨hone, rfl⟩ := hsplit
    rw [hone, ← hjoined, List.flatMap_nil, List.append_nil]

/-- Whether a name begins with a lower-case letter and goes on with letters and digits, all of
ASCII. -/
structure IsFieldName (n : String) : Prop where
  lower : n.toList.head?.any Char.isLower = true
  alphanum : ∀ c ∈ n.toList, c.isAlphanum = true

instance (n : String) : Decidable (IsFieldName n) :=
  decidable_of_iff (n.toList.head?.any Char.isLower = true ∧ n.toList.all Char.isAlphanum = true)
    ⟨fun h => ⟨h.1, List.all_eq_true.1 h.2⟩, fun h => ⟨h.lower, List.all_eq_true.2 h.alphanum⟩⟩

namespace IsFieldName

/-- The first character of a name is no capital, so nothing depends on what comes before it. -/
theorem snakeFrom_eq (h : IsFieldName n) : snakeFrom false n.toList = snakeFrom true n.toList := by
  obtain ⟨hlower, halphanum⟩ := h
  cases hn : n.toList with
  | nil => rfl
  | cons c rest =>
    rw [hn] at hlower halphanum
    obtain ⟨-, -, -, -, hsmall⟩ := Text.case_of_isAlphanum (halphanum c List.mem_cons_self)
    simp [snakeFrom, hsmall (by simpa using hlower)]

theorem not_mem (h : IsFieldName n) : '_' ∉ n.toList :=
  fun hmem => absurd (h.alphanum _ hmem) (by decide)

theorem camelCase_eq (h : IsFieldName n) : camelCase n = n := by
  rw [camelCase, camelChars_of_not_mem h.not_mem, String.ofList_toList]

theorem camelCase_snakeCase (h : IsFieldName n) : camelCase (snakeCase n) = n := by
  rw [camelCase, snakeCase, String.toList_ofList, h.snakeFrom_eq, camelChars_snakeFrom h.alphanum,
    String.ofList_toList]

end IsFieldName

end Naming

end RowFilter
