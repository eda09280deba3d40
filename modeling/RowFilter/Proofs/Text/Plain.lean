import RowFilter.Text.Basic

/-!
# Plain characters

Numbers, identifiers and dates are written in ASCII letters and digits and a few signs between them.
None of these characters is a blank, a quote, a wildcard or a bracket, so such a text keeps all of
its characters when it is trimmed.
-/

namespace RowFilter.Text

/-- An ASCII letter or digit, or a sign that numbers, names and dates are written with. -/
def isPlain (c : Char) : Bool := c.isAlphanum || ['-', '+', ':', '.', '_'].contains c

/-- What no plain character is. -/
def isSpecial (c : Char) : Bool := isBlank c || ['%', ']', '[', ',', '\x27'].contains c

theorem isSpecial_ascii : ∀ n : Fin 128,
    isPlain (Char.ofNat n.val) = true → isSpecial (Char.ofNat n.val) = false := by decide

variable {c : Char} {cs : List Char}

theorem toNat_lt_of_isAlphanum (h : c.isAlphanum = true) : c.toNat < 128 := by
  change ((decide (65 ≤ c.val ∧ c.val ≤ 90) || 97 ≤ c.val && c.val ≤ 122) ||
    48 ≤ c.val && c.val ≤ 57) = true at h
  simp only [Bool.or_eq_true, Bool.and_eq_true, decide_eq_true_eq, UInt32.le_iff_toNat_le] at h
  change ((65 ≤ c.toNat ∧ c.toNat ≤ 90) ∨ (97 ≤ c.toNat ∧ c.toNat ≤ 122)) ∨
    (48 ≤ c.toNat ∧ c.toNat ≤ 57) at h
  omega

theorem toNat_lt_of_isPlain (h : isPlain c = true) : c.toNat < 128 := by
  rcases Bool.or_eq_true_iff.1 h with h | h
  · exact toNat_lt_of_isAlphanum h
  · have hmem := List.contains_iff_mem.1 h
    simp only [List.mem_cons, List.not_mem_nil, or_false] at hmem
    rcases hmem with rfl | rfl | rfl | rfl | rfl <;> decide

theorem isSpecial_of_isPlain (h : isPlain c = true) : isSpecial c = false := by
  have hascii := isSpecial_ascii ⟨c.toNat, toNat_lt_of_isPlain h⟩
  simp only [Char.ofNat_toNat] at hascii
  exact hascii h

theorem isBlank_of_isPlain (h : isPlain c = true) : isBlank c = false :=
  (Bool.or_eq_false_iff.1 (isSpecial_of_isPlain h)).1

theorem toNat_of_isDigit (h : c.isDigit = true) : 48 ≤ c.toNat ∧ c.toNat ≤ 57 := by
  change (48 ≤ c.val && c.val ≤ 57) = true at h
  simp only [Bool.and_eq_true, decide_eq_true_eq, UInt32.le_iff_toNat_le] at h
  exact h

theorem isPlain_of_isDigit (h : c.isDigit = true) : isPlain c = true := by
  simp [isPlain, Char.isAlphanum, h]

/-- A text is of ASCII digits, or some character of it is none. -/
theorem isDigit_or_foreign (cs : List Char) :
    (∀ c ∈ cs, c.isDigit = true) ∨ ∃ c ∈ cs, c.isDigit = false := by
  rcases Bool.eq_false_or_eq_true (cs.all Char.isDigit) with hall | hnot
  · exact .inl (List.all_eq_true.1 hall)
  · exact .inr (by simpa using hnot)

/-- Whether all characters of a text are plain. -/
def Plain (cs : List Char) : Prop := ∀ c ∈ cs, isPlain c = true

theorem plain_of_all (h : cs.all isPlain = true) : Plain cs := List.all_eq_true.1 h

theorem plain_nil : Plain [] := nofun

theorem Plain.cons (hc : isPlain c = true) (h : Plain cs) : Plain (c :: cs) :=
  List.forall_mem_cons.2 ⟨hc, h⟩

theorem Plain.append {ds : List Char} (h : Plain cs) (h' : Plain ds) : Plain (cs ++ ds) :=
  fun c hc => (List.mem_append.1 hc).elim (h c) (h' c)

theorem plain_of_digits (h : ∀ c ∈ cs, c.isDigit = true) : Plain cs :=
  fun c hc => isPlain_of_isDigit (h c hc)

/-- A character that is no blank is not trimmed. -/
theorem trimStartChars_cons (h : isBlank c = false) (cs : List Char) :
    trimStartChars (c :: cs) = c :: cs := by
  simp [trimStartChars, h]

theorem trimStartChars_of_plain (h : Plain cs) : trimStartChars cs = cs := by
  cases cs with
  | nil => rfl
  | cons c rest => exact trimStartChars_cons (isBlank_of_isPlain (h c List.mem_cons_self)) rest

/-- Trimming leaves a plain text as it is. -/
theorem trimChars_of_plain (h : Plain cs) : trimChars cs = cs := by
  have hreverse : Plain cs.reverse := fun c hc => h c (List.mem_reverse.1 hc)
  rw [trimChars, trimStartChars_of_plain h, trimStartChars_of_plain hreverse, List.reverse_reverse]

end RowFilter.Text
