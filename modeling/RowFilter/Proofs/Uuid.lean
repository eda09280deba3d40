import Mathlib.Data.Nat.Digits.Defs
import RowFilter.Proofs.Text.Plain
import RowFilter.Proofs.Text.Split
import RowFilter.Uuid

/-!
# Identifiers read back from their texts

The five groups of an identifier are the groups that its text is split into, and together they are
its thirty-two digits.
-/

namespace RowFilter

namespace Uuid

variable {n : Nat} {c : Char}

/-! ## Hexadecimal digits -/

theorem digitChar_spec : ∀ d : Fin 16, hexValue? d.val.digitChar = some d.val ∧
    Text.isPlain d.val.digitChar = true ∧ d.val.digitChar ≠ '-' := by decide

theorem ofHexFrom_append (cs ds : List Char) :
    ofHexFrom n (cs ++ ds) = (ofHexFrom n cs).bind fun m => ofHexFrom m ds := by
  induction cs generalizing n with
  | nil => rfl
  | cons c cs ih =>
    rw [List.cons_append, ofHexFrom, ofHexFrom]
    cases hexValue? c with
    | none => rfl
    | some d => exact ih

theorem ofHexFrom_digitChar {d : Nat} (hd : d < 16) :
    ofHexFrom n [d.digitChar] = some (16 * n + d) := by
  rw [ofHexFrom, (digitChar_spec ⟨d, hd⟩).1]
  rfl

/-- A number is read back from its hexadecimal digits. -/
theorem ofHexFrom_toDigits (n : Nat) : ofHexFrom 0 (Nat.toDigits 16 n) = some n := by
  -- the digits of `n / 16` stand in front of the last one
  induction n using Nat.strongRecOn with
  | ind n ih =>
    by_cases h : n < 16
    · rw [Nat.toDigits_of_lt_base h, ofHexFrom_digitChar h, Nat.mul_zero, Nat.zero_add]
    · have hlast : n % 16 < 16 := Nat.mod_lt n (by decide)
      rw [Nat.toDigits_of_base_le (by decide) (Nat.le_of_not_lt h), ofHexFrom_append,
        ih (n / 16) (by omega), Option.bind_some, ofHexFrom_digitChar hlast, Nat.div_add_mod]

theorem ofHexFrom_zeros (k : Nat) (cs : List Char) :
    ofHexFrom 0 (List.replicate k '0' ++ cs) = ofHexFrom 0 cs := by
  induction k with
  | zero => rfl
  | succ k ih => exact ih

theorem exists_digitChar_of_mem (h : c ∈ Nat.toDigits 16 n) : ∃ d : Fin 16, c = d.val.digitChar := by
  induction n using Nat.strongRecOn with
  | ind n ih =>
    by_cases hn : n < 16
    · rw [Nat.toDigits_of_lt_base hn, List.mem_singleton] at h
      exact ⟨⟨n, hn⟩, h⟩
    · rw [Nat.toDigits_of_base_le (by decide) (Nat.le_of_not_lt hn)] at h
      rcases List.mem_append.1 h with h | h
      · exact ih (n / 16) (by omega) h
      · exact ⟨⟨n % 16, Nat.mod_lt n (by decide)⟩, List.mem_singleton.1 h⟩

/-! ## The text -/

variable (u : Uuid)

theorem length_hexDigits : u.hexDigits.length = 32 := by
  have hlength : (Nat.toDigits 16 u.bits.toNat).length ≤ 32 :=
    Nat.toDigits_length 16 u.bits.toNat 32 (by decide) u.bits.isLt
  simp only [hexDigits, Text.padLeft, List.length_append, List.length_replicate]
  omega

variable {u}

theorem spec_of_mem_hexDigits (h : c ∈ u.hexDigits) : Text.isPlain c = true ∧ c ≠ '-' := by
  rcases List.mem_append.1 h with h | h
  · rw [List.eq_of_mem_replicate h]
    decide
  · obtain ⟨d, rfl⟩ := exists_digitChar_of_mem h
    exact (digitChar_spec d).2

variable (u)

theorem readSimple?_hexDigits : readSimple? u.hexDigits = some u := by
  rw [readSimple?, if_pos u.length_hexDigits, hexDigits, Text.padLeft, ofHexFrom_zeros,
    ofHexFrom_toDigits]
  simp

theorem length_chars : u.chars.length = 36 := by
  have hlength := u.length_hexDigits
  simp only [chars, List.length_append, List.length_cons, List.length_take, List.length_drop]
  omega

/-- The groups make up all digits. -/
theorem hexDigits_groups :
    u.hexDigits.take 8 ++ (u.hexDigits.drop 8).take 4 ++ (u.hexDigits.drop 12).take 4 ++
      (u.hexDigits.drop 16).take 4 ++ u.hexDigits.drop 20 = u.hexDigits := by
  have h12 : u.hexDigits.take 12 = u.hexDigits.take 8 ++ (u.hexDigits.drop 8).take 4 :=
    List.take_add (i := 8) (j := 4)
  have h16 : u.hexDigits.take 16 = u.hexDigits.take 12 ++ (u.hexDigits.drop 12).take 4 :=
    List.take_add (i := 12) (j := 4)
  have h20 : u.hexDigits.take 20 = u.hexDigits.take 16 ++ (u.hexDigits.drop 16).take 4 :=
    List.take_add (i := 16) (j := 4)
  rw [← h12, ← h16, ← h20, List.take_append_drop]

/-- A text splits into its groups at the hyphens. -/
theorem splitChars_chars : Text.splitChars '-' u.chars =
    [u.hexDigits.take 8, (u.hexDigits.drop 8).take 4, (u.hexDigits.drop 12).take 4,
      (u.hexDigits.drop 16).take 4, u.hexDigits.drop 20] := by
  have hgroup {cs : List Char} (h : cs ⊆ u.hexDigits) : '-' ∉ cs := fun hmem =>
    (spec_of_mem_hexDigits (h hmem)).2 rfl
  have hslice (k m : Nat) : '-' ∉ (u.hexDigits.drop k).take m :=
    hgroup fun _ hc => List.mem_of_mem_drop (List.mem_of_mem_take hc)
  simp only [chars, List.append_assoc, List.cons_append]
  rw [Text.splitChars_append (hgroup (List.take_subset 8 _)), Text.splitChars_append (hslice 8 4),
    Text.splitChars_append (hslice 12 4), Text.splitChars_append (hslice 16 4),
    Text.splitChars_of_not_mem (hgroup (List.drop_subset 20 _))]

theorem readHyphenated?_chars : readHyphenated? u.chars = some u := by
  have hlength := u.length_hexDigits
  rw [readHyphenated?, splitChars_chars]
  simp only [hexDigits_groups, List.length_take, List.length_drop, hlength]
  exact u.readSimple?_hexDigits

theorem plain_text : Text.Plain u.text.toList := by
  have hgroup {cs : List Char} (h : cs ⊆ u.hexDigits) : Text.Plain cs :=
    fun _ hc => (spec_of_mem_hexDigits (h hc)).1
  have hslice (k m : Nat) : Text.Plain ((u.hexDigits.drop k).take m) :=
    hgroup fun _ hc => List.mem_of_mem_drop (List.mem_of_mem_take hc)
  rw [text, String.toList_ofList, chars]
  exact ((((hgroup (List.take_subset 8 _)).append (.cons (by decide) (hslice 8 4))).append
    (.cons (by decide) (hslice 12 4))).append (.cons (by decide) (hslice 16 4))).append
    (.cons (by decide) (hgroup (List.drop_subset 20 _)))

/-- **An identifier is read back from its text.** -/
theorem read?_text : read? u.text.toList = some u := by
  have hsimple : readSimple? u.chars = none := by
    rw [readSimple?, if_neg (by rw [length_chars]; decide)]
  rw [text, String.toList_ofList, read?, hsimple, readHyphenated?_chars]
  rfl

end Uuid

end RowFilter
