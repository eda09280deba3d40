import RowFilter.Proofs.Number.Value

/-!
# Equal values and values that compare equal

Two values are equal if and only if they are of one kind and compare equal, or are both absent.
Across kinds values can compare equal, such as an integer and a wider one, without being equal; and
an absent value equals another without comparing with it.
-/

namespace RowFilter

open Number (BinaryFloat)
open Civil (Date Time DateTime Instant)

/-! ## Orders that tell values apart -/

instance : Std.LawfulEqCmp Uuid.order where
  eq_of_compare {a b} h := by
    have hbits : a.bits = b.bits := BitVec.eq_of_toNat_eq (Std.LawfulEqOrd.eq_of_compare h)
    cases a
    exact congrArg Uuid.mk hbits

instance : Std.LawfulEqCmp Date.order where
  eq_of_compare {a b} h := by
    have hdays : a.days = b.days := Std.LawfulEqOrd.eq_of_compare h
    cases a
    exact congrArg Date.mk hdays

instance : Std.LawfulEqCmp Time.order where
  eq_of_compare {a b} h := by
    obtain ⟨hsecond, hnanos⟩ := Ordering.then_eq_eq.1 h
    have hsecond : a.second = b.second := Fin.ext (Std.LawfulEqOrd.eq_of_compare hsecond)
    have hnanos : a.nanos = b.nanos := Fin.ext (Std.LawfulEqOrd.eq_of_compare hnanos)
    cases a
    cases b
    exact Time.mk.injEq .. ▸ ⟨hsecond, hnanos⟩

instance : Std.LawfulEqCmp DateTime.order where
  eq_of_compare {a b} h := by
    obtain ⟨hdate, htime⟩ := Ordering.then_eq_eq.1 h
    have hdate : a.date = b.date := Std.LawfulEqCmp.eq_of_compare hdate
    have htime : a.time = b.time := Std.LawfulEqCmp.eq_of_compare htime
    cases a
    cases b
    exact DateTime.mk.injEq .. ▸ ⟨hdate, htime⟩

instance : Std.LawfulEqCmp Instant.order where
  eq_of_compare {a b} h := by
    have hutc : a.utc = b.utc := Std.LawfulEqCmp.eq_of_compare h
    cases a
    exact congrArg Instant.mk hutc

/-- Floating-point numbers that compare equal with a third one compare equal. -/
theorem Number.BinaryFloat.compare?_eq_trans {x y z : BinaryFloat}
    (hxy : x.compare? y = some .eq) (hyz : y.compare? z = some .eq) :
    x.compare? z = some .eq := by
  have hvalue : ∀ {x : BinaryFloat}, x ≠ .nan → ∃ p, x.value? = some p := by
    intro x hx
    cases x with
    | nan => exact absurd rfl hx
    | infinite | finite => exact ⟨_, rfl⟩
  have hnumber : ∀ {x y : BinaryFloat}, x.compare? y = some .eq → x ≠ .nan ∧ y ≠ .nan := by
    intro x y h
    rw [← not_or, ← compare?_eq_none, h]
    exact Option.some_ne_none _
  obtain ⟨p, hp⟩ := hvalue (hnumber hxy).1
  obtain ⟨q, hq⟩ := hvalue (hnumber hxy).2
  obtain ⟨r, hr⟩ := hvalue (hnumber hyz).2
  rw [compare?_eq hp hq, Option.some.injEq, compare_eq_iff_eq] at hxy
  rw [compare?_eq hq hr, Option.some.injEq, compare_eq_iff_eq] at hyz
  rw [compare?_eq hp hr, Option.some.injEq, compare_eq_iff_eq, hxy, hyz]

/-! ## Equality -/

theorem beq_iff_of_cmp {α β : Type} (cmp : α → α → Ordering) [Std.LawfulEqCmp cmp] [BEq β]
    [LawfulBEq β] {a b : β} {x y : α} (h : a = b ↔ x = y) :
    (a == b) = true ↔ some (cmp x y) = some .eq := by
  rw [beq_iff_eq, h, Option.some.injEq, Std.LawfulEqCmp.compare_eq_iff_eq]

namespace Literal

variable {a b c : Literal} {kind : ScalarKind}

/-- Within a kind values are equal if they compare equal. -/
theorem equal_iff_of_kind (ha : a.kind? = some kind) (hb : b.kind? = some kind) :
    a.equal b = true ↔ a.collate b = some .eq := by
  cases a with
  | string | char | i8 | i16 | i32 | i64 | bigInt | bool | uuid | date | time | dateTime | instant
  | enum =>
    cases ha
    cases b <;> cases hb
    exact beq_iff_of_cmp _ (by
      simp [Int8.toInt_inj, Int16.toInt_inj, Int32.toInt_inj, Int64.toInt_inj])
  | offsetDateTime o =>
    cases ha
    cases b <;> cases hb
    exact beq_iff_of_cmp Instant.order Iff.rfl
  -- decimals and floating-point numbers are equal by their order
  | decimal d =>
    cases ha
    cases b <;> cases hb
    exact beq_iff_eq.trans (Option.some_inj.symm)
  | f32 x | f64 x =>
    cases ha
    cases b <;> cases hb
    exact beq_iff_eq
  | null => cases ha

theorem some_eq_trans {α : Type} {cmp : α → α → Ordering} [Std.TransCmp cmp] {x y z : α}
    (hxy : some (cmp x y) = some .eq) (hyz : some (cmp y z) = some .eq) :
    some (cmp x z) = some .eq :=
  congrArg some (Std.TransCmp.eq_trans (Option.some_inj.1 hxy) (Option.some_inj.1 hyz))

/-- Within a kind values that compare equal with a third one compare equal. -/
theorem collate_eq_trans (ha : a.kind? = some kind) (hb : b.kind? = some kind)
    (hc : c.kind? = some kind) (hab : a.collate b = some .eq) (hbc : b.collate c = some .eq) :
    a.collate c = some .eq := by
  cases a <;> cases ha <;> cases b <;> cases hb <;> cases c <;> cases hc <;>
    first
    | exact some_eq_trans hab hbc
    | exact BinaryFloat.compare?_eq_trans hab hbc

theorem kind?_eq_none : a.kind? = none ↔ a = null := by
  constructor
  · intro h
    cases a <;> cases h
    rfl
  · rintro rfl
    rfl

/-- **Equality is comparing equal within a kind**, and absence. -/
theorem equal_iff : a.equal b = true ↔
    a.kind? = b.kind? ∧ (a.collate b = some .eq ∨ a = null) := by
  cases hkind : a.kind? with
  | none =>
    obtain rfl := kind?_eq_none.1 hkind
    constructor
    · intro h
      exact ⟨hkind ▸ kind_eq_of_equal h, .inr rfl⟩
    · rintro ⟨h, -⟩
      obtain rfl := kind?_eq_none.1 h.symm
      rfl
  | some kind =>
    have hpresent : a ≠ null := fun h => by
      rw [h] at hkind
      cases hkind
    rw [or_iff_left hpresent]
    constructor
    · intro h
      have hsame := (kind_eq_of_equal h).symm.trans hkind
      exact ⟨hsame.symm, (equal_iff_of_kind hkind hsame).1 h⟩
    · rintro ⟨hsame, h⟩
      exact (equal_iff_of_kind hkind hsame.symm).2 h

end Literal

end RowFilter
