import RowFilter.Proofs.Cast
import RowFilter.Proofs.Literal.Ranking

/-!
# One value, written in several ways

A decimal can have more places or fewer, and a point in time another offset, without being another
value. Such values compare alike with all that a filter value of their type is cast to. With a
floating-point number they need not, since a decimal is rounded as it is written.
-/

namespace RowFilter

open Number (Decimal)
open Civil (OffsetDateTime)

namespace Literal

variable {x y z l : Literal} {kind : ScalarKind}

/-- Whether two literals are one value. -/
inductive Same : Literal → Literal → Prop where
  | refl (l : Literal) : Same l l
  | decimal {a b : Decimal} (h : a.order b = .eq) : Same (.decimal a) (.decimal b)
  | offsetDateTime {a b : OffsetDateTime} (h : a.instant = b.instant) :
      Same (.offsetDateTime a) (.offsetDateTime b)

theorem Same.symm (h : x.Same y) : y.Same x := by
  cases h with
  | refl => exact .refl _
  | decimal h => exact .decimal (Std.OrientedCmp.eq_comm.1 h)
  | offsetDateTime h => exact .offsetDateTime h.symm

theorem Same.trans (hxy : x.Same y) (hyz : y.Same z) : x.Same z := by
  cases hxy with
  | refl => exact hyz
  | decimal h =>
    cases hyz with
    | refl => exact .decimal h
    | decimal h' => exact .decimal (Std.TransCmp.eq_trans h h')
  | offsetDateTime h =>
    cases hyz with
    | refl => exact .offsetDateTime h
    | offsetDateTime h' => exact .offsetDateTime (h.trans h')

/-- Values that count as equal are one value, unless they are floating-point numbers. -/
theorem Same.of_equal (hkind : kind.isOrdered = true) (hx : x.kind? = some kind)
    (h : x.equal y = true) : x.Same y := by
  unfold equal at h
  split at h
  · exact .decimal (beq_iff_eq.1 h)
  · cases hx
    cases hkind
  · cases hx
    cases hkind
  · exact .offsetDateTime (beq_iff_eq.1 h)
  · rw [beq_iff_eq.1 h]
    exact .refl _

theorem Same.isNull_eq (h : x.Same y) : x.isNull = y.isNull := by
  cases h <;> rfl

theorem Same.characters_eq (h : x.Same y) : x.characters? = y.characters? := by
  cases h <;> rfl

theorem Same.timeOfDay_eq (h : x.Same y) : x.timeOfDay? = y.timeOfDay? := by
  cases h with
  | refl | decimal => rfl
  | offsetDateTime h => simp [timeOfDay?, h]

/-- Whether a literal is what a filter value may be cast to for a kind: a value of the kind, none,
or the text itself where the kind has no caster. -/
def IsCastTo (kind : ScalarKind) (l : Literal) : Prop := l.Fits kind ∨ ∃ s, l = .string s

/-- One value in two writings compares alike with whatever its kind is compared with. -/
theorem Same.collate_eq (h : x.Same y) (hx : x.kind? = some kind) (hl : l.IsCastTo kind) :
    x.collate l = y.collate l := by
  cases h with
  | refl => rfl
  | decimal h =>
    cases hx
    rcases hl with (rfl | hl) | ⟨s, rfl⟩
    · rfl
    · cases l <;> cases hl
      exact congrArg some (Std.TransCmp.congr_left h)
    · rfl
  | offsetDateTime h =>
    cases l <;>
      simp [collate, collateAcrossKinds, Numeric.ofLiteral?, characters?, instant?, h]

end Literal

/-! ## Casts -/

namespace Casters

variable {casters : Casters} {zone : Civil.LocalZone} {type : ScalarType} {value : Json}
  {values : List Json} {l : Literal} {ls : List Literal}

/-- Whatever casters are registered, a text is cast as by the built-in ones or not at all. -/
theorem isCastTo_of_castText {raw : String} (htype : type.kind ≠ .other)
    (h : casters.castText zone type raw = .ok l) : l.IsCastTo type.kind := by
  by_cases hregistered : casters.isRegistered type.kind = true
  · have hbuiltIn : builtIn.castText zone type raw = .ok l := by
      rw [castText, cast, if_pos (isRegistered_builtIn htype)]
      rwa [castText, cast, if_pos hregistered] at h
    exact .inl (fits_of_castText htype hbuiltIn)
  · rw [castText, cast, if_neg hregistered] at h
    cases h
    exact .inr ⟨raw, rfl⟩

theorem isCastTo_of_castValue (htype : type.kind ≠ .other)
    (h : casters.castValue zone type value = .ok l) : l.IsCastTo type.kind := by
  cases value with
  | null =>
    cases h
    exact .inl Literal.fits_null
  | str | num | bool => exact isCastTo_of_castText htype h
  | arr | obj => cases h

theorem isCastTo_of_castLeaf (htype : type.kind ≠ .other)
    (h : casters.castLeaf zone type value = .ok l) : l.IsCastTo type.kind := by
  unfold castLeaf at h
  split at h
  · split at h
    · cases h
      exact .inl (.inr rfl)
    · exact isCastTo_of_castValue htype h
  · exact isCastTo_of_castValue htype h

theorem isCastTo_of_castList (htype : type.kind ≠ .other)
    (h : casters.castList zone type values = .ok ls) : ∀ l ∈ ls, l.IsCastTo type.kind := by
  intro l hl
  obtain ⟨leaf, _, hleaf⟩ := exists_of_forall₂ (forall₂_of_castList h).flip hl
  exact isCastTo_of_castLeaf htype hleaf

end Casters

end RowFilter
