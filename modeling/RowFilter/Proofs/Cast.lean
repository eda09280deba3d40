import RowFilter.Cast
import RowFilter.Proofs.Literal.Kind
import RowFilter.Proofs.Query.Truth
import RowFilter.Proofs.Success

/-!
# Casts

A cast to a type gives literals of the type's kind, or none where a text names no member of an
enumerated type. Lists are cast leaf by leaf.
-/

namespace RowFilter

namespace Json

mutual

/-- What a value holds that is not a list. -/
def leaves : Json → List Json
  | arr items => leavesOfItems items
  | value => [value]

/-- What the items of a list hold that are not lists. -/
def leavesOfItems : List Json → List Json
  | [] => []
  | value :: rest => value.leaves ++ leavesOfItems rest

end

end Json

/-! ## Kinds -/

/-- A text is cast to a value of the kind of the type, if it stands for one. -/
theorem Cast.kind_of_toLiteral {zone : Civil.LocalZone} {type : ScalarType} {raw : String}
    {l : Literal} (htype : type.kind ≠ .other) (h : toLiteral zone type raw = .ok (some l)) :
    l.kind? = some type.kind := by
  cases type with
  | string | bool =>
    cases h
    rfl
  | char =>
    dsimp only [toLiteral] at h
    split at h <;> cases h
    rfl
  | i8 | i16 | i32 | i64 | bigInt | decimal | f32 | f64 | uuid | time | offsetDateTime =>
    obtain ⟨value, _, h⟩ := bind_eq_ok.1 h
    cases h
    rfl
  | date | dateTime | instant =>
    obtain ⟨stamp, _, h⟩ := bind_eq_ok.1 h
    obtain ⟨value, _, h⟩ := bind_eq_ok.1 h
    cases h
    rfl
  | enum e =>
    obtain ⟨member, _, rfl⟩ := Option.map_eq_some_iff.1 (Except.ok.inj h)
    rfl
  | other name => exact absurd rfl htype

namespace Casters

variable {zone : Civil.LocalZone} {type : ScalarType} {value : Json} {values : List Json}
  {l : Literal} {ls : List Literal}

/-- A list is cast leaf by leaf. -/
theorem castList_eq_mapM (casters : Casters) (zone : Civil.LocalZone) (type : ScalarType)
    (values : List Json) :
    casters.castList zone type values =
      (Json.leavesOfItems values).mapM (casters.castLeaf zone type) := by
  refine castList.induct
    (fun value => casters.castItem zone type value = value.leaves.mapM (casters.castLeaf zone type))
    (fun values => casters.castList zone type values =
      (Json.leavesOfItems values).mapM (casters.castLeaf zone type)) ?_ ?_ ?_ ?_ values
  · exact fun items ih => ih
  · intro value hlist
    rw [castItem.eq_2 _ _ _ _ hlist, Json.leaves.eq_2 _ hlist]
    rfl
  · rfl
  · intro value rest ihvalue ihrest
    rw [castList, ihvalue, ihrest, Json.leavesOfItems, List.mapM_append]
    rfl

theorem forall₂_of_castList {casters : Casters} (h : casters.castList zone type values = .ok ls) :
    List.Forall₂ (fun value l => casters.castLeaf zone type value = .ok l)
      (Json.leavesOfItems values) ls :=
  forall₂_of_mapM (castList_eq_mapM casters zone type values ▸ h)

theorem isRegistered_builtIn {kind : ScalarKind} (h : kind ≠ .other) :
    builtIn.isRegistered kind = true := by
  cases kind <;> first | rfl | exact absurd rfl h

theorem fits_of_castText {raw : String} (htype : type.kind ≠ .other)
    (h : builtIn.castText zone type raw = .ok l) : l.Fits type.kind := by
  obtain ⟨found, hfound, h⟩ := bind_eq_ok.1 h
  cases h
  rw [cast, if_pos (isRegistered_builtIn htype)] at hfound
  cases found with
  | none => exact .inl rfl
  | some l => exact .inr (Cast.kind_of_toLiteral htype hfound)

theorem fits_of_castValue (htype : type.kind ≠ .other)
    (h : builtIn.castValue zone type value = .ok l) : l.Fits type.kind := by
  cases value with
  | null =>
    cases h
    exact .inl rfl
  | str | num | bool => exact fits_of_castText htype h
  | arr | obj => cases h

theorem fits_of_castLeaf (htype : type.kind ≠ .other)
    (h : builtIn.castLeaf zone type value = .ok l) : l.Fits type.kind := by
  unfold castLeaf at h
  split at h
  · split at h
    · cases h
      exact .inr rfl
    · exact fits_of_castValue htype h
  · exact fits_of_castValue htype h

/-- The values of a list, nested lists included, are cast to values of the kind of the type. -/
theorem fits_of_castList (htype : type.kind ≠ .other)
    (h : builtIn.castList zone type values = .ok ls) : ∀ l ∈ ls, l.Fits type.kind := by
  intro l hl
  obtain ⟨leaf, -, hleaf⟩ := exists_of_forall₂ (forall₂_of_castList h).flip hl
  exact fits_of_castLeaf htype hleaf

/-! ## Presence and case -/

variable {casters : Casters} {zone : Civil.LocalZone} {type : ScalarType} {value : Json}
  {values : List Json} {l : Literal} {ls : List Literal}

/-- What a text is cast to for a text type is no member of an enumerated type, so putting it in
upper case makes a string of it. -/
theorem folded_of_castText {raw : String} (htext : type.isText = true)
    (h : casters.castText zone type raw = .ok l) : l.folded = l.upper := by
  obtain ⟨found, hfound, h⟩ := bind_eq_ok.1 h
  cases h
  unfold cast at hfound
  split at hfound
  · cases type <;> cases htext
    · cases hfound
      rfl
    · dsimp only [Cast.toLiteral] at hfound
      split at hfound <;> cases hfound
      rfl
  · cases hfound
    rfl

theorem folded_of_castValue (htext : type.isText = true)
    (h : casters.castValue zone type value = .ok l) : l.folded = l.upper := by
  cases value with
  | null =>
    cases h
    rfl
  | str | num | bool => exact folded_of_castText htext h
  | arr | obj => cases h

theorem folded_of_castLeaf (htext : type.isText = true)
    (h : casters.castLeaf zone type value = .ok l) : l.folded = l.upper := by
  unfold castLeaf at h
  split at h
  · cases htext
  · exact folded_of_castValue htext h

theorem isEnum_of_toLiteral {raw : String} (h : Cast.toLiteral zone type raw = .ok .none) :
    type.isEnum = true := by
  cases type with
  | string | bool | other => cases h
  | char =>
    dsimp only [Cast.toLiteral] at h
    split at h <;> cases h
  | i8 | i16 | i32 | i64 | bigInt | decimal | f32 | f64 | uuid | time | offsetDateTime =>
    obtain ⟨value, _, h⟩ := bind_eq_ok.1 h
    cases h
  | date | dateTime | instant =>
    obtain ⟨stamp, _, h⟩ := bind_eq_ok.1 h
    obtain ⟨value, _, h⟩ := bind_eq_ok.1 h
    cases h
  | enum e => rfl

/-- A cast literal is never the absent value itself. -/
theorem ne_null_of_toLiteral {raw : String} (h : Cast.toLiteral zone type raw = .ok (some l)) :
    l.isNull = false := by
  by_cases hother : type.kind = .other
  · cases type <;> cases hother
    cases h
    rfl
  · have hkind := Cast.kind_of_toLiteral hother h
    cases l <;> first | rfl | cases hkind

/-- A value that is there is cast to one that is there, unless it may name no member of an
enumerated type. -/
theorem isNull_of_castValue (hvalue : value.isNull = false) (htype : type.isEnum = false)
    (h : casters.castValue zone type value = .ok l) : l.isNull = false := by
  have htext : ∀ raw, casters.castText zone type raw = .ok l → l.isNull = false := by
    intro raw h
    obtain ⟨found, hfound, h⟩ := bind_eq_ok.1 h
    cases h
    unfold cast at hfound
    split at hfound
    · cases found with
      | none => rw [isEnum_of_toLiteral hfound] at htype; cases htype
      | some l => exact ne_null_of_toLiteral hfound
    · cases hfound
      rfl
  cases value with
  | null => cases hvalue
  | str | num | bool => exact htext _ h
  | arr | obj => cases h

end Casters

end RowFilter
