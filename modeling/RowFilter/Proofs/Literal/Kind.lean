import RowFilter.ScalarType
import RowFilter.Literal.Collation

/-!
# Kinds of literals

The kind of a literal is the one of the types that it is a value of. Two literals of one kind have
an order, but for floating-point numbers.
-/

namespace RowFilter

/-- Whether all values of a kind have an order among each other. A floating-point number can be none
that has one, and a type that is known by name only does not say what its values are. -/
def ScalarKind.isOrdered : ScalarKind → Bool
  | f32 => false
  | f64 => false
  | other => false
  | _ => true

/-- The kind of the values that a column of a type is compared by: texts are put in upper case,
which makes a string of a character. -/
def ScalarType.comparedKind (type : ScalarType) : ScalarKind :=
  if type.isText then .string else type.kind

namespace Literal

/-- The kind of a value; the absent one has none. -/
def kind? : Literal → Option ScalarKind
  | string _ => some .string
  | char _ => some .char
  | i8 _ => some .i8
  | i16 _ => some .i16
  | i32 _ => some .i32
  | i64 _ => some .i64
  | bigInt _ => some .bigInt
  | decimal _ => some .decimal
  | f32 _ => some .f32
  | f64 _ => some .f64
  | bool _ => some .bool
  | uuid _ => some .uuid
  | date _ => some .date
  | time _ => some .time
  | dateTime _ => some .dateTime
  | instant _ => some .instant
  | offsetDateTime _ => some .offsetDateTime
  | enum _ => some .enum
  | null => none

/-- Whether a value is absent or of a kind. -/
def Fits (kind : ScalarKind) (l : Literal) : Prop := l = null ∨ l.kind? = some kind

variable {a b l : Literal} {kind : ScalarKind} {type : ScalarType}

theorem fits_null : Fits kind null := .inl rfl

theorem Fits.kind_of_not_null (h : l.Fits kind) (hnull : l.isNull = false) :
    l.kind? = some kind := by
  rcases h with rfl | h
  · cases hnull
  · exact h

/-! ## Order -/

theorem exists_collate (ha : a.kind? = some kind) (hb : b.kind? = some kind)
    (hkind : kind.isOrdered = true) : ∃ o, a.collate b = some o := by
  cases a <;> cases ha <;> cases hkind <;> cases b <;> cases hb <;> exact ⟨_, rfl⟩

/-- Values of different kinds are not equal. -/
theorem kind_eq_of_equal (h : a.equal b = true) : a.kind? = b.kind? := by
  unfold equal at h
  split at h
  · rfl
  · rfl
  · rfl
  · rfl
  · rw [beq_iff_eq.1 h]

theorem exists_timeOfDay (hl : l.kind? = some type.kind) (htype : type.hasTimeOfDay = true) :
    ∃ t, l.timeOfDay? = some t := by
  cases type <;> cases htype <;> cases l <;> cases hl <;> exact ⟨_, rfl⟩

theorem exists_characters (hl : l.kind? = some .string) : ∃ s, l.characters? = some s := by
  cases l <;> cases hl
  exact ⟨_, rfl⟩

theorem Fits.upper (h : l.Fits type.kind) (htype : type.isText = true) :
    l.upper.Fits .string := by
  rcases h with rfl | h
  · exact fits_null
  · cases type <;> cases htype <;> cases l <;> cases h <;> exact .inr rfl

end Literal

end RowFilter
