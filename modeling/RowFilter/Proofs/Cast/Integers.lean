import RowFilter.Proofs.Cast
import RowFilter.Proofs.Number.Digits

/-!
# Integers cast to the integer types

The integer types of a fixed width share one reader, which reads 64 bits. Of what it reads, 32 bits
take the nearest integer that they hold, and 8 and 16 bits report an integer that they do not hold.
An integer beyond 64 bits does not get that far: the reader refuses its text as no integer at all,
and so do all four types. Integers without a width have a reader of their own.
-/

namespace RowFilter

/-- Whether a literal is a value of an integer type, and the integer that it is. -/
inductive Literal.IsInteger : ScalarType → Int → Literal → Prop where
  | i8 (x : Int8) : IsInteger .i8 x.toInt (.i8 x)
  | i16 (x : Int16) : IsInteger .i16 x.toInt (.i16 x)
  | i32 (x : Int32) : IsInteger .i32 x.toInt (.i32 x)
  | i64 (x : Int64) : IsInteger .i64 x.toInt (.i64 x)
  | bigInt (n : Int) : IsInteger .bigInt n (.bigInt n)

namespace Literal

variable {n : Int}

theorem isInteger_i8 (h : -128 ≤ n ∧ n ≤ 127) : IsInteger .i8 n (.i8 (Int8.ofInt n)) := by
  have hvalue : (Int8.ofInt n).toInt = n := Int8.toInt_ofInt_of_le (by omega) (by omega)
  simpa only [hvalue] using IsInteger.i8 (Int8.ofInt n)

theorem isInteger_i16 (h : -32768 ≤ n ∧ n ≤ 32767) : IsInteger .i16 n (.i16 (Int16.ofInt n)) := by
  have hvalue : (Int16.ofInt n).toInt = n := Int16.toInt_ofInt_of_le (by omega) (by omega)
  simpa only [hvalue] using IsInteger.i16 (Int16.ofInt n)

theorem isInteger_i32 (h : -2147483648 ≤ n ∧ n ≤ 2147483647) :
    IsInteger .i32 n (.i32 (Int32.ofInt n)) := by
  have hvalue : (Int32.ofInt n).toInt = n := Int32.toInt_ofInt_of_le (by omega) (by omega)
  simpa only [hvalue] using IsInteger.i32 (Int32.ofInt n)

theorem isInteger_i64 (h : Number.fitsInt64 n = true) :
    IsInteger .i64 n (.i64 (Int64.ofInt n)) := by
  obtain ⟨hlow, hhigh⟩ := Number.fitsInt64_iff.1 h
  have hvalue : (Int64.ofInt n).toInt = n := Int64.toInt_ofInt_of_le (by omega) (by omega)
  simpa only [hvalue] using IsInteger.i64 (Int64.ofInt n)

end Literal

namespace Cast

variable {zone : Civil.LocalZone} {target type : ScalarType} {raw : String} {n least most : Int}

/-! ## The reader of 64 bits -/

theorem toInt64_of_writes (h : Number.Writes (Text.trimChars raw.toList) n)
    (hfits : Number.fitsInt64 n = true) : toInt64 target raw = .ok n := by
  rw [toInt64, Number.readInt64?_eq_some.2 ⟨h, hfits⟩]
  rfl

theorem toInt64_of_beyond (h : Number.Writes (Text.trimChars raw.toList) n)
    (hfits : Number.fitsInt64 n = false) :
    toInt64 target raw = .error (.invalidFormat raw target) := by
  have hread : Number.readInt64? (Text.trimChars raw.toList) = none := by
    rw [Number.readInt64?, Number.readInt?_eq_some.2 h, Option.filter_some, hfits]
    rfl
  rw [toInt64, hread]
  rfl

/-- Of the integers of 64 bits, those within the bounds are kept and the others reported. -/
theorem toBounded_of_writes (h : Number.Writes (Text.trimChars raw.toList) n)
    (hfits : Number.fitsInt64 n = true) :
    toBounded target least most raw =
      if least ≤ n ∧ n ≤ most then .ok n else .error (.numericOverflow raw target) := by
  rw [toBounded, toInt64_of_writes h hfits]
  rfl

/-! ## The casts -/

/-- Whether a text is cast to an integer of a type. -/
def GivesInteger (zone : Civil.LocalZone) (type : ScalarType) (raw : String) (n : Int) : Prop :=
  ∃ l, Casters.builtIn.cast zone type raw = .ok (some l) ∧ l.IsInteger type n

/-- Whether the text of an integer is cast to it if it lies between two bounds, and reported as an
overflow if it does not. -/
structure KeepsOrOverflows (zone : Civil.LocalZone) (type : ScalarType) (least most : Int)
    (raw : String) (n : Int) : Prop where
  keeps : least ≤ n ∧ n ≤ most → GivesInteger zone type raw n
  overflows : ¬ (least ≤ n ∧ n ≤ most) →
    Casters.builtIn.cast zone type raw = .error (.numericOverflow raw type)

theorem GivesInteger.ne_error (h : GivesInteger zone type raw n) (e : CastError) :
    Casters.builtIn.cast zone type raw ≠ .error e := by
  obtain ⟨l, hl, -⟩ := h
  rw [hl]
  exact nofun

/-- Neither outcome is a complaint about the format. -/
theorem KeepsOrOverflows.ne_invalid (h : KeepsOrOverflows zone type least most raw n) :
    Casters.builtIn.cast zone type raw ≠ .error (.invalidFormat raw type) := by
  by_cases hbounds : least ≤ n ∧ n ≤ most
  · exact (h.keeps hbounds).ne_error _
  · rw [h.overflows hbounds]
    exact nofun

/-- A cast by way of two bounds keeps an integer of 64 bits or reports it. -/
theorem keepsOrOverflows_of_toBounded {value : Int → Literal}
    (hcast : Casters.builtIn.cast zone type raw =
      (toBounded type least most raw >>= fun n => .ok (some (value n))))
    (hvalue : least ≤ n ∧ n ≤ most → (value n).IsInteger type n)
    (h : Number.Writes (Text.trimChars raw.toList) n) (hfits : Number.fitsInt64 n = true) :
    KeepsOrOverflows zone type least most raw n := by
  rw [toBounded_of_writes h hfits] at hcast
  refine ⟨fun hbounds => ?_, fun hbounds => ?_⟩
  · rw [if_pos hbounds] at hcast
    exact ⟨_, hcast, hvalue hbounds⟩
  · rw [if_neg hbounds] at hcast
    exact hcast

theorem givesInteger_i32 (zone : Civil.LocalZone)
    (h : Number.Writes (Text.trimChars raw.toList) n) (hfits : Number.fitsInt64 n = true) :
    GivesInteger zone .i32 raw (max (-2147483648) (min n 2147483647)) := by
  refine ⟨_, ?_, Literal.isInteger_i32 (by omega)⟩
  change (toInt64 .i32 raw >>= _) = _
  rw [toInt64_of_writes h hfits]
  rfl

theorem givesInteger_i64 (zone : Civil.LocalZone)
    (h : Number.Writes (Text.trimChars raw.toList) n) (hfits : Number.fitsInt64 n = true) :
    GivesInteger zone .i64 raw n := by
  refine ⟨_, ?_, Literal.isInteger_i64 hfits⟩
  change (toInt64 .i64 raw >>= _) = _
  rw [toInt64_of_writes h hfits]
  rfl

theorem givesInteger_bigInt (zone : Civil.LocalZone)
    (h : Number.Writes (Text.trimChars raw.toList) n) : GivesInteger zone .bigInt raw n := by
  refine ⟨_, ?_, .bigInt n⟩
  change (orInvalid .bigInt raw (Number.readBigInt? _) >>= _) = _
  rw [Number.readBigInt?_of_writes h]
  rfl

/-- Whatever a type of a fixed width does with an integer, it first reads 64 bits. -/
theorem exists_toInt64_bind (zone : Civil.LocalZone) (raw : String)
    (htype : type ∈ [.i8, .i16, .i32, .i64]) :
    ∃ next, Casters.builtIn.cast zone type raw = (toInt64 type raw >>= next) := by
  simp only [List.mem_cons, List.not_mem_nil, or_false] at htype
  rcases htype with rfl | rfl | rfl | rfl
  · exact ⟨_, bind_assoc (toInt64 .i8 raw) _ _⟩
  · exact ⟨_, bind_assoc (toInt64 .i16 raw) _ _⟩
  · exact ⟨_, rfl⟩
  · exact ⟨_, rfl⟩

/-- Beyond 64 bits every type of a fixed width complains about the format. -/
theorem cast_of_beyond (h : Number.Writes (Text.trimChars raw.toList) n)
    (hfits : Number.fitsInt64 n = false) (htype : type ∈ [.i8, .i16, .i32, .i64]) :
    Casters.builtIn.cast zone type raw = .error (.invalidFormat raw type) := by
  obtain ⟨next, hcast⟩ := exists_toInt64_bind zone raw htype
  rw [hcast, toInt64_of_beyond h hfits]
  rfl

/-- **An integer saturates or overflows exactly if it fits 64 bits.** For each text of an integer, a
cast to 32 bits gives the nearest integer that they hold, and a cast to 8 or 16 bits gives the
integer or reports an overflow, if and only if 64 bits hold the integer. A cast to 64 bits gives each
integer that they hold, and a cast to an integer without a width gives each integer. The types of a
fixed width take the text for no integer exactly if it is one beyond 64 bits. -/
theorem integer_cast_iff_fits (zone : Civil.LocalZone)
    (h : Number.Writes (Text.trimChars raw.toList) n) :
    (GivesInteger zone .i32 raw (max (-2147483648) (min n 2147483647)) ↔
      Number.fitsInt64 n = true) ∧
    (KeepsOrOverflows zone .i8 (-128) 127 raw n ↔ Number.fitsInt64 n = true) ∧
    (KeepsOrOverflows zone .i16 (-32768) 32767 raw n ↔ Number.fitsInt64 n = true) ∧
    (Number.fitsInt64 n = true → GivesInteger zone .i64 raw n) ∧
    GivesInteger zone .bigInt raw n ∧
    ∀ type ∈ [.i8, .i16, .i32, .i64],
      Casters.builtIn.cast zone type raw = .error (.invalidFormat raw type) ↔
        Number.fitsInt64 n = false := by
  have hi8 : Number.fitsInt64 n = true → KeepsOrOverflows zone .i8 (-128) 127 raw n :=
    keepsOrOverflows_of_toBounded rfl Literal.isInteger_i8 h
  have hi16 : Number.fitsInt64 n = true → KeepsOrOverflows zone .i16 (-32768) 32767 raw n :=
    keepsOrOverflows_of_toBounded rfl Literal.isInteger_i16 h
  have hi32 := givesInteger_i32 zone h
  have hi64 := givesInteger_i64 zone h
  -- a type that does not complain about the format has read an integer of 64 bits
  have hfits {type : ScalarType} (htype : type ∈ [.i8, .i16, .i32, .i64])
      (hvalid : Casters.builtIn.cast zone type raw ≠ .error (.invalidFormat raw type)) :
      Number.fitsInt64 n = true := by
    by_contra hbeyond
    exact hvalid (cast_of_beyond h (Bool.eq_false_of_not_eq_true hbeyond) htype)
  refine ⟨⟨fun hgives => hfits (by simp) (hgives.ne_error _), hi32⟩,
    ⟨fun hkeeps => hfits (by simp) hkeeps.ne_invalid, hi8⟩,
    ⟨fun hkeeps => hfits (by simp) hkeeps.ne_invalid, hi16⟩, hi64, givesInteger_bigInt zone h, ?_⟩
  intro type htype
  refine ⟨fun hinvalid => ?_, fun hbeyond => cast_of_beyond h hbeyond htype⟩
  by_contra hinside
  have hinside : Number.fitsInt64 n = true := Bool.eq_true_of_not_eq_false hinside
  simp only [List.mem_cons, List.not_mem_nil, or_false] at htype
  rcases htype with rfl | rfl | rfl | rfl
  · exact (hi8 hinside).ne_invalid hinvalid
  · exact (hi16 hinside).ne_invalid hinvalid
  · exact (hi32 hinside).ne_error _ hinvalid
  · exact (hi64 hinside).ne_error _ hinvalid

/-- Three billion below zero is brought to the least integer of 32 bits, and overflows 8 bits. -/
theorem integer_cast_iff_fits_saturated :
    Number.Writes (Text.trimChars "-3000000000".toList) (-3000000000) ∧
      GivesInteger .utc .i32 "-3000000000" (-2147483648) ∧
      Casters.builtIn.cast .utc .i8 "-3000000000" =
        .error (.numericOverflow "-3000000000" .i8) := by
  have htext : Number.intText (-3000000000) = "-3000000000" := by decide
  have hwrites := Number.writes_intText (-3000000000)
  rw [htext] at hwrites
  obtain ⟨hi32, hi8, -⟩ := integer_cast_iff_fits .utc hwrites
  exact ⟨hwrites, hi32.2 (by decide), (hi8.2 (by decide)).overflows (by decide)⟩

/-- The least integer beyond 64 bits is neither saturated nor reported as an overflow. -/
theorem integer_cast_beyond_64_bits :
    let raw := Number.intText 9223372036854775808
    raw = "9223372036854775808" ∧
      Casters.builtIn.cast .utc .i32 raw = .error (.invalidFormat raw .i32) ∧
      ¬ GivesInteger .utc .i32 raw 2147483647 ∧
      Casters.builtIn.cast .utc .i8 raw = .error (.invalidFormat raw .i8) ∧
      ¬ KeepsOrOverflows .utc .i8 (-128) 127 raw 9223372036854775808 := by
  intro raw
  have hbeyond (type : ScalarType) (htype : type ∈ [.i8, .i16, .i32, .i64]) :
      Casters.builtIn.cast .utc type raw = .error (.invalidFormat raw type) :=
    cast_of_beyond (Number.writes_intText 9223372036854775808) (by decide) htype
  have hi32 := hbeyond .i32 (by simp)
  have hi8 := hbeyond .i8 (by simp)
  exact ⟨by decide, hi32, fun h => h.ne_error _ hi32, hi8, fun h => h.ne_invalid hi8⟩

end Cast

end RowFilter
