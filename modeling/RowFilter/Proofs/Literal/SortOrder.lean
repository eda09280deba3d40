import RowFilter.Proofs.Literal.ExactNumbers
import RowFilter.Proofs.StableSort

/-!
# When values can be sorted

Two values have an order if they are of one family: both numbers, both texts, both points in time,
and so on. The order for sorting is an order of the values that have one with each other, as long as
their numbers compare as they are and not as they are rounded. A value that has no order with two
others counts as equal to both of them, also when the two differ, and then the order is not
transitive.
-/

namespace RowFilter

open Number (BinaryFloat Decimal Extended Format)
open Civil (Date Time DateTime Instant)

/-- An integer of at most 53 bits is a double. -/
theorem Number.BinaryFloat.value?_ofInt {n : Int} (h : n.natAbs ≤ 2 ^ 53) :
    (BinaryFloat.ofInt .double n).value? = some (.ofRat n) := by
  have hvalue : (Format.double.nearest n.natAbs 1).value = n.natAbs := by
    have hself : (Format.double.nearest n.natAbs 1).value = n.natAbs * 2 ^ (0 : ℤ) :=
      Format.nearest_eq (by decide) Nat.one_pos h (by decide) (by simp)
    rw [hself, zpow_zero, mul_one]
  have hfinite : ¬ (Format.double.nearest n.natAbs 1).exponent > Format.double.maxExponent := by
    have hcarry := Number.exponent_nearest_le .double n.natAbs 1
    rcases Nat.eq_zero_or_pos n.natAbs with hzero | hpos
    · rw [hzero]
      decide
    · rw [Format.exponentOf_eq _ hpos Nat.one_pos, Nat.cast_one, div_one, Int.log_natCast] at hcarry
      have hlog : Nat.log 2 n.natAbs ≤ 53 :=
        (Nat.log_mono_right h).trans_eq (Nat.log_pow (by decide) 53)
      change _ ≤ max (-1074 : ℤ) (max ((Nat.log 2 n.natAbs : ℤ) - 53 + 1) (-1074) + 1) at hcarry
      change ¬ _ > (971 : ℤ)
      omega
  unfold ofInt ofRatio
  simp only [if_neg hfinite, value?, Dyadic.signedValue, hvalue]
  congr 2
  rcases Int.lt_or_le n 0 with hneg | hpos
  · have hcast : ((n.natAbs : ℤ) : ℚ) = ((-n : ℤ) : ℚ) := congrArg _ (by omega)
    simp only [decide_eq_true hneg, if_true]
    rw [← Int.cast_natCast, hcast, Int.cast_neg, neg_neg]
  · have hcast : ((n.natAbs : ℤ) : ℚ) = (n : ℚ) := congrArg _ (by omega)
    simp only [decide_eq_false (not_lt.2 hpos), Bool.false_eq_true, if_false]
    rw [← Int.cast_natCast, hcast]

theorem Number.BinaryFloat.ofRatio_ne_nan (f : Format) (negative : Bool) (num den : Nat) :
    ofRatio f negative num den ≠ nan := by
  unfold ofRatio
  dsimp only
  split <;> exact nofun

/-! ## What values are compared by -/

/-- The families of values that have an order with each other. -/
inductive Family where
  | number
  | text
  | bool
  | uuid
  | time
  /-- Dates and date-times. -/
  | calendar
  | instant

/-- What a value is compared by. Values of different kinds can be compared by the same. -/
inductive Comparand where
  | bool (b : Bool)
  | uuid (u : Uuid)
  | time (t : Time)
  | reading (dt : DateTime)
  | number (p : Extended)
  | characters (s : String)
  | instant (i : Instant)

namespace Comparand

/-- The order of what two values are compared by. -/
def order? : Comparand → Comparand → Option Ordering
  | bool a, bool b => some (compare a b)
  | uuid a, uuid b => some (a.order b)
  | time a, time b => some (a.order b)
  | reading a, reading b => some (a.order b)
  | number p, number q => some (compare p q)
  | characters s, characters t => some (compare s t)
  | instant i, instant j => some (i.order j)
  | _, _ => none

/-- The family of what a value is compared by. -/
def family : Comparand → Family
  | bool _ => .bool
  | uuid _ => .uuid
  | time _ => .time
  | reading _ => .calendar
  | number _ => .number
  | characters _ => .text
  | instant _ => .instant

variable {x y z : Comparand}

theorem order?_ne_none_iff : x.order? y ≠ none ↔ x.family = y.family := by
  cases x <;> cases y <;> simp [order?, family]

theorem order?_trans (hxy : x.order? y ≠ none) (hyz : y.order? z ≠ none)
    (hle : x.order? y ≠ some .gt) (hle' : y.order? z ≠ some .gt) : x.order? z ≠ some .gt := by
  cases x <;> cases y <;> first | exact absurd rfl hxy | skip
  all_goals cases z <;> first | exact absurd rfl hyz | exact Literal.some_ne_gt_trans hle hle'

end Comparand

namespace Numeric

/-- The value of a number, unless it is none. -/
def value? : Numeric → Option Extended
  | int n | big n => some (.ofRat n)
  | decimal d => some (.ofRat d.value)
  | float x => x.value?

/-- Whether two numbers compare as their values do. -/
def ComparesExactly (x y : Numeric) : Prop :=
  ∀ p q, x.value? = some p → y.value? = some q → x.compare? y = some (compare p q)

theorem value?_of_rational? {x : Numeric} {p : ℚ} (h : x.rational? = some p) :
    x.value? = some (.ofRat p) := by
  cases x <;> cases h <;> rfl

theorem comparesExactly_of_exact {x y : Numeric} {p q : ℚ} (hx : x.rational? = some p)
    (hy : y.rational? = some q) (h : ¬ x.MergesWith y) : x.ComparesExactly y := by
  rintro _ _ hp hq
  rw [value?_of_rational? hx] at hp
  rw [value?_of_rational? hy] at hq
  cases hp
  cases hq
  rw [compare?_exact hx hy, if_neg h, Number.compare_map Extended.strictMono_ofRat]

theorem comparesExactly_of_float {x y : Numeric} (h : x.rational? = none ∨ y.rational? = none)
    (hx : x.toDouble.value? = x.value?) (hy : y.toDouble.value? = y.value?) :
    x.ComparesExactly y := by
  have hdoubles : x.compare? y = x.compareDoubles? y := by
    rcases h with h | h
    · cases x <;> cases h
      cases y <;> rfl
    · cases y <;> cases h
      cases x <;> rfl
  intro p q hp hq
  rw [hdoubles]
  exact BinaryFloat.compare?_eq (hx.trans hp) (hy.trans hq)

variable {x y : Numeric}

/-- The nearest double to a number is one, unless the number itself is none. -/
theorem toDouble_eq_nan : x.toDouble = .nan ↔ x.value? = none := by
  cases x with
  | int n | big n => exact iff_of_false (BinaryFloat.ofRatio_ne_nan _ _ _ _) (Option.some_ne_none _)
  | decimal d =>
    obtain ⟨magnitude, hdouble, -⟩ := d.exists_toDouble
    refine iff_of_false ?_ (Option.some_ne_none _)
    change d.toDouble ≠ .nan
    rw [hdouble]
    exact nofun
  | float z => cases z <;> simp [toDouble, value?, BinaryFloat.value?]

/-- Two numbers have an order unless one of them is none. -/
theorem compare?_eq_none : x.compare? y = none ↔ x.value? = none ∨ y.value? = none := by
  have hdoubles : x.compareDoubles? y = none ↔ x.value? = none ∨ y.value? = none := by
    rw [compareDoubles?, BinaryFloat.compare?_eq_none, toDouble_eq_nan, toDouble_eq_nan]
  cases hx : x.rational? with
  | none =>
    cases x <;> cases hx
    cases y <;> exact hdoubles
  | some p =>
    cases hy : y.rational? with
    | none =>
      cases y <;> cases hy
      cases x <;> exact hdoubles
    | some q =>
      rw [compare?_exact hx hy, value?_of_rational? hx, value?_of_rational? hy]
      simp

end Numeric

namespace Literal

/-- What a value is compared by, unless it is absent or not a number. -/
def comparand? : Literal → Option Comparand
  | bool b => some (.bool b)
  | uuid u => some (.uuid u)
  | time t => some (.time t)
  | date d => some (.reading (.startOf d))
  | dateTime dt => some (.reading dt)
  | string s => some (.characters s)
  | char c => some (.characters (String.ofList [c]))
  | enum member => some (.characters member)
  | instant i => some (.instant i)
  | offsetDateTime o => some (.instant o.instant)
  | null => none
  | l => ((Numeric.ofLiteral? l).bind Numeric.value?).map .number

/-- The family of a value, unless it is absent or not a number. -/
def family? (l : Literal) : Option Family := l.comparand?.map Comparand.family

/-- Whether two values are of one family. -/
def OfOneFamily (a b : Literal) : Prop :=
  ∃ family, a.family? = some family ∧ b.family? = some family

/-- Whether two values are no numbers, or compare as their values do. -/
def ComparesExactly (a b : Literal) : Prop :=
  ∀ x y, Numeric.ofLiteral? a = some x → Numeric.ofLiteral? b = some y → x.ComparesExactly y

/-- Whether a value is no number, or a number that is a double. -/
def IsDouble (a : Literal) : Prop :=
  ∀ x, Numeric.ofLiteral? a = some x → x.toDouble.value? = x.value?

variable {a b c : Literal}

/-- Numbers that are doubles compare exactly, and so do exact numbers that are not rounded to one
limit. -/
theorem IsDouble.comparesExactly (ha : a.IsDouble) (hb : b.IsDouble) (h : ¬ a.MergesWith b) :
    a.ComparesExactly b := by
  intro x y hx hy
  cases hp : x.rational? with
  | none => exact Numeric.comparesExactly_of_float (.inl hp) (ha x hx) (hb y hy)
  | some p =>
    cases hq : y.rational? with
    | none => exact Numeric.comparesExactly_of_float (.inr hq) (ha x hx) (hb y hy)
    | some q => exact Numeric.comparesExactly_of_exact hp hq (mt (mergesWith_iff hx hy).1 h)

theorem order_startOf (d e : Date) : (DateTime.startOf d).order (.startOf e) = d.order e := by
  have htime : Time.midnight.order Time.midnight = .eq := rfl
  rw [DateTime.order, DateTime.startOf, DateTime.startOf, htime, Ordering.then_eq]

theorem comparand?_of_number {x : Numeric} (h : Numeric.ofLiteral? a = some x) :
    a.comparand? = x.value?.map .number := by
  cases a <;> cases h <;> rfl

/-- A number has no order with what is no number. -/
theorem collate_number_other {x : Numeric} (ha : Numeric.ofLiteral? a = some x)
    (hb : Numeric.ofLiteral? b = none) : a.collate b = none := by
  cases a <;> cases ha <;> cases b <;> cases hb <;> rfl

theorem order?_number_other (hb : Numeric.ofLiteral? b = none) (value : Option Extended) :
    ((value.map Comparand.number).bind fun x => b.comparand?.bind x.order?) = none ∧
      (b.comparand?.bind fun y => (value.map Comparand.number).bind y.order?) = none := by
  cases value <;> cases b <;> cases hb <;> exact ⟨rfl, rfl⟩

/-- Values that are no numbers have the order of what they are compared by. -/
theorem collate_of_no_numbers (ha : Numeric.ofLiteral? a = none)
    (hb : Numeric.ofLiteral? b = none) :
    a.collate b = (a.comparand?.bind fun x => b.comparand?.bind x.order?) := by
  cases a <;> cases ha <;> cases b <;> cases hb <;>
    first
    | rfl
    | exact congrArg some (order_startOf _ _).symm

/-- Values of which one is no number have the order of what they are compared by. -/
theorem collate_of_no_number (h : Numeric.ofLiteral? a = none ∨ Numeric.ofLiteral? b = none) :
    a.collate b = (a.comparand?.bind fun x => b.comparand?.bind x.order?) := by
  cases ha : Numeric.ofLiteral? a with
  | none =>
    cases hb : Numeric.ofLiteral? b with
    | none => exact collate_of_no_numbers ha hb
    | some y =>
      rw [collate_swap b a, collate_number_other hb ha, comparand?_of_number hb,
        (order?_number_other ha y.value?).2]
      rfl
  | some x =>
    have hb : Numeric.ofLiteral? b = none := h.resolve_left (ha ▸ Option.some_ne_none x)
    rw [collate_number_other ha hb, comparand?_of_number ha, (order?_number_other hb x.value?).1]

/-- Values whose numbers compare exactly have the order of what they are compared by. -/
theorem collate_eq_order? (h : a.ComparesExactly b) :
    a.collate b = (a.comparand?.bind fun x => b.comparand?.bind x.order?) := by
  cases ha : Numeric.ofLiteral? a with
  | none => exact collate_of_no_number (.inl ha)
  | some x =>
    cases hb : Numeric.ofLiteral? b with
    | none => exact collate_of_no_number (.inr hb)
    | some y =>
      rw [collate_of_numbers ha hb, comparand?_of_number ha, comparand?_of_number hb]
      cases hp : x.value? with
      | none => exact Numeric.compare?_eq_none.2 (.inl hp)
      | some p =>
        cases hq : y.value? with
        | none => exact Numeric.compare?_eq_none.2 (.inr hq)
        | some q => exact h x y ha hb p q hp hq

/-- What two values with an order are compared by. -/
theorem exists_comparands (hexact : a.ComparesExactly b) (h : a.collate b ≠ none) :
    ∃ x y, a.comparand? = some x ∧ b.comparand? = some y ∧ a.collate b = x.order? y := by
  rw [collate_eq_order? hexact] at h ⊢
  cases hx : a.comparand? with
  | none => simp [hx] at h
  | some x =>
    cases hy : b.comparand? with
    | none => simp [hx, hy] at h
    | some y => exact ⟨x, y, rfl, rfl, rfl⟩

/-! ## Which values have an order -/

theorem comparands_ne_none_iff :
    (a.comparand?.bind fun x => b.comparand?.bind x.order?) ≠ none ↔ a.OfOneFamily b := by
  unfold OfOneFamily family?
  cases a.comparand? with
  | none => simp
  | some x =>
    cases b.comparand? with
    | none => simp
    | some y =>
      rw [Option.bind_some, Option.bind_some, Comparand.order?_ne_none_iff]
      simp [eq_comm]

/-- Values have an order if they are of one family. -/
theorem collate_ne_none_iff : a.collate b ≠ none ↔ a.OfOneFamily b := by
  rw [← comparands_ne_none_iff]
  cases ha : Numeric.ofLiteral? a with
  | none => rw [collate_of_no_number (.inl ha)]
  | some x =>
    cases hb : Numeric.ofLiteral? b with
    | none => rw [collate_of_no_number (.inr hb)]
    | some y =>
      -- the order of two numbers can be that of their doubles, but it is there if both have a value
      rw [collate_of_numbers ha hb, comparand?_of_number ha, comparand?_of_number hb, ne_eq,
        Numeric.compare?_eq_none]
      cases x.value? <;> cases y.value? <;> simp [Comparand.order?]

theorem OfOneFamily.symm (h : a.OfOneFamily b) : b.OfOneFamily a := h.imp fun _ => And.symm

theorem OfOneFamily.trans (h : a.OfOneFamily b) (h' : b.OfOneFamily c) : a.OfOneFamily c := by
  obtain ⟨family, ha, hb⟩ := h
  obtain ⟨family', hb', hc⟩ := h'
  cases hb.symm.trans hb'
  exact ⟨family, ha, hc⟩

theorem collate_ne_none_symm (h : a.collate b ≠ none) : b.collate a ≠ none :=
  collate_ne_none_iff.2 (collate_ne_none_iff.1 h).symm

/-- Of three values, if two have an order with the third, they have one with each other. -/
theorem collate_ne_none_trans (h : a.collate b ≠ none) (h' : b.collate c ≠ none) :
    a.collate c ≠ none :=
  collate_ne_none_iff.2 ((collate_ne_none_iff.1 h).trans (collate_ne_none_iff.1 h'))

/-! ## Sorting -/

theorem present_of_collate (h : a.collate b ≠ none) : a.isNull = false ∧ b.isNull = false := by
  constructor
  · exact Bool.eq_false_iff.2 fun ha => h (collate_eq_none (.inl ha))
  · exact Bool.eq_false_iff.2 fun hb => h (collate_eq_none (.inr hb))

theorem collate_ne_gt_trans (hab : a.ComparesExactly b) (hac : a.ComparesExactly c)
    (hbc : b.ComparesExactly c) (h : a.collate b ≠ none) (h' : b.collate c ≠ none)
    (hle : a.collate b ≠ some .gt) (hle' : b.collate c ≠ some .gt) : a.collate c ≠ some .gt := by
  obtain ⟨x, y, hx, hy, hxy⟩ := exists_comparands hab h
  obtain ⟨y', z, hy', hz, hyz⟩ := exists_comparands hbc h'
  cases hy.symm.trans hy'
  rw [hxy] at h hle
  rw [hyz] at h' hle'
  rw [collate_eq_order? hac, hx, hz]
  exact Comparand.order?_trans h h' hle hle'

/-- Whether the order for sorting is transitive on some values. -/
def SortsTransitively (values : List Literal) : Prop :=
  ∀ a ∈ values, ∀ b ∈ values, ∀ c ∈ values,
    a.sortOrder b ≠ .gt → b.sortOrder c ≠ .gt → a.sortOrder c ≠ .gt

/-- Whether every value that is present has an order with any two values that differ in theirs. -/
def JoinsAllOrders (values : List Literal) : Prop :=
  ∀ a ∈ values, ∀ b ∈ values, ∀ c ∈ values,
    a.collate c = some .gt → b.isNull = false → a.collate b ≠ none

instance (values : List Literal) : Decidable (JoinsAllOrders values) := by
  unfold JoinsAllOrders
  infer_instance

variable {values : List Literal}

theorem sortOrder_of_no_order (ha : a.isNull = false) (hb : b.isNull = false)
    (h : a.collate b = none) : a.sortOrder b = .eq := by
  unfold sortOrder
  rw [ha, hb, h]
  rfl

/-- Where numbers compare exactly, the order for sorting is transitive just if no value is without
an order with two others that differ. -/
theorem sortsTransitively_iff
    (hexact : ∀ a ∈ values, ∀ b ∈ values, a.ComparesExactly b) :
    SortsTransitively values ↔ JoinsAllOrders values := by
  constructor
  · intro htrans a ha b hb c hc hgt hbpresent hnone
    have hac : a.collate c ≠ none := hgt ▸ Option.some_ne_none _
    obtain ⟨hapresent, hcpresent⟩ := present_of_collate hac
    -- a value without an order with the one has none with the other either, and counts as equal
    have hbcnone : b.collate c = none := by
      by_contra hbc
      exact collate_ne_none_trans hac (collate_ne_none_symm hbc) hnone
    refine htrans a ha b hb c hc ?_ ?_ ?_
    · rw [sortOrder_of_no_order hapresent hbpresent hnone]
      exact nofun
    · rw [sortOrder_of_no_order hbpresent hcpresent hbcnone]
      exact nofun
    · unfold sortOrder
      rw [hapresent, hcpresent, hgt]
      rfl
  · intro hjoins a ha b hb c hc hab hbc
    cases hcnull : c.isNull with
    | true =>
      -- nothing is sorted behind an absent value
      unfold sortOrder
      rw [hcnull]
      cases a.isNull <;> exact nofun
    | false =>
      obtain ⟨hbpresent, hbc⟩ := (sortOrder_ne_gt_of_present hcnull).1 hbc
      obtain ⟨hapresent, hab⟩ := (sortOrder_ne_gt_of_present hbpresent).1 hab
      refine (sortOrder_ne_gt_of_present hcnull).2 ⟨hapresent, fun hgt => ?_⟩
      have habsome := hjoins a ha b hb c hc hgt hbpresent
      have hbcsome :=
        collate_ne_none_trans (collate_ne_none_symm habsome) (hgt ▸ Option.some_ne_none _)
      exact collate_ne_gt_trans (hexact a ha b hb) (hexact a ha c hc) (hexact b hb c hc) habsome
        hbcsome hab hbc hgt

theorem sortOrder_self (a : Literal) : a.sortOrder a = .eq := by
  have hswap := sortOrder_swap a a
  cases h : a.sortOrder a <;> rw [h] at hswap <;> first | rfl | cases hswap

/-- Values put in order by a stable sort. -/
def sorted (values : List Literal) : List Literal :=
  StableSort.sort (fun a b => a.sortOrder b == .lt) values

/-- A stable sort by an order that is transitive puts no value in front of a smaller one. -/
theorem pairwise_sorted (h : SortsTransitively values) :
    (sorted values).Pairwise fun a b => b.sortOrder a ≠ .lt := by
  have horders := StableSort.orders_of_compare sortOrder_swap h
  have hearlier : values.Pairwise fun _ _ => True := List.pairwise_of_forall fun _ _ => trivial
  refine (StableSort.pairwise_sort horders hearlier).imp ?_
  intro a b hprecedes hlt
  rcases hprecedes with hless | ⟨hless, -⟩
  · have hab : a.sortOrder b = .lt := by simpa using hless
    rw [sortOrder_swap a b, hab] at hlt
    cases hlt
  · simp [hlt] at hless

/-- **The order for sorting** gives each value as equal to itself, and turns around with the values.
On values whose numbers compare exactly it is transitive just if every value that is present has an
order with any two that differ, and then no value is sorted in front of a smaller one. -/
theorem sortOrder_laws (hexact : ∀ a ∈ values, ∀ b ∈ values, a.ComparesExactly b) :
    (∀ a : Literal, a.sortOrder a = .eq) ∧
      (∀ a b : Literal, b.sortOrder a = (a.sortOrder b).swap) ∧
      (SortsTransitively values ↔ JoinsAllOrders values) ∧
      (JoinsAllOrders values → (sorted values).Perm values ∧
        (sorted values).Pairwise fun a b => b.sortOrder a ≠ .lt) := by
  refine ⟨sortOrder_self, sortOrder_swap, sortsTransitively_iff hexact, fun hjoins => ⟨?_, ?_⟩⟩
  · exact StableSort.sort_perm _ values
  · exact pairwise_sorted ((sortsTransitively_iff hexact).2 hjoins)

/-- Small integers and floating-point numbers are sorted, and absent values come behind them. -/
theorem sortOrder_laws_numbers :
    JoinsAllOrders [null, i32 2, f64 (.finite false ⟨3, -1⟩), bigInt (-7)] ∧
      SortsTransitively [null, i32 2, f64 (.finite false ⟨3, -1⟩), bigInt (-7)] ∧
      sorted [null, i32 2, f64 (.finite false ⟨3, -1⟩), bigInt (-7)] =
        [bigInt (-7), f64 (.finite false ⟨3, -1⟩), i32 2, null] := by
  have hdoubles : ∀ a ∈ [null, i32 2, f64 (.finite false ⟨3, -1⟩), bigInt (-7)], a.IsDouble := by
    intro a ha x hx
    simp only [List.mem_cons, List.not_mem_nil, or_false] at ha
    rcases ha with rfl | rfl | rfl | rfl <;> cases hx
    · exact BinaryFloat.value?_ofInt (by decide)
    · rfl
    · exact BinaryFloat.value?_ofInt (by decide)
  have hapart : ∀ a ∈ [null, i32 2, f64 (.finite false ⟨3, -1⟩), bigInt (-7)],
      ∀ b ∈ [null, i32 2, f64 (.finite false ⟨3, -1⟩), bigInt (-7)], ¬ a.MergesWith b := by
    decide
  have hjoins : JoinsAllOrders [null, i32 2, f64 (.finite false ⟨3, -1⟩), bigInt (-7)] := by
    decide +kernel
  have hlaws := sortOrder_laws fun a ha b hb =>
    (hdoubles a ha).comparesExactly (hdoubles b hb) (hapart a ha b hb)
  exact ⟨hjoins, hlaws.2.2.1.2 hjoins, by decide +kernel⟩

/-- An integer beyond the doubles counts as equal to the double below it, and that double to its own
integer, so the greater integer stays in front of the smaller one. -/
theorem sortOrder_beyond_doubles :
    (i64 9007199254740993).sortOrder (f64 (.finite false ⟨4503599627370496, 1⟩)) = .eq ∧
      (f64 (.finite false ⟨4503599627370496, 1⟩)).sortOrder (i64 9007199254740992) = .eq ∧
      (i64 9007199254740993).sortOrder (i64 9007199254740992) = .gt ∧
      sorted [i64 9007199254740993, f64 (.finite false ⟨4503599627370496, 1⟩),
          i64 9007199254740992] =
        [i64 9007199254740993, f64 (.finite false ⟨4503599627370496, 1⟩),
          i64 9007199254740992] := by
  decide +kernel

end Literal

end RowFilter
