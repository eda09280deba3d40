import RowFilter.Page.Request
import RowFilter.Proofs.Number.Digits
import RowFilter.Proofs.Page.Position
import RowFilter.Proofs.Success

/-!
# The bounds of a page

A limit and an offset are integers of 64 bits with a sign, written as numbers or as texts. The limit
is brought between one and the greatest size of a page, and an offset below zero is refused, so the
page that a filter map asks for lies within bounds in which its position can be computed.
-/

namespace RowFilter

/-- Whether a value is an integer of 64 bits: a number, or the text of one between blanks. -/
inductive Json.IsInteger : Json → Int → Prop where
  | number {n : Int} (h : Number.fitsInt64 n = true) : IsInteger (.num (.int n)) n
  | text {s : String} {n : Int} (h : Number.Writes (Text.trimChars s.toList) n)
    (hfits : Number.fitsInt64 n = true) : IsInteger (.str s) n

theorem Json.IsInteger.unique {value : Json} {n k : Int} (h : value.IsInteger n)
    (h' : value.IsInteger k) : n = k := by
  cases h with
  | number =>
    cases h'
    rfl
  | text hwrites =>
    cases h' with
    | text hwrites' => exact hwrites.unique hwrites'

namespace FilterConfig

variable {c : FilterConfig} {zones : Civil.ZoneBook} {filter : FilterMap} {request : PageSpec}
  {value limit offset sort : Json} {name : String} {n : Int} {count : Nat}

/-! ## Parameters -/

theorem readInteger_of_isInteger (h : value.IsInteger n) : readInteger name value = .ok n := by
  cases h with
  | number hfits => simp [readInteger, hfits]
  | text hwrites hfits => simp [readInteger, Number.readInt64?_eq_some.2 ⟨hwrites, hfits⟩]

theorem readInteger_of_no_integer (h : ∀ n, ¬ value.IsInteger n) :
    readInteger name value = .error (.notInteger name value.text) := by
  cases value with
  | num number =>
    cases number with
    | int k =>
      have hbeyond : ¬ Number.fitsInt64 k = true := fun hfits => h k (.number hfits)
      simp [readInteger, hbeyond]
    | real x => rfl
  | str s =>
    have hread : Number.readInt64? (Text.trimChars s.toList) = none := by
      rw [Option.eq_none_iff_forall_ne_some]
      intro k hread
      obtain ⟨hwrites, hfits⟩ := Number.readInt64?_eq_some.1 hread
      exact h k (.text hwrites hfits)
    simp [readInteger, hread]
  | null | bool | arr | obj => rfl

theorem readInteger_eq_ok : readInteger name value = .ok n ↔ value.IsInteger n := by
  refine ⟨fun h => ?_, readInteger_of_isInteger⟩
  by_cases hsome : ∃ k, value.IsInteger k
  · obtain ⟨k, hk⟩ := hsome
    cases (readInteger_of_isInteger hk).symm.trans h
    exact hk
  · rw [readInteger_of_no_integer (not_exists.1 hsome)] at h
    cases h

theorem isNull_of_isInteger (h : value.IsInteger n) : value.isNull = false := by
  cases h <;> rfl

/-- A limit that is given is an integer, brought between one and the greatest size. -/
theorem readPageLimit_eq_ok (hvalue : value.isNull = false) :
    c.readPageLimit value = .ok count ↔
      ∃ n, value.IsInteger n ∧ (min (max n 1) c.ceiling).toNat = count := by
  have hread : c.readPageLimit value =
      (readInteger "limit" value >>= fun n => .ok (min (max n 1) c.ceiling).toNat) := by
    cases value with
    | null => cases hvalue
    | _ => rfl
  rw [hread, bind_eq_ok]
  simp only [readInteger_eq_ok, Except.ok.injEq]

/-- An offset that is given is an integer, and not below zero. -/
theorem readPageOffset_eq_ok (hvalue : value.isNull = false) :
    readPageOffset value = .ok count ↔ value.IsInteger count := by
  have hread : readPageOffset value = (readInteger "offset" value >>= fun n =>
      if n < 0 then .error (.negativeOffset n) else .ok n.toNat) := by
    cases value with
    | null => cases hvalue
    | _ => rfl
  rw [hread, bind_eq_ok]
  simp only [readInteger_eq_ok]
  constructor
  · rintro ⟨n, hn, h⟩
    split at h
    · cases h
    · next hpositive =>
      cases h
      rwa [Int.toNat_of_nonneg (Int.not_lt.1 hpositive)]
  · intro h
    exact ⟨count, h, rfl⟩

/-! ## Pages -/

theorem readPage_eq_ok : c.readPage limit offset sort = .ok request ↔
    c.readPageLimit limit = .ok request.limit ∧ readPageOffset offset = .ok request.offset ∧
      SortToken.ofValue sort = .ok request.sort := by
  constructor
  · intro h
    obtain ⟨l, hlimit, h⟩ := bind_eq_ok.1 h
    obtain ⟨o, hoffset, h⟩ := bind_eq_ok.1 h
    obtain ⟨s, hsort, h⟩ := bind_eq_ok.1 h
    cases h
    exact ⟨hlimit, hoffset, hsort⟩
  · rintro ⟨hlimit, hoffset, hsort⟩
    exact bind_eq_ok.2 ⟨_, hlimit, bind_eq_ok.2 ⟨_, hoffset, bind_eq_ok.2 ⟨_, hsort, rfl⟩⟩⟩

/-- With a map under the page key, the page is read off the parameters in it. -/
theorem page_of_fields {fields : FilterMap} (h : filter.get? c.pageKey = some (.obj fields)) :
    c.page filter =
      c.readPage (parameter fields "limit") (parameter fields "offset") (parameter fields "sort") := by
  unfold page
  rw [h]

/-- Every page is read off some parameters. -/
theorem exists_readPage (h : c.page filter = .ok request) :
    ∃ limit offset sort, c.readPage limit offset sort = .ok request := by
  unfold page at h
  split at h
  · exact ⟨_, _, _, h⟩
  · exact ⟨_, _, _, h⟩
  · exact ⟨_, _, _, h⟩
  · cases h

theorem limits_of_validate (h : c.validate zones = .ok ()) :
    1 ≤ c.defaultLimit ∧ c.defaultLimit ≤ c.maxLimit := by
  unfold validate at h
  split at h
  · cases h
  · split at h
    · cases h
    · omega

theorem ceiling_eq (hmax : 1 ≤ c.maxLimit) :
    c.ceiling = min (c.maxLimit : Int) 9223372036854775807 := by
  unfold ceiling
  omega

theorem limit_bounds (hvalid : c.validate zones = .ok ())
    (h : c.readPageLimit value = .ok count) : 1 ≤ count ∧ count ≤ c.maxLimit := by
  obtain ⟨hdefault, hmax⟩ := limits_of_validate hvalid
  cases hvalue : value.isNull with
  | true =>
    cases value <;> cases hvalue
    cases h
    exact ⟨hdefault, hmax⟩
  | false =>
    obtain ⟨n, -, rfl⟩ := (readPageLimit_eq_ok hvalue).1 h
    rw [ceiling_eq (by omega)]
    omega

theorem offset_bound (h : readPageOffset value = .ok count) : count ≤ 9223372036854775807 := by
  cases hvalue : value.isNull with
  | true =>
    cases value <;> cases hvalue
    cases h
    exact Nat.zero_le _
  | false =>
    have hfits : Number.fitsInt64 count = true := by
      cases (readPageOffset_eq_ok hvalue).1 h with
      | number hfits => exact hfits
      | text _ hfits => exact hfits
    have hbound := (Number.fitsInt64_iff.1 hfits).2
    omega

/-- **Pages stay in bounds.** Settings that are valid, whatever zones there are, give every page at
least one row and at most the greatest size, and an offset of 63 bits. A limit that is given as an
integer is brought between one and the greatest size, and an offset that is given as one is taken as
it is, and is not below zero. With these bounds the position of the page among rows that 64 bits can
count is computed in 64 bits, with no step that leaves them or divides by zero. -/
theorem page_stays_in_bounds (hvalid : c.validate zones = .ok ())
    (hpage : c.page filter = .ok request) :
    1 ≤ request.limit ∧ request.limit ≤ c.maxLimit ∧ request.offset ≤ 9223372036854775807 ∧
    (∀ fields : FilterMap, filter.get? c.pageKey = some (.obj fields) →
      (∀ value n, fields.get? "limit" = some value → value.IsInteger n →
        (request.limit : Int) = max 1 (min n (min c.maxLimit 9223372036854775807))) ∧
      ∀ value n, fields.get? "offset" = some value → value.IsInteger n →
        0 ≤ n ∧ (request.offset : Int) = n) ∧
    ∀ (α : Type) (items : List α) (total : Nat), total < 18446744073709551616 →
      PageResult.ofRequest? items request total = some (.ofRequest items request total) := by
  obtain ⟨limit, offset, sort, hread⟩ := exists_readPage hpage
  obtain ⟨hlimit, hoffset, -⟩ := readPage_eq_ok.1 hread
  obtain ⟨hleast, hmost⟩ := limit_bounds hvalid hlimit
  have hbound := offset_bound hoffset
  refine ⟨hleast, hmost, hbound, ?_, ?_⟩
  · intro fields hfields
    rw [page_of_fields hfields] at hpage
    obtain ⟨hlimit, hoffset, -⟩ := readPage_eq_ok.1 hpage
    refine ⟨fun value n hvalue hn => ?_, fun value n hvalue hn => ?_⟩
    · have hgiven : parameter fields "limit" = value := by rw [parameter, hvalue, Option.getD_some]
      rw [hgiven, readPageLimit_eq_ok (isNull_of_isInteger hn)] at hlimit
      obtain ⟨k, hk, hcount⟩ := hlimit
      cases hk.unique hn
      rw [← hcount, ceiling_eq (by omega)]
      omega
    · have hgiven : parameter fields "offset" = value := by rw [parameter, hvalue, Option.getD_some]
      rw [hgiven, readPageOffset_eq_ok (isNull_of_isInteger hn)] at hoffset
      cases hoffset.unique hn
      exact ⟨Int.natCast_nonneg _, rfl⟩
  · intro α items total htotal
    exact PageResult.ofRequest?_eq items (by omega) htotal

/-- A limit beyond the greatest size, given as a text, is brought down to it, and the position among
the most rows that 64 bits can count is found. -/
theorem page_stays_in_bounds_clamped :
    let c : FilterConfig := .standard
    let filter : FilterMap :=
      [("_page", .obj [("limit", .str " 99000000 "), ("offset", .ofInt 7)])]
    c.validate = .ok () ∧ Json.IsInteger (.str " 99000000 ") 99000000 ∧
      ∃ request, c.page filter = .ok request ∧
        (request.limit : Int) = max 1 (min 99000000 (min c.maxLimit 9223372036854775807)) ∧
        (request.offset : Int) = 7 ∧
        PageResult.ofRequest? ["a"] request 18446744073709551615 =
          some (.ofRequest ["a"] request 18446744073709551615) := by
  intro c filter
  have hvalid : c.validate = .ok () := rfl
  have hlimit : Json.IsInteger (.str " 99000000 ") 99000000 :=
    .text (Number.readInt?_eq_some.1 (by decide)) (by decide)
  have hoffset : Json.IsInteger (.ofInt 7) 7 := .number (by decide)
  obtain ⟨request, hpage⟩ : ∃ request, c.page filter = .ok request := ⟨_, rfl⟩
  obtain ⟨-, -, -, hfields, hposition⟩ := page_stays_in_bounds hvalid hpage
  obtain ⟨hlimits, hoffsets⟩ := hfields _ rfl
  exact ⟨hvalid, hlimit, request, hpage, hlimits _ _ rfl hlimit, (hoffsets _ _ rfl hoffset).2,
    hposition _ _ _ (by decide)⟩

end FilterConfig

end RowFilter
