import RowFilter.Filter.Draft
import RowFilter.Proofs.Page.Bounds
import RowFilter.Proofs.Page.SortNotation

/-!
# Drafted pages are read back

A draft writes its limit and its offset as natural numbers of any size, and its sort tokens as a
list of texts. The page is read back from what the draft writes, with the limit brought between one
and the greatest size, as long as both numbers fit 64 bits with a sign: the reader has no greater
integers, and complains about the first parameter that is one.
-/

namespace RowFilter

/-! ## Natural numbers as parameters -/

section

variable {count : Nat}

theorem Json.isInteger_ofNat {n : Int} :
    (ofNat count).IsInteger n ↔ count ≤ 9223372036854775807 ∧ n = count := by
  constructor
  · intro h
    cases h with
    | number hfits =>
      have hbound := (Number.fitsInt64_iff.1 hfits).2
      exact ⟨by omega, rfl⟩
  · rintro ⟨hbound, rfl⟩
    exact .number (Number.fitsInt64_iff.2 (by omega))

theorem Json.text_ofNat (count : Nat) : (ofNat count).text = Number.natText count := by
  have hsign : ¬ (count : Int) < 0 := Int.not_lt.2 (Int.natCast_nonneg count)
  change Number.intText count = Number.natText count
  rw [Number.intText, Number.intDigits, if_neg hsign, Int.natAbs_natCast]
  rfl

namespace FilterConfig

variable {c : FilterConfig}

theorem readPageLimit_ofNat (hmax : 1 ≤ c.maxLimit) (h : count ≤ 9223372036854775807) :
    c.readPageLimit (.ofNat count) = .ok (max 1 (min count c.maxLimit)) := by
  rw [readPageLimit_eq_ok rfl]
  refine ⟨count, Json.isInteger_ofNat.2 ⟨h, rfl⟩, ?_⟩
  rw [ceiling_eq hmax]
  omega

theorem readPageOffset_ofNat (h : count ≤ 9223372036854775807) :
    readPageOffset (.ofNat count) = .ok count :=
  (readPageOffset_eq_ok rfl).2 (Json.isInteger_ofNat.2 ⟨h, rfl⟩)

/-- Beyond 63 bits a natural number is no integer to the reader. -/
theorem readInteger_ofNat_of_beyond (name : String) (h : 9223372036854775807 < count) :
    readInteger name (.ofNat count) = .error (.notInteger name (Number.natText count)) := by
  rw [readInteger_of_no_integer, Json.text_ofNat]
  intro n hn
  exact absurd (Json.isInteger_ofNat.1 hn).1 (Nat.not_le.2 h)

theorem readPageLimit_ofNat_of_beyond (h : 9223372036854775807 < count) :
    c.readPageLimit (.ofNat count) = .error (.notInteger "limit" (Number.natText count)) := by
  change (readInteger "limit" (.ofNat count) >>= _) = _
  rw [readInteger_ofNat_of_beyond "limit" h]
  rfl

theorem readPageOffset_ofNat_of_beyond (h : 9223372036854775807 < count) :
    readPageOffset (.ofNat count) = .error (.notInteger "offset" (Number.natText count)) := by
  change (readInteger "offset" (.ofNat count) >>= _) = _
  rw [readInteger_ofNat_of_beyond "offset" h]
  rfl

end FilterConfig

end

/-- A list of texts is read as the tokens that they stand for. -/
theorem SortToken.ofValue_texts {tokens : List String} {sort : List SortToken}
    (h : List.Forall₂ (fun token t => ofText token = .ok t) tokens sort) :
    ofValue (.arr (tokens.map .str)) = .ok sort :=
  (ofValue_list tokens).trans (mapM_of_forall₂ h)

/-! ## Drafts -/

namespace FilterDraft

open FilterConfig (standard parameter)

variable {tokens : List String} {sort : List SortToken}

/-- Sort tokens are kept in the order in which they are added. -/
theorem foldl_sortedBy (d : FilterDraft) (tokens : List String) :
    tokens.foldl sortedBy d = { d with sort := d.sort ++ tokens } := by
  induction tokens generalizing d with
  | nil => simp
  | cons token rest ih => simp [ih, sortedBy]

/-- The draft of a page and nothing else. -/
def ofPage (limit offset : Nat) (tokens : List String) : FilterDraft :=
  tokens.foldl sortedBy ((empty.limit limit).offset offset)

theorem ofPage_eq (limit offset : Nat) (tokens : List String) :
    ofPage limit offset tokens =
      ⟨[], [("limit", .ofNat limit), ("offset", .ofNat offset)], tokens⟩ := by
  rw [ofPage, foldl_sortedBy]
  rfl

theorem pageMap_ofPage (limit offset : Nat) (tokens : List String) :
    (ofPage limit offset tokens).pageMap =
      ("limit", .ofNat limit) :: ("offset", .ofNat offset) ::
        if tokens.isEmpty then [] else [("sort", .arr (tokens.map .str))] := by
  rw [ofPage_eq, pageMap]
  dsimp only
  split <;> rfl

theorem toMap_ofPage (limit offset : Nat) (tokens : List String) :
    (ofPage limit offset tokens).toMap =
      [(standard.pageKey, .obj (ofPage limit offset tokens).pageMap)] := by
  have hpage : (ofPage limit offset tokens).pageMap.isEmpty = false := by
    rw [pageMap_ofPage]
    rfl
  rw [toMap, hpage, ofPage_eq]
  rfl

theorem ofValue_ofPage {limit offset : Nat}
    (h : List.Forall₂ (fun token t => SortToken.ofText token = .ok t) tokens sort) :
    SortToken.ofValue (parameter (ofPage limit offset tokens).pageMap "sort") = .ok sort := by
  rw [pageMap_ofPage]
  cases tokens with
  | nil =>
    cases h
    rfl
  | cons token rest => exact SortToken.ofValue_texts h

/-- The page of a draft is read off its two numbers and its tokens. -/
theorem page_ofPage (limit offset : Nat) (tokens : List String) :
    standard.page (ofPage limit offset tokens).toMap =
      standard.readPage (.ofNat limit) (.ofNat offset)
        (parameter (ofPage limit offset tokens).pageMap "sort") := by
  have hpage : (ofPage limit offset tokens).toMap.get? standard.pageKey =
      some (.obj (ofPage limit offset tokens).pageMap) := by
    rw [toMap_ofPage]
    rfl
  have hlimit : parameter (ofPage limit offset tokens).pageMap "limit" = .ofNat limit := by
    rw [pageMap_ofPage]
    rfl
  have hoffset : parameter (ofPage limit offset tokens).pageMap "offset" = .ofNat offset := by
    rw [pageMap_ofPage]
    rfl
  rw [FilterConfig.page_of_fields hpage, hlimit, hoffset]

theorem page_of_fitting {limit offset : Nat}
    (hsort : List.Forall₂ (fun token t => SortToken.ofText token = .ok t) tokens sort)
    (hlimit : limit ≤ 9223372036854775807) (hoffset : offset ≤ 9223372036854775807) :
    standard.page (ofPage limit offset tokens).toMap =
      .ok ⟨max 1 (min limit standard.maxLimit), offset, sort⟩ := by
  have hmax : 1 ≤ standard.maxLimit := by decide
  rw [page_ofPage]
  exact FilterConfig.readPage_eq_ok.2
    ⟨FilterConfig.readPageLimit_ofNat hmax hlimit, FilterConfig.readPageOffset_ofNat hoffset,
      ofValue_ofPage hsort⟩

theorem page_of_limit_beyond {limit : Nat} (offset : Nat) (tokens : List String)
    (hlimit : 9223372036854775807 < limit) :
    standard.page (ofPage limit offset tokens).toMap =
      .error (.notInteger "limit" (Number.natText limit)) := by
  rw [page_ofPage, FilterConfig.readPage, FilterConfig.readPageLimit_ofNat_of_beyond hlimit]
  rfl

/-- The offset is complained about only behind a limit that is read. -/
theorem page_of_offset_beyond {limit offset : Nat} (tokens : List String)
    (hlimit : limit ≤ 9223372036854775807) (hoffset : 9223372036854775807 < offset) :
    standard.page (ofPage limit offset tokens).toMap =
      .error (.notInteger "offset" (Number.natText offset)) := by
  have hmax : 1 ≤ standard.maxLimit := by decide
  rw [page_ofPage, FilterConfig.readPage, FilterConfig.readPageLimit_ofNat hmax hlimit,
    FilterConfig.readPageOffset_ofNat_of_beyond hoffset]
  rfl

/-- A draft of a page states no conditions. -/
theorem conditions_ofPage (limit offset : Nat) (tokens : List String) :
    standard.conditions (ofPage limit offset tokens).toMap = [] := by
  rw [toMap_ofPage]
  rfl

/-- **A drafted page is read back exactly if its numbers fit 64 bits with a sign.** The filter map
that a draft of a limit, an offset and sort tokens makes has no conditions. Its page is the one that
was drafted, with the limit brought between one and the greatest size, if and only if neither number
is greater than 63 bits can hold; otherwise the reader complains that the first one which is greater
is no integer. -/
theorem page_read_back_iff
    (hsort : List.Forall₂ (fun token t => SortToken.ofText token = .ok t) tokens sort)
    (limit offset : Nat) :
    let filter := (ofPage limit offset tokens).toMap
    standard.conditions filter = [] ∧
    (standard.page filter = .ok ⟨max 1 (min limit standard.maxLimit), offset, sort⟩ ↔
      limit ≤ 9223372036854775807 ∧ offset ≤ 9223372036854775807) ∧
    (9223372036854775807 < limit →
      standard.page filter = .error (.notInteger "limit" (Number.natText limit))) ∧
    (limit ≤ 9223372036854775807 → 9223372036854775807 < offset →
      standard.page filter = .error (.notInteger "offset" (Number.natText offset))) := by
  intro filter
  have hlimit : 9223372036854775807 < limit →
      standard.page filter = .error (.notInteger "limit" (Number.natText limit)) :=
    page_of_limit_beyond offset tokens
  have hoffset : limit ≤ 9223372036854775807 → 9223372036854775807 < offset →
      standard.page filter = .error (.notInteger "offset" (Number.natText offset)) :=
    page_of_offset_beyond tokens
  refine ⟨conditions_ofPage limit offset tokens, ⟨fun hread => ?_, ?_⟩, hlimit, hoffset⟩
  · have hfirst : limit ≤ 9223372036854775807 := by
      by_contra hbeyond
      cases hread.symm.trans (hlimit (Nat.not_le.1 hbeyond))
    refine ⟨hfirst, ?_⟩
    by_contra hbeyond
    cases hread.symm.trans (hoffset hfirst (Nat.not_le.1 hbeyond))
  · rintro ⟨hfits, hfits'⟩
    exact page_of_fitting hsort hfits hfits'

/-- The greatest limit that is read is brought down to the greatest size, and the tokens keep their
order. -/
theorem page_read_back_iff_sorted :
    let filter := (ofPage 9223372036854775807 40 ["-published", "title"]).toMap
    List.Forall₂ (fun token t => SortToken.ofText token = .ok t) ["-published", "title"]
      [⟨"published", .descending⟩, ⟨"title", .ascending⟩] ∧
      standard.conditions filter = [] ∧
      standard.page filter =
        .ok ⟨10000000, 40, [⟨"published", .descending⟩, ⟨"title", .ascending⟩]⟩ := by
  intro filter
  have hsort : List.Forall₂ (fun token t => SortToken.ofText token = .ok t) ["-published", "title"]
      [⟨"published", .descending⟩, ⟨"title", .ascending⟩] := .cons rfl (.cons rfl .nil)
  obtain ⟨hconditions, hpage, -⟩ := page_read_back_iff hsort 9223372036854775807 40
  have hlimit : max 1 (min 9223372036854775807 standard.maxLimit) = 10000000 := by decide
  rw [hlimit] at hpage
  exact ⟨hsort, hconditions, hpage.2 (by decide)⟩

/-- The least limit beyond 63 bits is not brought down but refused. -/
theorem page_limit_beyond_63_bits :
    let filter := (ofPage 9223372036854775808 0 []).toMap
    standard.page filter = .error (.notInteger "limit" "9223372036854775808") ∧
      standard.page filter ≠ .ok ⟨max 1 (min 9223372036854775808 standard.maxLimit), 0, []⟩ := by
  intro filter
  have hpage : standard.page filter = .error (.notInteger "limit" "9223372036854775808") :=
    page_of_limit_beyond 0 [] (by decide)
  refine ⟨hpage, ?_⟩
  rw [hpage]
  exact nofun

end FilterDraft

end RowFilter
