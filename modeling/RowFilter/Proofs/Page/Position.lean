import RowFilter.Page.Result
import RowFilter.Proofs.Number.Word

/-!
# Where a page stands among the rows

The number of a page rounds its offset down to whole pages, and the number of pages rounds the rows
up. Each of the two is the answer to a question about products: the pages up to a number have room
for all rows, and a number of whole pages fits in front of the offset. What a page says about itself
follows from these two, and is exact where the offset is a number of whole pages.
-/

namespace RowFilter

namespace PageResult

variable {α : Type} {items : List α} {request : PageSpec} {total k : Nat}

/-! ## Whole pages -/

/-- There are at most as many pages as have room for all rows. -/
theorem totalPages_le_iff (hlimit : 1 ≤ request.limit) :
    (ofRequest items request total).totalPages ≤ k ↔ total ≤ k * request.limit := by
  have hsize : max 1 request.limit = request.limit := Nat.max_eq_right hlimit
  simp only [ofRequest, hsize]
  rw [Nat.div_le_iff_le_mul_add_pred hlimit, Nat.mul_comm k]
  omega

/-- The pages have room for all rows. -/
theorem le_totalPages_mul (hlimit : 1 ≤ request.limit) :
    total ≤ (ofRequest items request total).totalPages * request.limit :=
  (totalPages_le_iff hlimit).1 (Nat.le_refl _)

/-- With one page less there is no room for all rows. -/
theorem pred_totalPages_mul_lt (hlimit : 1 ≤ request.limit) (hsome : 0 < total) :
    ((ofRequest items request total).totalPages - 1) * request.limit < total := by
  have hpositive : ¬ (ofRequest items request total).totalPages ≤ 0 := by
    rw [totalPages_le_iff hlimit]
    omega
  have hfewer : ¬ (ofRequest items request total).totalPages ≤
      (ofRequest items request total).totalPages - 1 := by omega
  rwa [totalPages_le_iff hlimit, Nat.not_le] at hfewer

theorem totalPages_of_no_rows (hlimit : 1 ≤ request.limit) :
    (ofRequest items request 0).totalPages = 0 :=
  Nat.le_zero.1 ((totalPages_le_iff hlimit).2 (Nat.zero_le _))

/-- A page comes behind as many others as fit in front of its offset. -/
theorem lt_currentPage_iff (hlimit : 1 ≤ request.limit) :
    k < (ofRequest items request total).currentPage ↔ k * request.limit ≤ request.offset := by
  have hsize : max 1 request.limit = request.limit := Nat.max_eq_right hlimit
  simp only [ofRequest, hsize]
  rw [Nat.lt_succ_iff, Nat.le_div_iff_mul_le hlimit]

/-- The rows of a page end no earlier than the whole pages up to its number. -/
theorem currentPage_mul_le (hlimit : 1 ≤ request.limit) :
    (ofRequest items request total).currentPage * request.limit ≤
      request.offset + request.limit := by
  have hbehind : request.offset / max 1 request.limit <
      (ofRequest items request total).currentPage := Nat.lt_succ_self _
  have hpages := (lt_currentPage_iff hlimit).1 hbehind
  calc (ofRequest items request total).currentPage * request.limit
      = request.offset / max 1 request.limit * request.limit + request.limit := Nat.succ_mul _ _
    _ ≤ request.offset + request.limit := Nat.add_le_add_right hpages _

/-- The number of a page whose offset is a number of whole pages. -/
theorem currentPage_of_aligned (hlimit : 1 ≤ request.limit)
    (hoffset : request.offset = k * request.limit) :
    (ofRequest items request total).currentPage = k + 1 := by
  have hsize : max 1 request.limit = request.limit := Nat.max_eq_right hlimit
  simp only [ofRequest, hsize, hoffset]
  rw [Nat.mul_div_cancel _ hlimit]

/-- The rows of such a page end where the whole pages up to its number do. -/
theorem currentPage_mul_of_aligned (hlimit : 1 ≤ request.limit)
    (hdvd : request.limit ∣ request.offset) :
    (ofRequest items request total).currentPage * request.limit =
      request.offset + request.limit := by
  obtain ⟨k, hk⟩ := hdvd
  have hoffset : request.offset = k * request.limit := hk.trans (Nat.mul_comm _ _)
  rw [currentPage_of_aligned hlimit hoffset, Nat.succ_mul, ← hoffset]

theorem hasNext_iff (hlimit : 1 ≤ request.limit) :
    (ofRequest items request total).hasNext = true ↔
      (ofRequest items request total).currentPage * request.limit < total := by
  rw [hasNext, decide_eq_true_iff, ← Nat.not_le, totalPages_le_iff hlimit, Nat.not_le]

theorem isLast_iff (hlimit : 1 ≤ request.limit) :
    (ofRequest items request total).isLast = true ↔
      total ≤ (ofRequest items request total).currentPage * request.limit := by
  rw [isLast, Bool.not_eq_true', ← Bool.not_eq_true, hasNext_iff hlimit, Nat.not_lt]

theorem hasPrevious_iff (hlimit : 1 ≤ request.limit) :
    (ofRequest items request total).hasPrevious = true ↔ request.limit ≤ request.offset := by
  rw [hasPrevious, decide_eq_true_iff, lt_currentPage_iff hlimit, Nat.one_mul]

/-! ## In 64 bits -/

/-- The page that a request gets, computed step by step in 64 bits. -/
def ofRequest? (items : List α) (request : PageSpec) (totalRows : Nat) :
    Option (PageResult α) := do
  let size := max 1 request.limit
  let (before, _) ← Number.divModWord? request.offset size
  let currentPage ← Number.addWord? before 1
  let totalPages ← Number.divCeilWord? totalRows size
  some ⟨items, currentPage, totalPages, size, totalRows⟩

/-- No step leaves 64 bits or divides by zero. -/
theorem ofRequest?_eq (items : List α) (hoffset : request.offset < 18446744073709551615)
    (htotal : total < 18446744073709551616) :
    ofRequest? items request total = some (ofRequest items request total) := by
  have hsize : 0 < max 1 request.limit := Nat.lt_of_lt_of_le Nat.one_pos (Nat.le_max_left _ _)
  have hbefore : request.offset / max 1 request.limit ≤ request.offset := Nat.div_le_self _ _
  have hcurrent := Number.addWord?_eq (a := request.offset / max 1 request.limit) (b := 1) (by omega)
  simp only [ofRequest?, Number.divModWord?_eq hsize, hcurrent, Number.divCeilWord?_eq hsize htotal,
    Option.bind_eq_bind, Option.bind_some]
  rfl

/-! ## The descriptor -/

/-- **A page tells where it stands.** The pages have room for all rows, and with one page less they
have not; a page that calls itself the last has no row behind it, and one that has a previous page
has rows in front of it. Where the offset is a number of whole pages, there is a next page exactly if
there are rows behind this one and a previous page exactly if there are rows in front of it, and the
page that begins where this one ends has the next number. -/
theorem stands_among_rows {limit : Nat} (hlimit : 1 ≤ limit) (items behind : List α)
    (offset total : Nat) (sort : List SortToken) :
    let page := ofRequest items ⟨limit, offset, sort⟩ total
    page.pageSize = limit ∧ page.totalRows = total ∧
    (0 < page.totalRows → (page.totalPages - 1) * page.pageSize < page.totalRows ∧
      page.totalRows ≤ page.totalPages * page.pageSize) ∧
    (page.totalRows = 0 → page.totalPages = 0) ∧
    (page.isLast = true → page.totalRows ≤ offset + limit) ∧
    (page.hasPrevious = true → 0 < offset) ∧
    (limit ∣ offset →
      (page.hasNext = true ↔ offset + limit < page.totalRows) ∧
      (page.hasPrevious = true ↔ 0 < offset) ∧
      (ofRequest behind ⟨limit, offset + limit, sort⟩ total).currentPage = page.currentPage + 1) := by
  intro page
  have hsize : page.pageSize = limit := Nat.max_eq_right hlimit
  have hrows : page.totalRows = total := rfl
  have hcurrent : page.currentPage * limit ≤ offset + limit := currentPage_mul_le hlimit
  rw [hsize, hrows]
  refine ⟨rfl, rfl, ?_, ?_, ?_, ?_, ?_⟩
  · intro hsome
    exact ⟨pred_totalPages_mul_lt hlimit hsome, le_totalPages_mul hlimit⟩
  · rintro rfl
    exact totalPages_of_no_rows hlimit
  · intro hlast
    exact Nat.le_trans ((isLast_iff hlimit).1 hlast) hcurrent
  · intro hprevious
    exact Nat.lt_of_lt_of_le hlimit ((hasPrevious_iff hlimit).1 hprevious)
  · intro hdvd
    have hend : page.currentPage * limit = offset + limit := currentPage_mul_of_aligned hlimit hdvd
    refine ⟨?_, ?_, ?_⟩
    · rw [hasNext_iff hlimit]
      exact iff_of_eq (congrArg (· < total) hend)
    · rw [hasPrevious_iff hlimit]
      exact ⟨Nat.lt_of_lt_of_le hlimit, fun hpositive => Nat.le_of_dvd hpositive hdvd⟩
    · exact currentPage_of_aligned hlimit hend.symm

/-- Eight rows in pages of three: the page at offset three is the second of three. -/
theorem stands_among_rows_second :
    let page : PageResult Nat := ofRequest [3, 4, 5] ⟨3, 3, []⟩ 8
    1 ≤ 3 ∧ 3 ∣ 3 ∧ page.totalPages = 3 ∧ page.hasNext = true ∧ page.hasPrevious = true ∧
      (ofRequest [6, 7] ⟨3, 3 + 3, []⟩ 8).currentPage = page.currentPage + 1 := by
  intro page
  have hlimit : 1 ≤ 3 := by decide
  obtain ⟨-, -, -, -, -, -, haligned⟩ := stands_among_rows hlimit [3, 4, 5] [6, 7] 3 8 []
  obtain ⟨hnext, hprevious, hnumber⟩ := haligned ⟨1, rfl⟩
  exact ⟨hlimit, ⟨1, rfl⟩, rfl, hnext.2 (by decide), hprevious.2 (by decide), hnumber⟩

end PageResult

end RowFilter
