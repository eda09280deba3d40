import RowFilter.Proofs.Filter.Typing
import RowFilter.Proofs.Page.Position
import RowFilter.Proofs.Service.Outcome

/-!
# Pages and the rows they show

Every page of a filter map is a window of the same sorted rows, and its total counts them. As the
number of pages is rounded up, the pages of one size laid end to end leave no row out.
-/

namespace RowFilter

section

variable {α : Type}

/-- The first windows of one size, laid end to end. -/
theorem flatMap_windows (items : List α) (n total : Nat) :
    (List.range total).flatMap (fun k => (items.drop (k * n)).take n) =
      items.take (total * n) := by
  induction total with
  | zero => simp
  | succ total ih =>
    rw [List.range_succ, List.flatMap_append, ih, Nat.succ_mul, List.take_add]
    simp

end

namespace FilterService

variable {s : FilterService} {store : MemoryStore} {entity : String} {filter : FilterMap}

/-- The pages of one size that a list of rows is cut into, in the order of a request. -/
theorem exists_pages {sort : List SortToken} {found : List Row}
    (h : s.Finds store entity filter sort found) {n : Nat} (hn : 1 ≤ n) :
    ∃ total pages,
      (∀ k, ∃ page, s.pageOf store entity filter ⟨n, k * n, sort⟩ = .ok page ∧
        page.totalPages = total) ∧
      (List.range total).mapM (fun k => s.pageOf store entity filter ⟨n, k * n, sort⟩) = .ok pages ∧
      pages.flatMap PageResult.items = sorted ⟨n, 0, sort⟩ found := by
  have hpage : ∀ k, s.pageOf store entity filter ⟨n, k * n, sort⟩ =
      .ok (.ofRequest (((sorted ⟨n, 0, sort⟩ found).drop (k * n)).take n) ⟨n, k * n, sort⟩
        found.length) := fun k => pageOf_eq_ok.2 ⟨found, h, rfl⟩
  let first : PageResult Record := .ofRequest [] ⟨n, 0, sort⟩ found.length
  have hroom : found.length ≤ first.totalPages * n := PageResult.le_totalPages_mul hn
  refine ⟨first.totalPages, _, fun k => ⟨_, hpage k, rfl⟩, mapM_eq_ok hpage _, ?_⟩
  rw [List.flatMap_map]
  refine (flatMap_windows _ n _).trans (List.take_of_length_le ?_)
  rwa [length_sorted]

/-- **Pages tile the rows**: where all rows that satisfy a filter map can be fetched, the page that it
asks for is a window of them and counts them, and the pages of any size, laid end to end, are these
rows, in their order. -/
theorem pages_tile {rows : List Record} (h : s.filter store entity filter = .ok rows) :
    ∃ request, s.config.page filter = .ok request ∧
      (∃ page, s.page store entity filter = .ok page ∧
        page.items = (rows.drop request.offset).take request.limit ∧
        page.totalRows = rows.length) ∧
      ∀ n, 1 ≤ n → ∃ total pages,
        (∀ k, ∃ page, s.pageOf store entity filter ⟨n, k * n, request.sort⟩ = .ok page ∧
          page.totalPages = total) ∧
        (List.range total).mapM
          (fun k => s.pageOf store entity filter ⟨n, k * n, request.sort⟩) = .ok pages ∧
        pages.flatMap PageResult.items = rows := by
  obtain ⟨request, found, hrequest, hfound, rfl⟩ := filter_eq_ok.1 h
  refine ⟨request, hrequest, ?_, fun n hn => exists_pages hfound hn⟩
  refine ⟨_, page_eq_ok.2 ⟨request, hrequest, pageOf_eq_ok.2 ⟨found, hfound, rfl⟩⟩, rfl, ?_⟩
  rw [length_sorted]
  rfl

/-- The two people sorted by their age, one on each page. -/
theorem pages_tile_friends :
    let s : FilterService := .ofCatalog .people
    let filter : FilterMap := [("sort", .str "-age")]
    ∃ rows, s.filter .friends "person" filter = .ok rows ∧ rows.length = 2 ∧
      ∃ request, s.config.page filter = .ok request ∧ request.sort ≠ [] ∧ ∃ total pages,
        (List.range total).mapM
          (fun k => s.pageOf .friends "person" filter ⟨1, k * 1, request.sort⟩) = .ok pages ∧
        pages.flatMap PageResult.items = rows := by
  intro s filter
  obtain ⟨rows, hrows, hlength⟩ :
      ∃ rows, s.filter .friends "person" filter = .ok rows ∧ rows.length = 2 := ⟨_, rfl, rfl⟩
  obtain ⟨request, hrequest, _, hpages⟩ := pages_tile hrows
  have hsort : request.sort ≠ [] := by
    cases hrequest
    decide
  obtain ⟨total, pages, _, hpages, htiles⟩ := hpages 1 (by decide)
  exact ⟨rows, hrows, hlength, request, hrequest, hsort, total, pages, hpages, htiles⟩

end FilterService

end RowFilter
