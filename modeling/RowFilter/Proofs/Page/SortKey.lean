import RowFilter.Page.Request

/-!
# The sort key

A filter map without a page is sorted by what stands under its sort key, and the entry is then no
condition. Two functions decide this on their own: reading the page asks whether the value under the
page key is a map, and dropping the entry asks whether there is a page key at all. They agree but in
one case, a null under the page key: the entry is then both the order and a condition.
-/

namespace RowFilter

namespace FilterConfig

variable {c : FilterConfig} {filter : FilterMap}

/-- Whether the page takes its order from the entry under the sort key: there is one, and with
another value there the page is another one. -/
def SortsByKey (c : FilterConfig) (filter : FilterMap) : Prop :=
  filter.contains c.sortKey = true ∧
    ∃ value, c.page (filter.insert c.sortKey value) ≠ c.page filter

/-- Whether the entry under the sort key is there and does not count as a condition. -/
def DropsSortKey (c : FilterConfig) (filter : FilterMap) : Prop :=
  filter.contains c.sortKey = true ∧ (c.conditions filter).contains c.sortKey = false

/-! ## What the page reads -/

theorem parameter_insert_self (filter : FilterMap) (key : String) (value : Json) :
    parameter (filter.insert key value) key = value := by
  simp [parameter]

/-- There is always another order that makes another page: a truth value is no order, and a missing
one is. -/
theorem exists_readPage_ne (c : FilterConfig) (sort : Json) :
    ∃ value, c.readPage .null .null value ≠ c.readPage .null .null sort := by
  have hnull : c.readPage .null .null .null = .ok ⟨c.defaultLimit, 0, []⟩ := rfl
  have hbool : ∃ e, c.readPage .null .null (.bool true) = .error e := ⟨_, rfl⟩
  obtain ⟨e, hbool⟩ := hbool
  by_cases hsort : c.readPage .null .null sort = .error e
  · refine ⟨.null, ?_⟩
    rw [hnull, hsort]
    exact nofun
  · refine ⟨.bool true, ?_⟩
    rw [hbool]
    exact fun h => hsort h.symm

/-- Without a map under the page key and with nothing else there, the order is read off the sort
key. -/
theorem page_of_no_page (h : filter.get? c.pageKey = none ∨ filter.get? c.pageKey = some .null) :
    c.page filter = c.readPage .null .null (parameter filter c.sortKey) := by
  unfold page
  rcases h with h | h <;> rw [h]

/-- With any other value under the page key, the page is the same for filter maps that agree
there. -/
theorem page_congr {other : FilterMap} {value : Json} (hvalue : value.isNull = false)
    (hpage : filter.get? c.pageKey = some value)
    (h : other.get? c.pageKey = filter.get? c.pageKey) : c.page other = c.page filter := by
  unfold page
  rw [h, hpage]
  cases value with
  | null => cases hvalue
  | bool b | num n | str s | arr items | obj fields => rfl

theorem sortsByKey_iff (hkeys : c.pageKey ≠ c.sortKey) :
    c.SortsByKey filter ↔ filter.contains c.sortKey = true ∧
      (filter.get? c.pageKey = none ∨ filter.get? c.pageKey = some .null) := by
  have hinsert : ∀ value, (filter.insert c.sortKey value).get? c.pageKey = filter.get? c.pageKey :=
    fun value => Keyed.get?_insert_of_ne filter value hkeys.symm
  refine and_congr_right fun _ => ⟨fun h => ?_, fun h => ?_⟩
  · obtain ⟨value, hvalue⟩ := h
    cases hpage : filter.get? c.pageKey with
    | none => exact .inl rfl
    | some page =>
      cases hnull : page.isNull with
      | true =>
        cases page <;> cases hnull
        exact .inr rfl
      | false => exact absurd (page_congr hnull hpage (hinsert value)) hvalue
  · obtain ⟨value, hvalue⟩ := c.exists_readPage_ne (parameter filter c.sortKey)
    refine ⟨value, ?_⟩
    have hpage : c.page (filter.insert c.sortKey value) = c.readPage .null .null value := by
      rw [page_of_no_page (by rwa [hinsert]), parameter_insert_self]
    rw [hpage, page_of_no_page h]
    exact hvalue

/-! ## What the conditions keep -/

theorem asksForPage_eq_false : c.asksForPage filter = false ↔ filter.get? c.pageKey = none := by
  unfold asksForPage Keyed.contains
  simp

theorem dropsSortKey_iff (hkeys : c.pageKey ≠ c.sortKey) :
    c.DropsSortKey filter ↔ filter.contains c.sortKey = true ∧ filter.get? c.pageKey = none := by
  refine and_congr_right fun hsort => ?_
  rw [← asksForPage_eq_false]
  unfold conditions
  cases hpage : c.asksForPage filter with
  | true =>
    have hkept : (filter.erase c.pageKey).contains c.sortKey = true := by
      rw [Keyed.contains, Keyed.get?_erase_of_ne filter hkeys]
      exact hsort
    simp [hkept]
  | false => simp [Keyed.contains]

/-- Every other entry, but for the page, stays a condition as it is. -/
theorem get?_conditions {key : String} (hpage : key ≠ c.pageKey) (hsort : key ≠ c.sortKey) :
    (c.conditions filter).get? key = filter.get? key := by
  unfold conditions
  split
  · exact Keyed.get?_erase_of_ne filter hpage.symm
  · exact Keyed.get?_erase_of_ne filter hsort.symm

/-- **The sort key is consumed once, unless the page is null**: where the entry under the sort key
is dropped from the conditions, it is the order of the page, and the two go together exactly if the
filter map does not have both that entry and a null under the page key. A page that is not sorted by
the entry does not depend on it, and no other condition is lost. -/
theorem dropsSortKey_iff_sortsByKey (hkeys : c.pageKey ≠ c.sortKey) (filter : FilterMap) :
    ((c.DropsSortKey filter ↔ c.SortsByKey filter) ↔
      ¬ (filter.contains c.sortKey = true ∧ filter.get? c.pageKey = some .null)) ∧
    (c.DropsSortKey filter → c.SortsByKey filter) ∧
    (c.SortsByKey filter →
      c.page filter = c.readPage .null .null (parameter filter c.sortKey)) ∧
    ∀ key, key ≠ c.pageKey → key ≠ c.sortKey →
      (c.conditions filter).get? key = filter.get? key := by
  rw [dropsSortKey_iff hkeys, sortsByKey_iff hkeys]
  refine ⟨?_, ?_, ?_, ?_⟩
  · by_cases hsort : filter.contains c.sortKey = true
    · cases hpage : filter.get? c.pageKey with
      | none => simp [hsort]
      | some value => simp [hsort]
    · simp [hsort]
  · intro h
    exact ⟨h.1, .inl h.2⟩
  · intro h
    exact page_of_no_page h.2
  · intro key hpage hsort
    exact get?_conditions hpage hsort

/-- The order of a filter map without a page is read off its sort key and dropped from its
conditions. -/
theorem dropsSortKey_iff_sortsByKey_books :
    let c : FilterConfig := .standard
    let filter : FilterMap := [("title", .str "x"), ("sort", .str "-title")]
    c.pageKey ≠ c.sortKey ∧ c.DropsSortKey filter ∧ c.SortsByKey filter ∧
      c.page filter = .ok ⟨10000, 0, [⟨"title", .descending⟩]⟩ := by
  intro c filter
  have hkeys : c.pageKey ≠ c.sortKey := by decide
  obtain ⟨_, hsorts, hpage, _⟩ := dropsSortKey_iff_sortsByKey hkeys filter
  have hdrops : c.DropsSortKey filter := ⟨by decide, by decide⟩
  exact ⟨hkeys, hdrops, hsorts hdrops, hpage (hsorts hdrops)⟩

/-- With a null under the page key, the page is sorted by the sort key and the entry is a condition
too. -/
theorem sortsByKey_and_keeps_null_page :
    let c : FilterConfig := .standard
    let filter : FilterMap := [("_page", .null), ("sort", .str "title")]
    c.page filter = .ok ⟨10000, 0, [⟨"title", .ascending⟩]⟩ ∧
      (c.conditions filter).get? "sort" = some (.str "title") ∧
      c.pageKey ≠ c.sortKey ∧ ¬ (c.DropsSortKey filter ↔ c.SortsByKey filter) := by
  intro c filter
  have hkeys : c.pageKey ≠ c.sortKey := by decide
  refine ⟨rfl, rfl, hkeys, fun h => ?_⟩
  have hsorts : c.SortsByKey filter := (sortsByKey_iff hkeys).2 ⟨by decide, .inr rfl⟩
  have hdrops : c.DropsSortKey filter := h.2 hsorts
  exact Bool.noConfusion hdrops.2

end FilterConfig

end RowFilter
