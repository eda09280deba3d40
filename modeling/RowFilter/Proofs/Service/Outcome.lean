import RowFilter.Proofs.Success
import RowFilter.Service

/-!
# What service calls go through

A call of the service that succeeds has looked up the schema, read and compiled the conditions, read
the order and run the selection. Fetching all rows and fetching a page find the same rows in the same
order; a page takes its window of them and counts them.
-/

namespace RowFilter

/-- Which rows pass does not depend on the order and the window of a selection. -/
theorem MemoryStore.matching_ordered {store : MemoryStore} {collection : String}
    {selection : Selection} {order : Option (List OrderItem)} {limit offset : Option Nat} :
    store.matching collection
        { selection with orderBy := order, limit := limit, offset := offset } =
      store.matching collection selection := by
  unfold matching
  induction store.rows collection with
  | nil => rfl
  | cons row rest ih => rw [passing, passing, ih]

theorem MemoryStore.passing_sublist {selection : Selection} {rows found : List Row}
    (h : passing selection rows = .ok found) : found.Sublist rows := by
  induction rows generalizing found with
  | nil =>
    cases h
    exact .slnil
  | cons row rest ih =>
    obtain ⟨passes, _, h⟩ := bind_eq_ok.1 h
    obtain ⟨others, hothers, h⟩ := bind_eq_ok.1 h
    cases h
    cases passes with
    | false => exact (ih hothers).cons row
    | true => exact (ih hothers).cons_cons row

/-- Each row that was found passes by itself. -/
theorem MemoryStore.passes_of_passing {selection : Selection} {rows found : List Row}
    (h : passing selection rows = .ok found) :
    ∀ row ∈ found, selection.predicate.passes row selection.joins = .ok true := by
  induction rows generalizing found with
  | nil =>
    cases h
    exact nofun
  | cons row rest ih =>
    obtain ⟨passes, hpasses, h⟩ := bind_eq_ok.1 h
    obtain ⟨others, hothers, h⟩ := bind_eq_ok.1 h
    cases h
    cases passes with
    | false => exact ih hothers
    | true => exact List.forall_mem_cons.2 ⟨hpasses, ih hothers⟩

theorem MemoryStore.fetch_eq_ok {store : MemoryStore} {collection : String} {s : Selection}
    {records : List Record} : store.fetch collection s = .ok records ↔
      ∃ rows, store.matching collection s = .ok rows ∧
        records = window s.offset s.limit ((Row.sort (s.orderBy.getD []) rows).map Row.record) := by
  unfold fetch
  rw [bind_eq_ok]
  exact exists_congr fun rows => and_congr_right' ⟨fun h => (Except.ok.inj h).symm,
    fun h => congrArg Except.ok h.symm⟩

namespace FilterService

variable {s : FilterService} {store : MemoryStore} {schema : FieldSchema} {entity : String}
  {filter : FilterMap} {selection : Selection} {request : PageSpec}

/-! ## Selections -/

theorem criteria_ok (h : s.criteria schema filter = .ok selection) :
    ∃ nodes compiled,
      FilterNode.ofMap schema s.config.pageKey .and (s.config.conditions filter) = .ok nodes ∧
      s.context.compile schema nodes = .ok compiled ∧
      selection.predicate = addCriteria compiled.predicate (s.extra schema) ∧
      selection.joins = compiled.joins := by
  obtain ⟨nodes, hnodes, h⟩ := bind_eq_ok.1 h
  obtain ⟨compiled, hcompile, h⟩ := bind_eq_ok.1 h
  cases h
  exact ⟨nodes, compiled, hnodes, hcompile, rfl, rfl⟩

/-- Criteria have no window. -/
theorem criteria_window (h : s.criteria schema filter = .ok selection) :
    selection.limit = none ∧ selection.offset = none := by
  obtain ⟨nodes, hnodes, h⟩ := bind_eq_ok.1 h
  obtain ⟨compiled, hcompile, h⟩ := bind_eq_ok.1 h
  cases h
  exact ⟨rfl, rfl⟩

theorem selection_ok (hschema : s.catalog.resolve entity = some schema)
    (h : s.selection entity filter = .ok selection) :
    ∃ criteria, s.criteria schema filter = .ok criteria ∧
      selection.predicate = criteria.predicate ∧ selection.joins = criteria.joins := by
  obtain ⟨schema', hschema', h⟩ := bind_eq_ok.1 h
  rw [FilterService.schema, hschema] at hschema'
  cases hschema'
  obtain ⟨⟨page, ordered⟩, hordered, h⟩ := bind_eq_ok.1 h
  cases h
  obtain ⟨criteria, hcriteria, h⟩ := bind_eq_ok.1 (mapError_eq_ok.1 hordered)
  obtain ⟨page', hpage, h⟩ := bind_eq_ok.1 h
  obtain ⟨order, horder, h⟩ := bind_eq_ok.1 h
  cases h
  refine ⟨criteria, hcriteria, ?_⟩
  split <;> exact ⟨rfl, rfl⟩

/-! ## Rows -/

theorem schema_eq_ok : s.schema entity = .ok schema ↔ s.catalog.resolve entity = some schema := by
  unfold FilterService.schema
  cases s.catalog.resolve entity with
  | none => simp
  | some found => simp

theorem orderOf_eq_ok {order : Option (List OrderItem)} :
    orderOf schema request = .ok order ↔ request.sort.forM (checkSortable schema) = .ok () ∧
      order = if request.sort.isEmpty then none else some request.orderItems := by
  unfold orderOf
  rw [bind_eq_ok]
  constructor
  · rintro ⟨_, hsort, horder⟩
    exact ⟨hsort, (Except.ok.inj horder).symm⟩
  · rintro ⟨hsort, horder⟩
    exact ⟨(), hsort, congrArg Except.ok horder.symm⟩

/-- An order by no column is the same as no order. -/
theorem orderItems_eq (request : PageSpec) :
    (if request.sort.isEmpty then none else some request.orderItems).getD [] =
      request.orderItems := by
  unfold PageSpec.orderItems
  cases request.sort with
  | nil => rfl
  | cons token rest => rfl

/-- Whether these are the rows that satisfy a filter map and the extra criteria, as they stand in the
store, and they can be sorted by these tokens. -/
def Finds (s : FilterService) (store : MemoryStore) (entity : String) (filter : FilterMap)
    (sort : List SortToken) (rows : List Row) : Prop :=
  ∃ schema criteria, s.catalog.resolve entity = some schema ∧
    s.criteria schema filter = .ok criteria ∧ sort.forM (checkSortable schema) = .ok () ∧
    store.matching schema.collection criteria = .ok rows

theorem Finds.sublist {sort : List SortToken} {rows : List Row}
    (hschema : s.catalog.resolve entity = some schema)
    (h : s.Finds store entity filter sort rows) :
    rows.Sublist (store.rows schema.collection) := by
  obtain ⟨schema', criteria, hschema', _, _, hrows⟩ := h
  cases hschema.symm.trans hschema'
  exact MemoryStore.passing_sublist hrows

theorem Finds.store_eq {sort : List SortToken} {rows : List Row}
    (h : s.Finds store entity filter sort rows) : ∀ row ∈ rows, row.store = store := by
  obtain ⟨schema, criteria, _, _, _, hrows⟩ := h
  intro row hrow
  obtain ⟨record, _, rfl⟩ := List.mem_map.1 ((MemoryStore.passing_sublist hrows).subset hrow)
  rfl

/-- Rows in the order that a page asks for. -/
def sorted (request : PageSpec) (rows : List Row) : List Record :=
  (Row.sort request.orderItems rows).map Row.record

theorem sorted_perm (request : PageSpec) (rows : List Row) :
    (sorted request rows).Perm (rows.map Row.record) :=
  (StableSort.sort_perm _ rows).map Row.record

theorem length_sorted (request : PageSpec) (rows : List Row) :
    (sorted request rows).length = rows.length := by
  rw [(sorted_perm request rows).length_eq, List.length_map]

theorem ordered_eq_ok : s.ordered schema filter = .ok (request, selection) ↔
    ∃ criteria, s.criteria schema filter = .ok criteria ∧ s.config.page filter = .ok request ∧
      request.sort.forM (checkSortable schema) = .ok () ∧
      selection = { criteria with
        orderBy := if request.sort.isEmpty then none else some request.orderItems } := by
  unfold ordered
  constructor
  · intro h
    obtain ⟨criteria, hcriteria, h⟩ := bind_eq_ok.1 h
    obtain ⟨request', hrequest, h⟩ := bind_eq_ok.1 h
    obtain ⟨order, horder, h⟩ := bind_eq_ok.1 h
    cases h
    obtain ⟨hsort, rfl⟩ := orderOf_eq_ok.1 horder
    exact ⟨criteria, hcriteria, hrequest, hsort, rfl⟩
  · rintro ⟨criteria, hcriteria, hrequest, hsort, rfl⟩
    refine bind_eq_ok.2 ⟨criteria, hcriteria, bind_eq_ok.2 ⟨request, hrequest, ?_⟩⟩
    exact bind_eq_ok.2 ⟨_, orderOf_eq_ok.2 ⟨hsort, rfl⟩, rfl⟩

/-- Fetching the rows that satisfy the criteria, in the order of a request. -/
theorem fetch_eq_ok (criteria : Selection) {limit offset : Option Nat} {records : List Record} :
    (store.fetch schema.collection { criteria with
        orderBy := if request.sort.isEmpty then none else some request.orderItems
        limit := limit, offset := offset }) = .ok records ↔
      ∃ rows, store.matching schema.collection criteria = .ok rows ∧
        records = MemoryStore.window offset limit (sorted request rows) := by
  rw [MemoryStore.fetch_eq_ok, MemoryStore.matching_ordered, orderItems_eq]
  rfl

/-- What a filter map asks for is fetched exactly if its page can be read and its rows are found. -/
theorem filter_eq_ok {records : List Record} :
    s.filter store entity filter = .ok records ↔
      ∃ request rows, s.config.page filter = .ok request ∧
        s.Finds store entity filter request.sort rows ∧ records = sorted request rows := by
  unfold FilterService.filter
  constructor
  · intro h
    obtain ⟨schema, hschema, h⟩ := bind_eq_ok.1 h
    obtain ⟨⟨request, selection⟩, hordered, h⟩ := bind_eq_ok.1 h
    obtain ⟨criteria, hcriteria, hrequest, hsort, rfl⟩ :=
      ordered_eq_ok.1 (mapError_eq_ok.1 hordered)
    obtain ⟨hlimit, hoffset⟩ := criteria_window hcriteria
    obtain ⟨rows, hrows, rfl⟩ := (fetch_eq_ok criteria).1 (mapError_eq_ok.1 h)
    refine ⟨request, rows, hrequest, ?_, ?_⟩
    · exact ⟨schema, criteria, schema_eq_ok.1 hschema, hcriteria, hsort, hrows⟩
    · rw [hlimit, hoffset]
      rfl
  · rintro ⟨request, rows, hrequest, ⟨schema, criteria, hschema, hcriteria, hsort, hrows⟩, rfl⟩
    obtain ⟨hlimit, hoffset⟩ := criteria_window hcriteria
    refine bind_eq_ok.2 ⟨schema, schema_eq_ok.2 hschema, ?_⟩
    refine bind_eq_ok.2 ⟨⟨request, _⟩, mapError_eq_ok.2 (ordered_eq_ok.2
      ⟨criteria, hcriteria, hrequest, hsort, rfl⟩), ?_⟩
    refine mapError_eq_ok.2 ((fetch_eq_ok criteria).2 ⟨rows, hrows, ?_⟩)
    rw [hlimit, hoffset]
    rfl

/-- A page is taken exactly if its rows are found. It shows a window of them in its order. -/
theorem pageOf_eq_ok {page : PageResult Record} :
    s.pageOf store entity filter request = .ok page ↔
      ∃ rows, s.Finds store entity filter request.sort rows ∧
        page = .ofRequest (((sorted request rows).drop request.offset).take request.limit) request
          rows.length := by
  unfold FilterService.pageOf
  constructor
  · intro h
    obtain ⟨schema, hschema, h⟩ := bind_eq_ok.1 h
    obtain ⟨criteria, hcriteria, h⟩ := bind_eq_ok.1 h
    obtain ⟨order, horder, h⟩ := bind_eq_ok.1 h
    obtain ⟨hsort, rfl⟩ := orderOf_eq_ok.1 (mapError_eq_ok.1 horder)
    obtain ⟨total, htotal, h⟩ := bind_eq_ok.1 h
    obtain ⟨items, hitems, h⟩ := bind_eq_ok.1 h
    obtain ⟨rows, hrows, rfl⟩ :=
      (fetch_eq_ok criteria).1 (mapError_eq_ok.1 hitems)
    refine ⟨rows, ⟨schema, criteria, schema_eq_ok.1 hschema, mapError_eq_ok.1 hcriteria, hsort,
      hrows⟩, ?_⟩
    have hcount : total = rows.length := by
      obtain ⟨rows', hrows', htotal⟩ := bind_eq_ok.1 (mapError_eq_ok.1 htotal)
      rw [MemoryStore.matching_ordered, hrows] at hrows'
      cases hrows'
      exact (Except.ok.inj htotal).symm
    rw [← Except.ok.inj h, hcount]
    rfl
  · rintro ⟨rows, ⟨schema, criteria, hschema, hcriteria, hsort, hrows⟩, rfl⟩
    refine bind_eq_ok.2 ⟨schema, schema_eq_ok.2 hschema, ?_⟩
    refine bind_eq_ok.2 ⟨criteria, mapError_eq_ok.2 hcriteria, ?_⟩
    refine bind_eq_ok.2 ⟨_, mapError_eq_ok.2 (orderOf_eq_ok.2 ⟨hsort, rfl⟩), ?_⟩
    refine bind_eq_ok.2 ⟨rows.length, mapError_eq_ok.2 ?_, ?_⟩
    · rw [MemoryStore.count, MemoryStore.matching_ordered, hrows]
      rfl
    · refine bind_eq_ok.2 ⟨_, mapError_eq_ok.2 ?_, rfl⟩
      exact (fetch_eq_ok criteria).2 ⟨rows, hrows, rfl⟩

theorem page_eq_ok {page : PageResult Record} :
    s.page store entity filter = .ok page ↔ ∃ request, s.config.page filter = .ok request ∧
      s.pageOf store entity filter request = .ok page := by
  unfold FilterService.page
  rw [bind_eq_ok]
  exact exists_congr fun request => and_congr_left' mapError_eq_ok

end FilterService

end RowFilter
