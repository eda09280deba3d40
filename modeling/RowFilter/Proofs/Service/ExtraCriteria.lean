import RowFilter.Proofs.Filter.Typing
import RowFilter.Proofs.Query.OwnFields
import RowFilter.Proofs.Service.Outcome
import RowFilter.Proofs.Store.RowOrder

/-!
# Extra criteria are not bypassed

Extra criteria are joined to a compiled predicate, or take its place where it is true of every row.
In either case a row passes exactly if it passes the filter and satisfies the criteria. The order of
the rows that remain is the order that they have among all rows, if the columns that are sorted by
hold values that are ranked. Values without an order, such as a number that is none, count as equal
to all others: what stands on either side of one is not compared, and comes to be compared when the
one between is left out.
-/

namespace RowFilter

/-! ## Conjunctions with criteria -/

section

variable {R : Type} [Filterable R] {b : Binding R} {record : R} {p x : Predicate}
  {joins : List Join}

open FilterService

theorem Predicate.evaluate_addCriteria_eq_true :
    (addCriteria p (some x)).evaluate b = .ok (some .true) ↔
      p.evaluate b = .ok (some .true) ∧ x.evaluate b = .ok (some .true) := by
  rw [addCriteria]
  split
  · next htrue =>
    have hp : p = .true := by
      cases p <;> first | rfl | cases htrue
    subst hp
    simp [evaluate]
  · exact evaluate_and_eq_true

/-- Criteria on a record's own fields are decided before any choice of related records is made. -/
theorem Predicate.passes_addCriteria {passes passesBoth : Bool} (hown : x.ReadsOwnFields)
    (h : p.passes record joins = .ok passes)
    (hboth : (addCriteria p (some x)).passes record joins = .ok passesBoth) :
    passesBoth = .true ↔ passes = .true ∧ x.passes record [] = .ok .true := by
  obtain ⟨bindings, hbindings, h⟩ := bind_eq_ok.1 h
  obtain ⟨bindings', hbindings', hboth⟩ := bind_eq_ok.1 hboth
  cases hbindings.symm.trans hbindings'
  have hx : ∀ b ∈ bindings, x.evaluate b = x.evaluate (Binding.root record) := fun b hb =>
    hown.evaluate_eq (Binding.get?_root_of_mem_expand hbindings hb)
  rw [isTrueUnderSome_iff h, isTrueUnderSome_iff hboth, passes_alone_iff]
  constructor
  · rintro ⟨b, hb, htrue⟩
    obtain ⟨hp, hxtrue⟩ := evaluate_addCriteria_eq_true.1 htrue
    rw [hx b hb] at hxtrue
    exact ⟨⟨b, hb, hp⟩, hxtrue⟩
  · rintro ⟨⟨b, hb, hp⟩, hxtrue⟩
    rw [← hx b hb] at hxtrue
    exact ⟨b, hb, evaluate_addCriteria_eq_true.2 ⟨hp, hxtrue⟩⟩

/-- What passes with criteria satisfies them. -/
theorem Predicate.satisfies_of_passes_addCriteria (hown : x.ReadsOwnFields)
    (h : (addCriteria p (some x)).passes record joins = .ok .true) :
    x.passes record [] = .ok .true := by
  obtain ⟨bindings, hbindings, h⟩ := bind_eq_ok.1 h
  obtain ⟨b, hb, htrue⟩ := exists_of_isTrueUnderSome h
  rw [passes_alone_iff, ← hown.evaluate_eq (Binding.get?_root_of_mem_expand hbindings hb)]
  exact (evaluate_addCriteria_eq_true.1 htrue).2

end

/-! ## Rows that satisfy criteria -/

namespace Row

/-- Whether a predicate is true of a row by itself. -/
def satisfies (x : Predicate) (row : Row) : Bool := Verdict.of row x [] = .pass

variable {x : Predicate} {row : Row}

theorem satisfies_iff : row.satisfies x = true ↔ x.passes row [] = .ok true := by
  rw [satisfies, decide_eq_true_iff, Verdict.of_eq_pass]

end Row

/-- What passes a selection with criteria is what passes the selection and satisfies the criteria. -/
theorem MemoryStore.passing_addCriteria {s t : Selection} {x : Predicate} {rows found all : List Row}
    (hown : x.ReadsOwnFields)
    (hpredicate : s.predicate = FilterService.addCriteria t.predicate (some x))
    (hjoins : s.joins = t.joins) (h : passing s rows = .ok found) (hall : passing t rows = .ok all) :
    found = all.filter (Row.satisfies x) := by
  induction rows generalizing found all with
  | nil =>
    cases h
    cases hall
    rfl
  | cons row rest ih =>
    obtain ⟨passesBoth, hboth, h⟩ := bind_eq_ok.1 h
    obtain ⟨found', hfound, h⟩ := bind_eq_ok.1 h
    obtain ⟨passes, hpasses, hall⟩ := bind_eq_ok.1 hall
    obtain ⟨all', hall', hall⟩ := bind_eq_ok.1 hall
    cases h
    cases hall
    rw [hpredicate, hjoins] at hboth
    have hrow := Predicate.passes_addCriteria hown hpasses hboth
    rw [← Row.satisfies_iff] at hrow
    rw [ih hfound hall']
    cases passes <;> cases hsatisfies : row.satisfies x <;> simp_all

/-- What passes a selection with criteria satisfies them. -/
theorem MemoryStore.satisfies_of_passing {s : Selection} {p x : Predicate} {rows found : List Row}
    (hown : x.ReadsOwnFields) (hpredicate : s.predicate = FilterService.addCriteria p (some x))
    (h : passing s rows = .ok found) : ∀ row ∈ found, row.satisfies x = true := by
  intro row hrow
  have hpasses := passes_of_passing h row hrow
  rw [hpredicate] at hpasses
  exact Row.satisfies_iff.2 (Predicate.satisfies_of_passes_addCriteria hown hpasses)

/-- Whether a page shows and counts only items of a list that are accepted. -/
structure PageResult.CountsOnly {α : Type} (accepts : α → Bool) (all : List α)
    (page : PageResult α) : Prop where
  items : ∀ item ∈ page.items, accepts item = true
  total : ∃ counted : List α, counted.Sublist all ∧ page.items ⊆ counted ∧
    (∀ item ∈ counted, accepts item = true) ∧ page.totalRows = counted.length

namespace FilterService

variable {s : FilterService} {store : MemoryStore} {schema : FieldSchema} {entity : String}
  {filter : FilterMap} {x : Predicate} {request : PageSpec}

/-- The service with no criteria but those of the filters. -/
def withoutExtra (s : FilterService) : FilterService := { s with extra := fun _ => none }

/-- Whether the record of a store satisfies criteria. -/
def accepts (store : MemoryStore) (x : Predicate) (record : Record) : Bool :=
  (Row.mk store record).satisfies x

theorem map_record_filter {rows : List Row} (h : ∀ row ∈ rows, row.store = store) :
    (rows.filter (Row.satisfies x)).map Row.record =
      (rows.map Row.record).filter (accepts store x) := by
  rw [List.filter_map]
  congr 1
  refine List.filter_congr fun row hrow => ?_
  rw [Function.comp_apply, accepts, ← h row hrow]

/-- What both services find, one with criteria and one without. -/
theorem Finds.eq_filter {sort sort' : List SortToken} {found all : List Row}
    (hschema : s.catalog.resolve entity = some schema) (hextra : s.extra schema = some x)
    (hown : x.ReadsOwnFields) (h : s.Finds store entity filter sort found)
    (hall : s.withoutExtra.Finds store entity filter sort' all) :
    found = all.filter (Row.satisfies x) := by
  obtain ⟨schema', criteria, hschema', hcriteria, _, hfound⟩ := h
  obtain ⟨schema'', bare, hschema'', hbare, _, hall⟩ := hall
  cases hschema.symm.trans hschema'
  cases hschema.symm.trans hschema''
  obtain ⟨nodes, compiled, hnodes, hcompile, hpredicate, hjoins⟩ := criteria_ok hcriteria
  obtain ⟨nodes', compiled', hnodes', hcompile', hpredicate', hjoins'⟩ := criteria_ok hbare
  cases hnodes.symm.trans hnodes'
  cases hcompile.symm.trans hcompile'
  refine MemoryStore.passing_addCriteria hown ?_ (hjoins.trans hjoins'.symm) hfound hall
  rw [hpredicate, hpredicate', hextra]
  rfl

/-- What the service with criteria finds satisfies them. -/
theorem Finds.satisfies {sort : List SortToken} {found : List Row}
    (hschema : s.catalog.resolve entity = some schema) (hextra : s.extra schema = some x)
    (hown : x.ReadsOwnFields) (h : s.Finds store entity filter sort found) :
    ∀ row ∈ found, row.satisfies x = true := by
  obtain ⟨schema', criteria, hschema', hcriteria, _, hfound⟩ := h
  cases hschema.symm.trans hschema'
  obtain ⟨nodes, compiled, _, _, hpredicate, _⟩ := criteria_ok hcriteria
  rw [hextra] at hpredicate
  exact MemoryStore.satisfies_of_passing hown hpredicate hfound

theorem accepts_of_satisfies {found : List Row} (hstore : ∀ row ∈ found, row.store = store)
    (h : ∀ row ∈ found, row.satisfies x = true) :
    ∀ record ∈ found.map Row.record, accepts store x record = true := by
  intro record hrecord
  obtain ⟨row, hrow, rfl⟩ := List.mem_map.1 hrecord
  rw [accepts, ← hstore row hrow]
  exact h row hrow

/-- The rows with criteria are rows without them, up to their order. The order is the same if the
columns rank the rows. -/
theorem filter_extra {rows all : List Record}
    (hschema : s.catalog.resolve entity = some schema) (hextra : s.extra schema = some x)
    (hown : x.ReadsOwnFields) (h : s.filter store entity filter = .ok rows)
    (hall : s.withoutExtra.filter store entity filter = .ok all) :
    rows.Perm (all.filter (accepts store x)) ∧
      ∀ request, s.config.page filter = .ok request →
        Row.IsTransitive request.orderItems (all.map (Row.mk store)) →
        rows = all.filter (accepts store x) := by
  obtain ⟨request, found, hrequest, hfound, rfl⟩ := filter_eq_ok.1 h
  obtain ⟨request', foundAll, hrequest', hfoundAll, rfl⟩ := filter_eq_ok.1 hall
  cases hrequest.symm.trans hrequest'
  have hstore := hfoundAll.store_eq
  have hsorted : ∀ row ∈ Row.sort request.orderItems foundAll, row.store = store := by
    intro row hrow
    exact hstore row ((StableSort.sort_perm _ foundAll).mem_iff.1 hrow)
  have heq := hfound.eq_filter hschema hextra hown hfoundAll
  rw [sorted, sorted, ← map_record_filter hsorted, heq]
  constructor
  · refine List.Perm.map Row.record ((StableSort.sort_perm _ _).trans ?_)
    exact ((StableSort.sort_perm _ foundAll).filter _).symm
  · -- the columns rank all rows, so leaving some of them out moves none of the others
    intro request' hrequest' htransitive
    cases hrequest.symm.trans hrequest'
    have hrows : ((Row.sort request.orderItems foundAll).map Row.record).map (Row.mk store) =
        Row.sort request.orderItems foundAll := by
      rw [List.map_map, List.map_congr_left (g := id), List.map_id]
      intro row hrow
      rw [Function.comp_apply, ← hsorted row hrow, id]
    rw [hrows] at htransitive
    have horders := htransitive.orders.mono (StableSort.sort_perm _ foundAll).symm.subset
    rw [Row.sort, Row.sort, StableSort.filter_sort _ horders]

/-- A page with criteria shows and counts only rows that satisfy them. -/
theorem pageOf_extra {page : PageResult Record}
    (hschema : s.catalog.resolve entity = some schema) (hextra : s.extra schema = some x)
    (hown : x.ReadsOwnFields) (h : s.pageOf store entity filter request = .ok page) :
    page.CountsOnly (accepts store x) (store.records schema.collection) ∧
      ∀ all, s.withoutExtra.filter store entity filter = .ok all →
        page.totalRows = (all.filter (accepts store x)).length := by
  obtain ⟨found, hfound, rfl⟩ := pageOf_eq_ok.1 h
  have hstore := hfound.store_eq
  have haccepted := accepts_of_satisfies hstore (hfound.satisfies hschema hextra hown)
  have hshown : ∀ record ∈ ((sorted request found).drop request.offset).take request.limit,
      record ∈ found.map Row.record := by
    intro record hrecord
    have hsorted := List.mem_of_mem_drop (List.mem_of_mem_take hrecord)
    exact (sorted_perm request found).mem_iff.1 hsorted
  have hrecords : (store.rows schema.collection).map Row.record =
      store.records schema.collection := by
    rw [MemoryStore.rows, List.map_map]
    exact List.map_id _
  constructor
  · refine ⟨fun record hrecord => haccepted record (hshown record hrecord),
      found.map Row.record, ?_, hshown, haccepted, (List.length_map _).symm⟩
    rw [← hrecords]
    exact (hfound.sublist hschema).map _
  · intro all hall
    obtain ⟨request', foundAll, _, hfoundAll, rfl⟩ := filter_eq_ok.1 hall
    have hperm := (sorted_perm request' foundAll).filter (accepts store x)
    rw [hperm.length_eq, ← map_record_filter hfoundAll.store_eq,
      ← hfound.eq_filter hschema hextra hown hfoundAll, List.length_map]
    rfl

/-- **Extra criteria are not bypassed**: the rows with criteria on an entity's own fields are the rows
without them that satisfy them, in the same order where the columns sorted by rank the rows, and
every page shows and counts only rows that satisfy them, whatever the filter map contains. -/
theorem extra_criteria_hold
    (hschema : s.catalog.resolve entity = some schema) (hextra : s.extra schema = some x)
    (hown : x.ReadsOwnFields) :
    (∀ rows all, s.filter store entity filter = .ok rows →
      s.withoutExtra.filter store entity filter = .ok all →
      rows.Perm (all.filter (accepts store x)) ∧
        ∀ request, s.config.page filter = .ok request →
          Row.IsTransitive request.orderItems (all.map (Row.mk store)) →
          rows = all.filter (accepts store x)) ∧
    ∀ page, (s.page store entity filter = .ok page ∨
        ∃ request, s.pageOf store entity filter request = .ok page) →
      page.CountsOnly (accepts store x) (store.records schema.collection) ∧
        ∀ all, s.withoutExtra.filter store entity filter = .ok all →
          page.totalRows = (all.filter (accepts store x)).length := by
  refine ⟨fun rows all h hall => filter_extra hschema hextra hown h hall, ?_⟩
  rintro page (h | ⟨request, h⟩)
  · obtain ⟨request, _, h⟩ := page_eq_ok.1 h
    exact pageOf_extra hschema hextra hown h
  · exact pageOf_extra hschema hextra hown h

/-- What a predicate on one column of a record reads. -/
theorem readsOwnFields_compare (name : String) (operator : Comparison) (l : Literal) :
    (Predicate.compare (.path (.simple name)) operator (.literal l)).ReadsOwnFields := by
  intro q hq
  rw [Predicate.paths, Expr.paths, Expr.paths, List.append_nil, List.mem_singleton] at hq
  rw [hq]
  rfl

/-- People of at least 30 among those with a friend. -/
theorem extra_criteria_hold_friends :
    let x : Predicate := .compare (.path (.simple "age")) .greaterThanOrEqual (.literal (.i64 30))
    let s : FilterService := { FilterService.ofCatalog .people with extra := fun _ => some x }
    let filter : FilterMap := [("friends", .obj [("id", .arr [.ofNat 1, .ofNat 2])]),
      ("sort", .str "-age")]
    s.catalog.resolve "person" = some .person ∧ s.extra .person = some x ∧ x.ReadsOwnFields ∧
      ∃ rows all, s.filter .friends "person" filter = .ok rows ∧ rows.length = 1 ∧
        s.withoutExtra.filter .friends "person" filter = .ok all ∧ all.length = 2 ∧
        rows = all.filter (accepts .friends x) ∧
        ∃ page, s.page .friends "person" filter = .ok page ∧ page.totalRows = 1 := by
  intro x s filter
  have hown : x.ReadsOwnFields := readsOwnFields_compare _ _ _
  obtain ⟨hfilter, hpages⟩ :=
    @extra_criteria_hold s .friends .person "person" filter x Catalog.resolve_people rfl hown
  obtain ⟨rows, hrows, hlength⟩ :
      ∃ rows, s.filter .friends "person" filter = .ok rows ∧ rows.length = 1 := ⟨_, rfl, rfl⟩
  have hall : s.withoutExtra.filter .friends "person" filter =
      .ok [⟨.i64 2, [("id", .i64 2), ("age", .null)], [("friends", .many "person" [.i64 1])]⟩,
        ⟨.i64 1, [("id", .i64 1), ("age", .i64 40)], [("friends", .many "person" [.i64 2])]⟩] := rfl
  obtain ⟨page, hpage⟩ : ∃ page, s.page .friends "person" filter = .ok page := ⟨_, rfl⟩
  have hrequest : s.config.page filter = .ok ⟨10000, 0, [⟨"age", .descending⟩]⟩ := rfl
  have htransitive : Row.IsTransitive [⟨.simple "age", .descending⟩]
      ([⟨.i64 2, [("id", .i64 2), ("age", .null)], [("friends", .many "person" [.i64 1])]⟩,
        ⟨.i64 1, [("id", .i64 1), ("age", .i64 40)],
          [("friends", .many "person" [.i64 2])]⟩].map (Row.mk .friends)) := by
    unfold Row.IsTransitive
    decide
  have heq := (hfilter rows _ hrows hall).2 _ hrequest htransitive
  refine ⟨Catalog.resolve_people, rfl, hown, rows, _, hrows, hlength, hall, rfl, heq, page, hpage, ?_⟩
  rw [(hpages page (.inl hpage)).2 _ hall, ← heq, hlength]

end FilterService

/-- What a parcel has. -/
def Catalog.parcels : Catalog :=
  .ofList [.ofDeclarations "parcel"
    [.identity "id", .scalar "id" .i64, .scalar "size" .f64, .scalar "hidden" .bool]]

/-- A parcel with its size. -/
def Record.parcel (id : Int64) (size : Number.BinaryFloat) (hidden : Bool) : Record :=
  ⟨.i64 id, [("id", .i64 id), ("size", .f64 size), ("hidden", .bool hidden)], []⟩

/-- Three parcels, of which the second has a size that is no number. -/
def MemoryStore.parcels : MemoryStore :=
  ⟨[("parcel", [.parcel 1 (.ofInt .double 2) false, .parcel 2 .nan true,
    .parcel 3 (.ofInt .double 1) false])]⟩

namespace FilterService

/-- A size that is no number keeps its neighbours in their places. Without it they change them. -/
theorem extra_criteria_reorder_parcels :
    let x : Predicate := .compare (.path (.simple "hidden")) .equal (.literal (.bool false))
    let s : FilterService := { FilterService.ofCatalog .parcels with extra := fun _ => some x }
    let filter : FilterMap := [("sort", .str "size")]
    x.ReadsOwnFields ∧ ∃ rows all, s.filter .parcels "parcel" filter = .ok rows ∧
      s.withoutExtra.filter .parcels "parcel" filter = .ok all ∧
      rows.map Record.key = [.i64 3, .i64 1] ∧
      (all.filter (accepts .parcels x)).map Record.key = [.i64 1, .i64 3] ∧
      rows ≠ all.filter (accepts .parcels x) := by
  intro x s filter
  obtain ⟨rows, hrows, hkeys⟩ : ∃ rows, s.filter .parcels "parcel" filter = .ok rows ∧
      rows.map Record.key = [.i64 3, .i64 1] := ⟨_, rfl, rfl⟩
  obtain ⟨all, hall, hallKeys⟩ : ∃ all, s.withoutExtra.filter .parcels "parcel" filter = .ok all ∧
      (all.filter (accepts .parcels x)).map Record.key = [.i64 1, .i64 3] := ⟨_, rfl, rfl⟩
  refine ⟨readsOwnFields_compare _ _ _, rows, all, hrows, hall, hkeys, hallKeys, ?_⟩
  intro heq
  rw [heq, hallKeys] at hkeys
  exact absurd hkeys (by decide)

end FilterService

end RowFilter
