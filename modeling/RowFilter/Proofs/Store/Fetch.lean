import Mathlib.Data.List.FinRange
import RowFilter.Proofs.Filter.Typing
import RowFilter.Proofs.Store.RowOrder

/-!
# Fetching

The rows of a selection are told apart by their places in the collection, since two records can be
the same. Fetching lists the places of the rows that pass, each of them once, in the order of the
columns and, where these do not tell two rows apart, in the order in which the records came.
-/

namespace RowFilter

/-- Whether a selection takes a row. -/
def Selection.selects (s : Selection) (row : Row) : Bool :=
  Verdict.of row s.predicate s.joins = .pass

theorem Selection.selects_iff {s : Selection} {row : Row} :
    s.selects row = true ↔ s.predicate.passes row s.joins = .ok true := by
  rw [selects, decide_eq_true_iff, Verdict.of_eq_pass]

namespace MemoryStore

variable {store : MemoryStore} {collection : String} {s : Selection}

theorem passing_eq_filter {rows found : List Row} (h : passing s rows = .ok found) :
    found = rows.filter s.selects := by
  induction rows generalizing found with
  | nil =>
    cases h
    rfl
  | cons row rest ih =>
    obtain ⟨passes, hpasses, h⟩ := bind_eq_ok.1 h
    obtain ⟨others, hothers, h⟩ := bind_eq_ok.1 h
    cases h
    have hselects : s.selects row = passes := by
      rw [Bool.eq_iff_iff, Selection.selects_iff, hpasses, Except.ok.injEq]
    rw [List.filter_cons, hselects, ih hothers]

/-- The row at a place of a collection. -/
def rowAt (store : MemoryStore) (collection : String)
    (place : Fin (store.records collection).length) : Row :=
  ⟨store, (store.records collection)[place]⟩

theorem rows_eq_map_rowAt :
    store.rows collection = (List.finRange _).map (store.rowAt collection) := by
  conv_lhs => rw [rows, ← List.map_getElem_finRange (store.records collection), List.map_map]
  rfl

theorem rowAt_mem_rows (place : Fin (store.records collection).length) :
    store.rowAt collection place ∈ store.rows collection :=
  List.mem_map_of_mem (List.getElem_mem _)

/-- Whether these are the places of the rows that a selection takes, one after the other in the
order it asks for. -/
structure Lists (store : MemoryStore) (collection : String) (s : Selection)
    (places : List (Fin (store.records collection).length)) : Prop where
  /-- No record is listed twice. -/
  nodup : places.Nodup
  /-- The rows listed are those on which the predicate is true under some choice of related
  records. -/
  mem_iff : ∀ i, i ∈ places ↔
    s.predicate.passes (store.rowAt collection i) s.joins = .ok true
  /-- Rows that the columns tell apart are in their order, the others in that of their places. -/
  ranked : places.Pairwise fun i j =>
    Row.Precedes (s.orderBy.getD []) (store.rowAt collection i) (store.rowAt collection j) ∨
      Row.Ties (s.orderBy.getD []) (store.rowAt collection i) (store.rowAt collection j) ∧ i < j

/-- The places of the rows that a selection takes, sorted. -/
def selectedPlaces (store : MemoryStore) (collection : String) (s : Selection) :
    List (Fin (store.records collection).length) :=
  StableSort.sort
    (fun i j => Row.compareColumns (s.orderBy.getD []) (store.rowAt collection i)
      (store.rowAt collection j) == .lt)
    ((List.finRange _).filter fun i => s.selects (store.rowAt collection i))

variable (store collection s) in
/-- What is found and sorted are the rows at the selected places. -/
theorem sort_filter_rows : Row.sort (s.orderBy.getD []) ((store.rows collection).filter s.selects) =
    (store.selectedPlaces collection s).map (store.rowAt collection) := by
  rw [rows_eq_map_rowAt, List.filter_map]
  exact StableSort.sort_map _ _

theorem lists_selectedPlaces
    (hranks : ∀ item ∈ s.orderBy.getD [], item.Ranks (store.rows collection)) :
    store.Lists collection s (store.selectedPlaces collection s) := by
  have hperm := StableSort.sort_perm
    (fun i j => Row.compareColumns (s.orderBy.getD []) (store.rowAt collection i)
      (store.rowAt collection j) == .lt)
    ((List.finRange _).filter fun i => s.selects (store.rowAt collection i))
  constructor
  · exact hperm.nodup_iff.2 ((List.nodup_finRange _).filter _)
  · intro i
    rw [selectedPlaces, hperm.mem_iff, List.mem_filter, ← Selection.selects_iff]
    simp
  · have horders := (Row.isTransitive_of_ranks hranks).orders
    rw [rows_eq_map_rowAt] at horders
    have hplaces := (horders.comap (store.rowAt collection)).mono
      (List.filter_sublist (p := fun i => s.selects (store.rowAt collection i))).subset
    have hearlier := (List.pairwise_lt_finRange (store.records collection).length).filter
      fun i => s.selects (store.rowAt collection i)
    refine (StableSort.pairwise_sort hplaces hearlier).imp ?_
    intro i j hij
    have hi := store.rowAt_mem_rows i
    have hj := store.rowAt_mem_rows j
    rw [← Row.compareColumns_eq_lt hranks hi hj, ← Row.compareColumns_eq_eq hranks hi hj]
    rcases hij with hless | ⟨hnot, hlt⟩
    · exact .inl (beq_iff_eq.1 hless)
    · -- the later of two rows is not less, so that the earlier one is less or of the same rank
      cases hcompare : Row.compareColumns (s.orderBy.getD []) (store.rowAt collection i)
          (store.rowAt collection j) with
      | lt => exact .inl rfl
      | eq => exact .inr ⟨rfl, hlt⟩
      | gt => simp [Row.compareColumns_swap _ (store.rowAt collection i), hcompare] at hnot

/-- **Fetching gives exactly the rows that pass, sorted and cut to the window**: where the predicate
can be evaluated on all rows of a collection, and the columns to sort by rank these rows, the
records fetched are the window of a list of all that pass, each of them once, in the order of the
columns and, within one rank, in the order of insertion. Counting gives the length of that list. -/
theorem fetch_and_count_of_ranks
    (hpasses : ∀ row ∈ store.rows collection,
      ∃ passes, s.predicate.passes row s.joins = .ok passes)
    (hranks : ∀ item ∈ s.orderBy.getD [], item.Ranks (store.rows collection)) :
    ∃ places, store.Lists collection s places ∧
      store.fetch collection s = .ok (window s.offset s.limit
        (places.map fun i => (store.records collection)[i])) ∧
      store.count collection s = .ok places.length := by
  obtain ⟨found, hfound⟩ := exists_passing hpasses
  have hmatching : store.matching collection s = .ok found := hfound
  have hsorted := sort_filter_rows store collection s
  rw [← passing_eq_filter hfound] at hsorted
  refine ⟨store.selectedPlaces collection s, lists_selectedPlaces hranks, ?_, ?_⟩
  · refine fetch_eq_ok.2 ⟨found, hmatching, ?_⟩
    rw [hsorted, List.map_map]
    rfl
  · have hlength : found.length = (store.selectedPlaces collection s).length := by
      rw [← (StableSort.sort_perm _ found).length_eq, ← Row.sort, hsorted, List.length_map]
    rw [count, hmatching, ← hlength]
    rfl

end MemoryStore

/-- A member of a club. -/
def Record.member (id : Int64) (age : Literal) (town : String) (friends : List Int64) : Record :=
  ⟨.i64 id, [("id", .i64 id), ("age", age), ("town", .string town)],
    [("friends", .many "member" (friends.map .i64))]⟩

/-- A club, of which one member has no known age, one no friends and some several. -/
def MemoryStore.club : MemoryStore :=
  ⟨[("member", [.member 1 (.i64 40) "Ulm" [2, 3], .member 2 (.i64 30) "Bonn" [1],
    .member 3 .null "Bonn" [1, 2], .member 4 (.i64 40) "Ulm" [1, 6], .member 5 (.i64 50) "Ulm" [],
    .member 6 (.i64 40) "Bonn" [4]])]⟩

namespace MemoryStore

/-- Members with a friend of at least 30, from the oldest to the youngest and then by town. -/
theorem fetch_and_count_of_ranks_club :
    let s : Selection := ⟨.compare (.path ⟨["friends", "age"]⟩) .greaterThanOrEqual
        (.literal (.i64 30)), [⟨⟨["friends"]⟩, "member", "id", "member_id", .eager⟩],
      some [⟨.simple "age", .descending⟩, ⟨.simple "town", .ascending⟩], some 3, some 1⟩
    (∀ row ∈ club.rows "member", ∃ passes, s.predicate.passes row s.joins = .ok passes) ∧
      (∀ item ∈ s.orderBy.getD [], item.Ranks (club.rows "member")) ∧
      ∃ places, club.Lists "member" s places ∧ places.length = 5 ∧
        club.fetch "member" s =
          .ok (window (some 1) (some 3) (places.map fun i => (club.records "member")[i])) ∧
        club.fetch "member" s = .ok [.member 6 (.i64 40) "Bonn" [4],
          .member 1 (.i64 40) "Ulm" [2, 3], .member 4 (.i64 40) "Ulm" [1, 6]] := by
  intro s
  have hpasses : ∀ row ∈ club.rows "member",
      ∃ passes, s.predicate.passes row s.joins = .ok passes := by
    intro row hrow
    obtain ⟨record, hrecord, rfl⟩ := List.mem_map.1 hrow
    simp only [records, club, Keyed.get?, ite_true, Option.getD_some, List.mem_cons,
      List.not_mem_nil, or_false] at hrecord
    rcases hrecord with rfl | rfl | rfl | rfl | rfl | rfl <;> exact ⟨_, rfl⟩
  have hranks : ∀ item ∈ s.orderBy.getD [], item.Ranks (club.rows "member") := by
    intro item hitem
    rcases List.mem_pair.1 hitem with rfl | rfl
    · refine ⟨.i64, rfl, ?_⟩
      unfold Literal.Fits
      decide
    · refine ⟨.string, rfl, ?_⟩
      unfold Literal.Fits
      decide
  obtain ⟨places, hlists, hfetch, hcount⟩ := fetch_and_count_of_ranks hpasses hranks
  have hlength : club.count "member" s = .ok 5 := rfl
  refine ⟨hpasses, hranks, places, hlists, ?_, hfetch, rfl⟩
  exact Except.ok.inj (hcount.symm.trans hlength)

end MemoryStore

end RowFilter
