import RowFilter.Proofs.Literal.Ranking
import RowFilter.Proofs.StableSort
import RowFilter.Store.Memory

/-!
# The order of rows

Rows are compared by the columns that they are sorted by, of which the first in which they differ
decides. Where each column holds only values of one kind that has an order, and absent values, this
is the lexicographic order of the columns, in each of which absent values come last, or first if the
column descends.
-/

namespace RowFilter

open Literal (Fits)

namespace Literal

variable {a b : Literal} {kind : ScalarKind}

/-- Whether a value comes before another one: it is less, or only the other one is absent. -/
def Precedes (a b : Literal) : Prop :=
  a.isNull = false ∧ b.isNull = true ∨ a.collate b = some .lt

/-- Whether two values have one rank: they are equal in their order, or both are absent. -/
def Ties (a b : Literal) : Prop :=
  a.isNull = true ∧ b.isNull = true ∨ a.collate b = some .eq

theorem sortOrder_eq_lt : a.sortOrder b = .lt ↔ a.Precedes b := by
  unfold sortOrder Precedes
  cases ha : a.isNull with
  | true =>
    rw [collate_eq_none (.inl ha)]
    cases b.isNull <;> simp
  | false =>
    cases hb : b.isNull with
    | true => simp
    | false => cases a.collate b <;> simp

theorem sortOrder_eq_eq (hkind : kind.isOrdered = true) (ha : a.Fits kind) (hb : b.Fits kind) :
    a.sortOrder b = .eq ↔ a.Ties b := by
  unfold sortOrder Ties
  cases hanull : a.isNull with
  | true =>
    rw [collate_eq_none (.inl hanull)]
    cases b.isNull <;> simp
  | false =>
    cases hbnull : b.isNull with
    | true =>
      rw [collate_eq_none (.inr hbnull)]
      simp
    | false =>
      -- two values of one kind have an order, so that none counts as equal for the lack of one
      obtain ⟨o, ho⟩ :=
        exists_collate (ha.kind_of_not_null hanull) (hb.kind_of_not_null hbnull) hkind
      rw [ho]
      simp

theorem Ties.symm (h : a.Ties b) : b.Ties a := by
  rcases h with ⟨ha, hb⟩ | h
  · exact .inl ⟨hb, ha⟩
  · refine .inr ?_
    rw [collate_swap a b, h]
    rfl

end Literal

/-- The value of a row in a column that rows are sorted by. -/
def Row.inColumn (row : Row) (item : OrderItem) : Literal := row.valueOrNull item.path.property

namespace OrderItem

variable {item : OrderItem} {rows : List Row} {a b : Row}

/-- Whether a row comes before another one by a column. A column that descends turns the order of
its values around, so that absent values come first. -/
def Precedes (item : OrderItem) (a b : Row) : Prop :=
  match item.direction with
  | .ascending => (a.inColumn item).Precedes (b.inColumn item)
  | .descending => (b.inColumn item).Precedes (a.inColumn item)

/-- Whether two rows have one rank in a column. -/
def Ties (item : OrderItem) (a b : Row) : Prop := (a.inColumn item).Ties (b.inColumn item)

/-- Whether all values of some rows in a column are absent or of one kind that has an order. -/
def Ranks (item : OrderItem) (rows : List Row) : Prop :=
  ∃ kind : ScalarKind, kind.isOrdered = true ∧ ∀ row ∈ rows, (row.inColumn item).Fits kind

end OrderItem

namespace Row

open Literal (sortOrder_eq_lt sortOrder_eq_eq)

variable {item : OrderItem} {items : List OrderItem} {rows : List Row} {a b : Row}

/-- Whether a row comes before another one by columns: it does by the first one in which they
differ. -/
def Precedes : List OrderItem → Row → Row → Prop
  | [], _, _ => False
  | item :: rest, a, b => item.Precedes a b ∨ item.Ties a b ∧ Precedes rest a b

/-- Whether two rows have one rank in all columns. -/
def Ties (items : List OrderItem) (a b : Row) : Prop := ∀ item ∈ items, item.Ties a b

theorem compareColumn_eq_lt : compareColumn item a b = .lt ↔ item.Precedes a b := by
  unfold compareColumn OrderItem.Precedes
  cases item.direction <;> exact sortOrder_eq_lt

theorem compareColumn_eq_eq (h : item.Ranks rows) (ha : a ∈ rows) (hb : b ∈ rows) :
    compareColumn item a b = .eq ↔ item.Ties a b := by
  obtain ⟨kind, hkind, hfits⟩ := h
  unfold compareColumn OrderItem.Ties
  cases item.direction with
  | ascending => exact sortOrder_eq_eq hkind (hfits a ha) (hfits b hb)
  | descending =>
    have hties := sortOrder_eq_eq hkind (hfits b hb) (hfits a ha)
    exact hties.trans ⟨Literal.Ties.symm, Literal.Ties.symm⟩

theorem compareColumns_eq_lt (h : ∀ item ∈ items, item.Ranks rows) (ha : a ∈ rows)
    (hb : b ∈ rows) : compareColumns items a b = .lt ↔ Precedes items a b := by
  induction items with
  | nil => simp [compareColumns, Precedes]
  | cons item rest ih =>
    obtain ⟨hitem, hrest⟩ := List.forall_mem_cons.1 h
    rw [compareColumns, Ordering.then_eq_lt, compareColumn_eq_lt, compareColumn_eq_eq hitem ha hb,
      ih hrest, Precedes]

theorem compareColumns_eq_eq (h : ∀ item ∈ items, item.Ranks rows) (ha : a ∈ rows)
    (hb : b ∈ rows) : compareColumns items a b = .eq ↔ Ties items a b := by
  induction items with
  | nil => simp [compareColumns, Ties]
  | cons item rest ih =>
    obtain ⟨hitem, hrest⟩ := List.forall_mem_cons.1 h
    rw [compareColumns, Ordering.then_eq_eq, compareColumn_eq_eq hitem ha hb, ih hrest, Ties, Ties,
      List.forall_mem_cons]

/-! ## Transitivity -/

/-- Whether an order by columns is transitive on some rows. -/
def IsTransitive (items : List OrderItem) (rows : List Row) : Prop :=
  ∀ a ∈ rows, ∀ b ∈ rows, ∀ c ∈ rows, compareColumns items a b ≠ .gt →
    compareColumns items b c ≠ .gt → compareColumns items a c ≠ .gt

theorem compareColumn_swap (item : OrderItem) (a b : Row) :
    compareColumn item b a = (compareColumn item a b).swap := by
  unfold compareColumn
  cases item.direction <;> exact Literal.sortOrder_swap _ _

theorem compareColumns_swap (items : List OrderItem) (a b : Row) :
    compareColumns items b a = (compareColumns items a b).swap := by
  induction items with
  | nil => rfl
  | cons item rest ih =>
    rw [compareColumns, compareColumns, compareColumn_swap item a b, ih, Ordering.swap_then]

theorem IsTransitive.orders (h : IsTransitive items rows) :
    StableSort.Orders (fun a b => compareColumns items a b == .lt) rows :=
  StableSort.orders_of_compare (compareColumns_swap items) h

/-- A column that ranks some rows orders them transitively. -/
theorem transCmp_compareColumn (h : item.Ranks rows) :
    Std.TransCmp fun a b : { row // row ∈ rows } => compareColumn item a b := by
  obtain ⟨kind, hkind, hfits⟩ := h
  refine @Std.TransCmp.mk _ _ ⟨compareColumn_swap item _ _⟩ ?_
  intro a b c hab hbc
  have ha := hfits a a.2
  have hb := hfits b b.2
  have hc := hfits c c.2
  rw [Ordering.isLE_iff_ne_gt] at *
  unfold compareColumn at *
  cases hdirection : item.direction with
  | ascending =>
    rw [hdirection] at hab hbc
    exact Literal.sortOrder_trans hkind ha hb hc hab hbc
  | descending =>
    rw [hdirection] at hab hbc
    exact Literal.sortOrder_trans hkind hc hb ha hbc hab

theorem transCmp_compareColumns (h : ∀ item ∈ items, item.Ranks rows) :
    Std.TransCmp fun a b : { row // row ∈ rows } => compareColumns items a b := by
  induction items with
  | nil => exact @Std.TransCmp.mk _ _ ⟨rfl⟩ fun _ _ => rfl
  | cons item rest ih =>
    obtain ⟨hitem, hrest⟩ := List.forall_mem_cons.1 h
    have hfirst := transCmp_compareColumn hitem
    have hothers := ih hrest
    exact inferInstanceAs (Std.TransCmp (compareLex
      (fun a b : { row // row ∈ rows } => compareColumn item a b) fun a b => compareColumns rest a b))

/-- Columns that rank some rows order them transitively. -/
theorem isTransitive_of_ranks (h : ∀ item ∈ items, item.Ranks rows) : IsTransitive items rows := by
  intro a ha b hb c hc hab hbc
  have htrans := transCmp_compareColumns h
  refine Ordering.isLE_iff_ne_gt.1 (@htrans.isLE_trans ⟨a, ha⟩ ⟨b, hb⟩ ⟨c, hc⟩ ?_ ?_)
  · exact Ordering.isLE_iff_ne_gt.2 hab
  · exact Ordering.isLE_iff_ne_gt.2 hbc

end Row

end RowFilter
