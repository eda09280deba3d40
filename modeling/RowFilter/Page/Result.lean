import RowFilter.Page.Request

/-!
# Pages of results

A page of rows, and where it stands among all of them.
-/

namespace RowFilter

/-- One page of rows. -/
structure PageResult (α : Type) where
  items : List α
  /-- The number of the page, counted from one. -/
  currentPage : Nat
  totalPages : Nat
  pageSize : Nat
  totalRows : Nat
  deriving Repr

namespace PageResult

variable {α β : Type}

/-- The page that a request gets, out of so many rows. The last page may be shorter. -/
def ofRequest (items : List α) (request : PageSpec) (totalRows : Nat) : PageResult α :=
  let size := max 1 request.limit
  { items := items
    currentPage := request.offset / size + 1
    totalPages := (totalRows + (size - 1)) / size
    pageSize := size
    totalRows := totalRows }

/-- Whether there is a page behind this one. -/
def hasNext (p : PageResult α) : Bool := p.currentPage < p.totalPages

/-- Whether there is a page before this one. -/
def hasPrevious (p : PageResult α) : Bool := 1 < p.currentPage

/-- Whether this is the first page. -/
def isFirst (p : PageResult α) : Bool := !p.hasPrevious

/-- Whether this is the last page. -/
def isLast (p : PageResult α) : Bool := !p.hasNext

/-- The page with each item converted. -/
def map (f : α → β) (p : PageResult α) : PageResult β := { p with items := p.items.map f }

end PageResult

end RowFilter
