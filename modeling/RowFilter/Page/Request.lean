import RowFilter.Config
import RowFilter.Page.SortToken

/-!
# Page requests

A filter map asks for a page under its page key: how many rows to take, how many to skip and how to
sort them. A filter map without a page can still have an order under its sort key.
-/

namespace RowFilter

/-- How many rows to take, how many to skip and how to sort them. -/
structure PageSpec where
  limit : Nat
  offset : Nat
  sort : List SortToken
  deriving Repr, DecidableEq

namespace PageSpec

/-- A page of at least one row. -/
def ofWindow (limit offset : Nat) : PageSpec := ⟨max 1 limit, offset, []⟩

/-- The page sorted by one more token. -/
def sortedBy (p : PageSpec) (token : String) : Except FilterError PageSpec := do
  let t ← SortToken.ofText token
  .ok { p with sort := p.sort ++ [t] }

/-- The columns of the order. -/
def orderItems (p : PageSpec) : List OrderItem := p.sort.map SortToken.orderItem

end PageSpec

namespace FilterConfig

/-- A parameter of a page as an integer of 64 bits: a whole number, or its text between blanks. -/
def readInteger (parameter : String) (value : Json) : Except FilterError Int :=
  let found :=
    match value with
    | .num (.int n) => if Number.fitsInt64 n then some n else none
    | .str s => Number.readInt64? (Text.trimChars s.toList)
    | _ => none
  match found with
  | some n => .ok n
  | none => .error (.notInteger parameter value.text)

/-- The greatest size of a page, which is at least one and fits 64 bits with a sign. -/
def ceiling (c : FilterConfig) : Int := min (max 1 (c.maxLimit : Int)) 9223372036854775807

/-- The size that a page asks for, brought between one and the greatest size. -/
def readPageLimit (c : FilterConfig) : Json → Except FilterError Nat
  | .null => .ok c.defaultLimit
  | value => do
    let n ← readInteger "limit" value
    .ok (min (max n 1) c.ceiling).toNat

/-- The number of rows that a page skips. -/
def readPageOffset : Json → Except FilterError Nat
  | .null => .ok 0
  | value => do
    let n ← readInteger "offset" value
    if n < 0 then .error (.negativeOffset n) else .ok n.toNat

/-- The page with these parameters, where null stands for a parameter that is not given. -/
def readPage (c : FilterConfig) (limit offset sort : Json) : Except FilterError PageSpec := do
  let l ← c.readPageLimit limit
  let o ← readPageOffset offset
  let s ← SortToken.ofValue sort
  .ok ⟨l, o, s⟩

/-- The value under a key of a map, null where there is none. -/
def parameter (fields : FilterMap) (key : String) : Json := (fields.get? key).getD .null

/-- Whether a filter map has the page key. -/
def asksForPage (c : FilterConfig) (filter : FilterMap) : Bool := filter.contains c.pageKey

/-- The page that a filter map asks for. Without a page, the order is the one under the sort key. -/
def page (c : FilterConfig) (filter : FilterMap) : Except FilterError PageSpec :=
  match filter.get? c.pageKey with
  | some (.obj fields) =>
    c.readPage (parameter fields "limit") (parameter fields "offset") (parameter fields "sort")
  | some .null | none => c.readPage .null .null (parameter filter c.sortKey)
  | some value => .error (.pageNotMap value.text)

/-- The conditions of a filter map: without the page key, or without the sort key where there is no
page key. -/
def conditions (c : FilterConfig) (filter : FilterMap) : FilterMap :=
  if c.asksForPage filter then filter.erase c.pageKey else filter.erase c.sortKey

end FilterConfig

end RowFilter
