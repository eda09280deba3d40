import RowFilter.Query.Evaluate
import RowFilter.StableSort
import RowFilter.Store.Record

/-!
# The memory store

Records by collection, in the order in which they were inserted, and selections run over them. A row
passes at most once, however many choices of related records make it pass. The rows that pass are
sorted, and then the window is taken.
-/

namespace RowFilter

/-- Records by collection. -/
structure MemoryStore where
  collections : Keyed (List Record)
  deriving Repr, DecidableEq

namespace MemoryStore

/-- The store without records. -/
def empty : MemoryStore := ⟨[]⟩

/-- The records of a collection. -/
def records (s : MemoryStore) (collection : String) : List Record :=
  (s.collections.get? collection).getD []

/-- Add records to a collection. -/
def insertAll (s : MemoryStore) (collection : String) (records : List Record) : MemoryStore :=
  ⟨s.collections.insert collection (s.records collection ++ records)⟩

/-- Add a record to a collection. -/
def insert (s : MemoryStore) (collection : String) (record : Record) : MemoryStore :=
  s.insertAll collection [record]

/-- The number of records in a collection. -/
def size (s : MemoryStore) (collection : String) : Nat := (s.records collection).length

/-- The first record of a collection with this key. -/
def find? (s : MemoryStore) (collection : String) (key : Literal) : Option Record :=
  (s.records collection).find? fun record => record.key.equal key

end MemoryStore

/-- A record together with the store in which its relations are looked up. -/
structure Row where
  store : MemoryStore
  record : Record
  deriving Repr

namespace Row

/-- The rows that a relation leads to. A relation without links leads to none, but a field is no
relation. -/
def related? (row : Row) (name : String) : Option (List Row) :=
  match row.record.links? name with
  | some links =>
    some (links.keys.filterMap fun key =>
      (row.store.find? links.collection key).map (Row.mk row.store))
  | none => if (row.record.get? name).isSome then none else some []

instance : Filterable Row where
  value? row := row.record.value?
  related? := related?

/-- The value under a name, null where there is none. -/
def valueOrNull (row : Row) (name : String) : Literal := (row.record.value? name).getD .null

/-- The order of two rows by one column. -/
def compareColumn (item : OrderItem) (a b : Row) : Ordering :=
  let x := a.valueOrNull item.path.property
  let y := b.valueOrNull item.path.property
  match item.direction with
  | .ascending => x.sortOrder y
  | .descending => y.sortOrder x

/-- The order of two rows: the first column in which they differ decides. -/
def compareColumns : List OrderItem → Row → Row → Ordering
  | [], _, _ => .eq
  | item :: rest, a, b => (compareColumn item a b).then (compareColumns rest a b)

/-- Rows in an order, those that are equal in it as they stood. -/
def sort (items : List OrderItem) (rows : List Row) : List Row :=
  StableSort.sort (fun a b => compareColumns items a b == .lt) rows

end Row

namespace MemoryStore

/-- The rows of a collection. -/
def rows (s : MemoryStore) (collection : String) : List Row :=
  (s.records collection).map (Row.mk s)

/-- The rows among these that pass a selection. The first one on which it fails decides. -/
def passing (s : Selection) : List Row → Except EvalError (List Row)
  | [] => .ok []
  | row :: rest => do
    let passes ← s.predicate.passes row s.joins
    let others ← passing s rest
    .ok (if passes then row :: others else others)

/-- The rows of a collection that pass a selection. -/
def matching (s : MemoryStore) (collection : String) (selection : Selection) :
    Except EvalError (List Row) :=
  passing selection (s.rows collection)

/-- The window of a list. -/
def window {α : Type} (offset limit : Option Nat) (items : List α) : List α :=
  let rest := items.drop (offset.getD 0)
  match limit with
  | some n => rest.take n
  | none => rest

/-- The records that a selection takes from a collection. -/
def fetch (s : MemoryStore) (collection : String) (selection : Selection) :
    Except EvalError (List Record) := do
  let rows ← s.matching collection selection
  let sorted := Row.sort (selection.orderBy.getD []) rows
  .ok (window selection.offset selection.limit (sorted.map Row.record))

/-- The number of records that pass a selection, whatever its order and window. -/
def count (s : MemoryStore) (collection : String) (selection : Selection) :
    Except EvalError Nat := do
  let rows ← s.matching collection selection
  .ok rows.length

end MemoryStore

end RowFilter
