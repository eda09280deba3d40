import RowFilter.Config
import RowFilter.Filter.Basic

/-!
# Writing filter maps

A filter map is drafted condition by condition. A dotted name nests its condition into the filter of
a relation, and the page is added when the draft is finished.
-/

namespace RowFilter

/-- A filter map in the making. -/
structure FilterDraft where
  filter : FilterMap
  /-- The window of the page. -/
  page : FilterMap
  /-- The sort tokens of the page, in order. -/
  sort : List String
  deriving Repr

namespace FilterDraft

/-- The draft without conditions. -/
def empty : FilterDraft := ⟨[], [], []⟩

/-- The fields of an object; anything else has none. -/
def fieldsOf : Option Json → FilterMap
  | some (.obj fields) => fields
  | _ => []

/-- Write a value below a path of keys. What is on the way and not an object gives way to one. -/
def insertAt : List String → Json → FilterMap → FilterMap
  | [], _, m => m
  | [key], value, m => m.insert key value
  | key :: rest, value, m => m.insert key (.obj (insertAt rest value (fieldsOf (m.get? key))))

/-- Write a value for a dotted name. -/
def set (d : FilterDraft) (field : String) (value : Json) : FilterDraft :=
  { d with filter := insertAt (Text.split '.' field) value d.filter }

/-- The field has this value. -/
def equals (d : FilterDraft) (field : String) (value : Json) : FilterDraft := d.set field value

/-- The field has one of these values. -/
def equalsAny (d : FilterDraft) (field : String) (values : List Json) : FilterDraft :=
  d.set field (.arr values)

/-- The field has no value. -/
def isNull (d : FilterDraft) (field : String) : FilterDraft := d.set field .null

/-- The field does not have this value. -/
def notEquals (d : FilterDraft) (field : String) (value : Json) : FilterDraft :=
  { d with filter := insertAt ("NOT" :: Text.split '.' field) value d.filter }

/-- The field is not below this value. -/
def atLeast (d : FilterDraft) (field : String) (low : Json) : FilterDraft :=
  d.set field (.obj [("from", low)])

/-- The field is not above this value. -/
def atMost (d : FilterDraft) (field : String) (high : Json) : FilterDraft :=
  d.set field (.obj [("to", high)])

/-- The field lies between these values. -/
def between (d : FilterDraft) (field : String) (low high : Json) : FilterDraft :=
  d.set field (.obj [("from", low), ("to", high)])

/-- Sort by one more token. -/
def sortedBy (d : FilterDraft) (token : String) : FilterDraft :=
  { d with sort := d.sort ++ [token] }

/-- Skip this many rows. -/
def offset (d : FilterDraft) (n : Nat) : FilterDraft :=
  { d with page := d.page.insert "offset" (.ofNat n) }

/-- Take at most this many rows. -/
def limit (d : FilterDraft) (n : Nat) : FilterDraft :=
  { d with page := d.page.insert "limit" (.ofNat n) }

/-- The page with its sort tokens. -/
def pageMap (d : FilterDraft) : FilterMap :=
  if d.sort.isEmpty then d.page else d.page.insert "sort" (.arr (d.sort.map .str))

/-- The finished filter map. A page that asks for nothing is left out. -/
def toMap (d : FilterDraft) : FilterMap :=
  if d.pageMap.isEmpty then d.filter
  else d.filter.insert FilterConfig.standard.pageKey (.obj d.pageMap)

end FilterDraft

end RowFilter
