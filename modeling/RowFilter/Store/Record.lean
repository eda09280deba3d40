import RowFilter.Keyed
import RowFilter.Literal.Basic

/-!
# Records

A stored row: values by field, and by relation the keys of the records that it leads to.
-/

namespace RowFilter

/-- The records that a relation leads to: keys in a collection. -/
inductive Links where
  | one (collection : String) (key : Option Literal)
  | many (collection : String) (keys : List Literal)
  deriving Repr, DecidableEq

namespace Links

/-- The collection of the records. -/
def collection : Links → String
  | one collection _ | many collection _ => collection

/-- The keys of the records, in order. -/
def keys : Links → List Literal
  | one _ key => key.toList
  | many _ keys => keys

/-- The first key; null where there is none. -/
def firstKey (l : Links) : Literal := l.keys.head?.getD .null

end Links

/-- A stored row. -/
structure Record where
  key : Literal
  fields : Keyed Literal
  links : Keyed Links
  deriving Repr, DecidableEq

namespace Record

/-- The record with a key, which is also the value of its identifying field. -/
def ofKey (identity : String) (key : Literal) : Record := ⟨key, [(identity, key)], []⟩

/-- The record with a value for a field. -/
def set (r : Record) (field : String) (value : Literal) : Record :=
  { r with fields := r.fields.insert field value }

/-- The record with a relation to one other record, or to none if the key is null. -/
def link (r : Record) (relation collection : String) (key : Literal) : Record :=
  let key := if key.isNull then none else some key
  { r with links := r.links.insert relation (.one collection key) }

/-- The record with a relation to several other records. -/
def linkMany (r : Record) (relation collection : String) (keys : List Literal) : Record :=
  { r with links := r.links.insert relation (.many collection keys) }

/-- The value of a field. -/
def get? (r : Record) (field : String) : Option Literal := r.fields.get? field

/-- The records that a relation leads to. -/
def links? (r : Record) (relation : String) : Option Links := r.links.get? relation

/-- The value under a name. A relation to one record reads as the key of that record, and one to
several as the first of their keys. -/
def value? (r : Record) (name : String) : Option Literal :=
  match r.get? name with
  | some value => some value
  | none => (r.links? name).map Links.firstKey

end Record

end RowFilter
