import RowFilter.Keyed
import RowFilter.Query.Evaluate

/-!
# Documents

A document is a record that holds its related records inside itself.
-/

namespace RowFilter

/-- Values by field, and related documents by relation. -/
structure Document where
  fields : Keyed Literal
  related : List (String × List Document)
  deriving Repr

instance : Filterable Document where
  value? document := document.fields.get?
  related? document relation := Keyed.get? document.related relation

end RowFilter
