import RowFilter.Cast
import RowFilter.Filter.Basic

/-!
# Refused filters

Every cause for which a filter map is refused, with the text that reports it.
-/

namespace RowFilter

/-- What is wrong with a sort token. -/
inductive SortFault where
  | noFieldName
  | notFieldName
  | notString
  | notStringOrList
  /-- The name is not the one of a scalar field. -/
  | notSortable
  deriving Repr, DecidableEq

/-- The fault in words. -/
def SortFault.message : SortFault → String
  | noFieldName => "no field name"
  | notFieldName => "not a field name"
  | notString => "not a string"
  | notStringOrList => "expected a string or a list"
  | notSortable => "not a sortable field"

/-- Why a filter map is refused. -/
inductive FilterError where
  /-- All the names in one map that the entity does not declare. -/
  | unknownFields (entity : String) (fields : List String)
  | unsupportedOperation (operator : Operator) (type : DeclaredType) (field : String)
  /-- Both bounds of a range are absent. -/
  | emptyRange (field : String)
  | unknownFlag (flag : String)
  | unparseable (cause : CastError)
  | invalidSortToken (token : String) (fault : SortFault)
  /-- The value under the page key is not a map. -/
  | pageNotMap (value : String)
  | notInteger (parameter value : String)
  | negativeOffset (offset : Int)
  deriving Repr, DecidableEq

/-- The text of the error. -/
def FilterError.message : FilterError → String
  | unknownFields entity fields =>
    "unknown fields for " ++ entity ++ ": " ++ Text.join ", " fields
  | unsupportedOperation operator type field =>
    "can\x27t perform a " ++ operator.name ++ " operation with a " ++ type.display ++
      " for field " ++ field
  | emptyRange field => "empty range for field " ++ field
  | unknownFlag flag => "unknown control flag " ++ Text.quoted flag
  | unparseable cause => "unparseable value: " ++ cause.message
  | invalidSortToken token fault =>
    "wrong sorting parameter " ++ Text.quoted token ++ ": " ++ fault.message
  | pageNotMap value => "invalid page parameter page: expected a map, got " ++ value
  | notInteger parameter value =>
    "invalid page parameter " ++ parameter ++ ": " ++ value ++ " is not an integer"
  | negativeOffset offset =>
    "invalid page parameter offset: " ++ Number.intText offset ++ " is negative"

end RowFilter
