import RowFilter.Keyed
import RowFilter.Number.BinaryFloat.Basic

/-!
# JSON values

Filter maps and their values arrive as JSON. The fields of an object keep the order in which they
were written, because the conditions of a filter are taken up in that order.
-/

namespace RowFilter

/-- A JSON number: a whole number of at most 64 bits, or a double. -/
inductive JsonNumber where
  | int (n : Int)
  | real (x : Number.BinaryFloat)
  deriving Repr, DecidableEq

/-- A JSON value. -/
inductive Json where
  | null
  | bool (b : Bool)
  | num (n : JsonNumber)
  | str (s : String)
  | arr (items : List Json)
  | obj (fields : List (String × Json))
  deriving Repr

namespace Json

/-- The absence of a value. -/
def isNull : Json → Bool
  | null => true
  | _ => false

/-- A whole number. -/
def ofInt (n : Int) : Json := num (.int n)

/-- A natural number. -/
def ofNat (n : Nat) : Json := num (.int n)

mutual

/-- How many arrays and objects are nested in a value. -/
def depth : Json → Nat
  | arr items => depthOfItems items + 1
  | obj fields => depthOfFields fields + 1
  | _ => 0

/-- The greatest depth among the items of an array. -/
def depthOfItems : List Json → Nat
  | [] => 0
  | v :: rest => max v.depth (depthOfItems rest)

/-- The greatest depth among the fields of an object. -/
def depthOfFields : List (String × Json) → Nat
  | [] => 0
  | (_, v) :: rest => max v.depth (depthOfFields rest)

end

end Json

end RowFilter
