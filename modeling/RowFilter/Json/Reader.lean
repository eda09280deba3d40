import RowFilter.Json.Printer
import RowFilter.Number.BinaryFloat.Reader

/-!
# Reading JSON text

A strict reader of JSON. A number without a point and without an exponent is whole when it fits 64
bits; any other number is the nearest double. A key that is repeated in an object keeps its first
position and takes its last value.
-/

namespace RowFilter.Json.Reader

/-- The blanks of JSON. -/
def isSpace (c : Char) : Bool := c = ' ' || c = '\n' || c = '\r' || c = '\t'

/-- The text without the blanks in front. -/
def skip (cs : List Char) : List Char := cs.dropWhile isSpace

/-- The value of a hexadecimal digit. -/
def hexValue? (c : Char) : Option Nat :=
  if c.isDigit then some (c.toNat - '0'.toNat)
  else if 'a' ≤ c ∧ c ≤ 'f' then some (c.toNat - 'a'.toNat + 10)
  else if 'A' ≤ c ∧ c ≤ 'F' then some (c.toNat - 'A'.toNat + 10)
  else none

/-- Four hexadecimal digits, and the rest. -/
def takeHex : List Char → Option (Nat × List Char)
  | a :: b :: c :: d :: rest => do
    let a ← hexValue? a
    let b ← hexValue? b
    let c ← hexValue? c
    let d ← hexValue? d
    some (((a * 16 + b) * 16 + c) * 16 + d, rest)
  | _ => none

/-- A character given by its code, and the rest. Codes beyond 16 bits come in two halves. -/
def takeCode (cs : List Char) : Option (Char × List Char) := do
  let (high, rest) ← takeHex cs
  if 0xD800 ≤ high ∧ high < 0xDC00 then
    match rest with
    | '\\' :: 'u' :: rest => do
      let (low, rest) ← takeHex rest
      if 0xDC00 ≤ low ∧ low < 0xE000 then
        some (Char.ofNat (0x10000 + (high - 0xD800) * 0x400 + (low - 0xDC00)), rest)
      else
        none
    | _ => none
  else if 0xDC00 ≤ high ∧ high < 0xE000 then
    none
  else
    some (Char.ofNat high, rest)

/-- The character of a short escape. -/
def shortEscape? (c : Char) : Option Char :=
  match c with
  | '"' => some '"'
  | '\\' => some '\\'
  | '/' => some '/'
  | 'b' => some '\x08'
  | 'f' => some '\x0c'
  | 'n' => some '\n'
  | 'r' => some '\r'
  | 't' => some '\t'
  | _ => none

/-- The characters up to the closing quote, and the rest. The fuel bounds the characters read. -/
def takeString : Nat → List Char → Option (List Char × List Char)
  | 0, _ => none
  | _ + 1, [] => none
  | fuel + 1, c :: rest =>
    if c = '"' then
      some ([], rest)
    else if c = '\\' then
      let escaped : Option (Char × List Char) :=
        match rest with
        | 'u' :: rest => takeCode rest
        | e :: rest => (shortEscape? e).map fun x => (x, rest)
        | [] => none
      match escaped with
      | none => none
      | some (x, rest) => (takeString fuel rest).map fun (s, rest) => (x :: s, rest)
    else if c.toNat < 32 then
      none
    else
      (takeString fuel rest).map fun (s, rest) => (c :: s, rest)

/-- A character that may stand in a number. -/
def isNumberChar (c : Char) : Bool :=
  c.isDigit || c = '-' || c = '+' || c = '.' || c = 'e' || c = 'E'

/-- Whether the digits before the point may stand there: a leading zero stands alone. -/
def isWholePart : List Char → Bool
  | [] => false
  | ['0'] => true
  | '0' :: _ => false
  | cs => cs.all Char.isDigit

/-- The number that a run of number characters stands for. -/
def number? (cs : List Char) : Option JsonNumber :=
  let body := match cs with
    | '-' :: rest => rest
    | cs => cs
  let whole := body.takeWhile Char.isDigit
  let rest := body.dropWhile Char.isDigit
  let fractionFollows := match rest with
    | '.' :: c :: _ => c.isDigit
    | '.' :: [] => false
    | _ => true
  if !isWholePart whole || !fractionFollows then
    none
  else
    match Number.Scientific.read? cs with
    | none => none
    | some x =>
      if rest.isEmpty && !(x.negative && x.digits = 0) then
        let n := Number.withSign x.negative x.digits
        if Number.fitsInt64 n || (0 ≤ n && n < 18446744073709551616) then some (.int n)
        else some (.real (x.toBinary .double))
      else
        some (.real (x.toBinary .double))

/-- A number in front, and the rest. -/
def takeNumber (cs : List Char) : Option (Json × List Char) :=
  let body := cs.takeWhile isNumberChar
  (number? body).map fun n => (.num n, cs.drop body.length)

/-- A word in front, and the rest. -/
def takeWord (word : String) (value : Json) (cs : List Char) : Option (Json × List Char) :=
  if word.toList.isPrefixOf cs then some (value, cs.drop word.length) else none

mutual

/-- A value in front, and the rest. The fuel bounds the steps. -/
def takeValue : Nat → List Char → Option (Json × List Char)
  | 0, _ => none
  | fuel + 1, cs =>
    match skip cs with
    | '"' :: rest =>
      (takeString rest.length rest).map fun (s, rest) => (.str (String.ofList s), rest)
    | '[' :: rest =>
      match skip rest with
      | ']' :: rest => some (.arr [], rest)
      | _ => (takeItems fuel rest).map fun (items, rest) => (.arr items, rest)
    | '\x7b' :: rest =>
      match skip rest with
      | '\x7d' :: rest => some (.obj [], rest)
      | _ => (takeFields fuel [] rest).map fun (fields, rest) => (.obj fields, rest)
    | 'n' :: rest => takeWord "ull" .null rest
    | 't' :: rest => takeWord "rue" (.bool true) rest
    | 'f' :: rest => takeWord "alse" (.bool false) rest
    | cs => takeNumber cs

/-- The items of an array up to its end, and the rest. -/
def takeItems : Nat → List Char → Option (List Json × List Char)
  | 0, _ => none
  | fuel + 1, cs => do
    let (v, rest) ← takeValue fuel cs
    match skip rest with
    | ',' :: rest => (takeItems fuel rest).map fun (items, rest) => (v :: items, rest)
    | ']' :: rest => some ([v], rest)
    | _ => none

/-- The fields of an object up to its end, written after those already there, and the rest. -/
def takeFields : Nat → Keyed Json → List Char → Option (Keyed Json × List Char)
  | 0, _, _ => none
  | fuel + 1, fields, cs =>
    match skip cs with
    | '"' :: rest => do
      let (key, rest) ← takeString rest.length rest
      match skip rest with
      | ':' :: rest => do
        let (v, rest) ← takeValue fuel rest
        let fields := fields.insert (String.ofList key) v
        match skip rest with
        | ',' :: rest => takeFields fuel fields rest
        | '\x7d' :: rest => some (fields, rest)
        | _ => none
      | _ => none
    | _ => none

end

end Reader

/-- Read a JSON text. -/
def ofText? (s : String) : Option Json :=
  let cs := s.toList
  match Reader.takeValue (cs.length + 1) cs with
  | some (v, rest) => if (Reader.skip rest).isEmpty then some v else none
  | none => none

example : (ofText? "\x7b\"a\": [1, -0, 1e16, 2.50], \"a\": \"\\u00e9\\n\"\x7d").map text =
    some "\x7b\"a\":\"é\\n\"\x7d" := by decide +kernel

example : (ofText? "[1, -0, 1e16, 2.50, 1e-6]").map text =
    some "[1,-0.0,1e+16,2.5,1e-6]" := by decide +kernel

end RowFilter.Json
