import RowFilter.Query.Sql

/-!
# Reading conditions

A reader of the conditions of SQL, written without regard to how conditions are rendered. It cuts
the text into tokens and puts the arguments in the place of their placeholders. Then it reads
conditions by the usual grammar: `OR` is weaker than `AND`, both join to the left, `NOT` is weaker
than the comparisons, and `BETWEEN` takes the first `AND` after it.
-/

namespace RowFilter.Sql

/-! ## Tokens -/

/-- The words of conditions. -/
inductive Keyword where
  | and | or | not | isIn | like | between | is | null | true | false | upper | cast | as | at
  | time | zone
  deriving Repr, DecidableEq

/-- How the words are written. -/
def keywords : List (List Char × Keyword) :=
  [("AND".toList, .and), ("OR".toList, .or), ("NOT".toList, .not), ("IN".toList, .isIn),
    ("LIKE".toList, .like), ("BETWEEN".toList, .between), ("IS".toList, .is),
    ("NULL".toList, .null), ("TRUE".toList, .true), ("FALSE".toList, .false),
    ("UPPER".toList, .upper), ("CAST".toList, .cast), ("AS".toList, .as), ("AT".toList, .at),
    ("TIME".toList, .time), ("ZONE".toList, .zone)]

/-- How the signs of comparisons are written. -/
def signs : List (List Char × Comparison) :=
  [(['='], .equal), (['<', '>'], .notEqual), (['>'], .greaterThan),
    (['>', '='], .greaterThanOrEqual), (['<'], .lessThan), (['<', '='], .lessThanOrEqual)]

inductive Token where
  | keyword (k : Keyword)
  | sign (operator : Comparison)
  /-- A name in double quotes. -/
  | name (s : String)
  /-- The characters of a text in single quotes. -/
  | quoted (cs : List Char)
  /-- An argument, in the place of its placeholder. -/
  | value (l : Literal)
  | opening
  | closing
  | comma
  deriving Repr, DecidableEq

/-- What a reader has read of the token that it stands in. -/
inductive Mode where
  | blank
  | word (cs : List Char)
  | sign (cs : List Char)
  | placeholder (digits : List Char)
  | quoted (quote : Char) (cs : List Char)
  /-- After a quote that ends the token or is the first of two. -/
  | quotedEnd (quote : Char) (cs : List Char)

/-- The token with one more character, if the character belongs to it. -/
def Mode.extend? : Mode → Char → Option Mode
  | blank, _ => none
  | word cs, c => if c.isAlpha then some (word (cs ++ [c])) else none
  | sign cs, c => if c = '=' ∨ c = '>' then some (sign (cs ++ [c])) else none
  | placeholder digits, c => if c.isDigit then some (placeholder (digits ++ [c])) else none
  | quoted q cs, c => some (if c = q then quotedEnd q cs else quoted q (cs ++ [c]))
  | quotedEnd q cs, c => if c = q then some (quoted q (cs ++ [c])) else none

/-- The token that ends here, if it is a whole one. Placeholders count from one. -/
def Mode.finish? (args : List Literal) : Mode → Option (List Token)
  | blank => some []
  | word cs => (keywords.lookup cs).map fun k => [.keyword k]
  | sign cs => (signs.lookup cs).map fun o => [.sign o]
  | placeholder digits =>
    match Number.ofDigits digits with
    | 0 => none
    | n + 1 => args[n]?.map fun l => [.value l]
  | quoted _ _ => none
  | quotedEnd q cs => some [if q = '"' then .name (String.ofList cs) else .quoted cs]

/-- What a character between tokens is or begins. -/
def enter? (c : Char) : Option (List Token × Mode) :=
  if c = ' ' then some ([], .blank)
  else if c = '(' then some ([.opening], .blank)
  else if c = ')' then some ([.closing], .blank)
  else if c = ',' then some ([.comma], .blank)
  else if c = '$' then some ([], .placeholder [])
  else if c = '"' ∨ c = '\x27' then some ([], .quoted c [])
  else if c = '=' ∨ c = '<' ∨ c = '>' then some ([], .sign [c])
  else if c.isAlpha then some ([], .word [c])
  else none

/-- One more character: the tokens that it ends, and what has been read of the next one. -/
def step? (args : List Literal) (m : Mode) (c : Char) : Option (List Token × Mode) :=
  match m.extend? c with
  | some m' => some ([], m')
  | none => do
    let done ← m.finish? args
    let (ts, m') ← enter? c
    some (done ++ ts, m')

/-- The tokens that characters end, and what has been read of the last one. -/
def scan? (args : List Literal) : Mode → List Char → Option (List Token × Mode)
  | m, [] => some ([], m)
  | m, c :: rest => do
    let (ts, m') ← step? args m c
    let (others, last) ← scan? args m' rest
    some (ts ++ others, last)

/-- The tokens of a text. -/
def tokens? (args : List Literal) (s : String) : Option (List Token) := do
  let (ts, last) ← scan? args .blank s.toList
  let done ← last.finish? args
  some (ts ++ done)

/-! ## Conditions -/

/-- Tokens are read from the left, and the rest is left for what comes after. -/
abbrev Reader (α : Type) := List Token → Option (α × List Token)

/-- Read a value. -/
def operand? : Reader Expr
  | .value l :: rest => some (.literal l, rest)
  | .keyword .null :: rest => some (.literal .null, rest)
  | .name s :: rest => some (.path (.simple s), rest)
  | .keyword .upper :: .opening :: rest => do
    let (e, rest) ← operand? rest
    match rest with
    | .closing :: rest => some (.upper e, rest)
    | _ => none
  | .keyword .cast :: .opening :: .opening :: rest => do
    let (e, rest) ← operand? rest
    match rest with
    | .keyword .at :: .keyword .time :: .keyword .zone :: .quoted ['U', 'T', 'C'] :: .closing ::
        .keyword .as :: .keyword .time :: .closing :: rest => some (.timeOfDay e, rest)
    | _ => none
  | _ => none

/-- The value that a token is. -/
def literal? : Token → Option Expr
  | .value l => some (.literal l)
  | .keyword .null => some (.literal .null)
  | _ => none

/-- Read the items of a list and the parenthesis after them. -/
def items? : Reader (List Expr)
  | t :: .comma :: rest => do
    let item ← literal? t
    let (others, rest) ← items? rest
    some (item :: others, rest)
  | t :: .closing :: rest => do
    let item ← literal? t
    some ([item], rest)
  | _ => none

/-- Read what is said of a value. -/
def test? (e : Expr) : Reader Predicate
  | .sign operator :: rest => do
    let (right, rest) ← operand? rest
    some (.compare e operator right, rest)
  | .keyword .isIn :: .opening :: rest => do
    let (items, rest) ← items? rest
    some (.compare e .isIn (.list items), rest)
  | .keyword .like :: .value (.string pattern) :: rest => some (.like e pattern, rest)
  | .keyword .between :: rest => do
    let (low, rest) ← operand? rest
    match rest with
    | .keyword .and :: rest => do
      let (high, rest) ← operand? rest
      some (.between e low high, rest)
    | _ => none
  | .keyword .is :: .keyword .null :: rest => some (.isNull e, rest)
  | _ => none

/-- Read a condition that is not joined with others, given how to read one in parentheses. -/
def factor? (nested? : Reader Predicate) : Reader Predicate
  | .keyword .not :: rest => do
    let (p, rest) ← factor? nested? rest
    some (.not p, rest)
  | .opening :: rest => do
    let (p, rest) ← nested? rest
    match rest with
    | .closing :: rest => some (p, rest)
    | _ => none
  | .keyword .true :: rest => some (.true, rest)
  | .keyword .false :: rest => some (.false, rest)
  | tokens => do
    let (e, rest) ← operand? tokens
    test? e rest

/-- Join a condition with those that come after it, to the left. The number bounds how many. -/
def chain? (item? : Reader Predicate) (word : Keyword)
    (join : Predicate → Predicate → Predicate) : Nat → Predicate → Reader Predicate
  | fuel + 1, left, .keyword k :: rest =>
    if k = word then do
      let (right, rest) ← item? rest
      chain? item? word join fuel (join left right) rest
    else
      some (left, .keyword k :: rest)
  | _, left, tokens => some (left, tokens)

/-- Read conditions with a word between them. -/
def joined? (item? : Reader Predicate) (word : Keyword) (join : Predicate → Predicate → Predicate)
    (fuel : Nat) : Reader Predicate := fun tokens => do
  let (first, rest) ← item? tokens
  chain? item? word join fuel first rest

/-- Read a condition. The number bounds how deep parentheses go, and how many conditions are joined
in one place. -/
def condition? : Nat → Reader Predicate
  | 0 => fun _ => none
  | fuel + 1 => joined? (joined? (factor? (condition? fuel)) .and .and fuel) .or .or fuel

/-- Read a statement that is a condition as a whole. -/
def read? (statement : Statement) : Option Predicate := do
  let ts ← tokens? statement.arguments statement.text
  let (p, rest) ← condition? (ts.length + 1) ts
  if rest.isEmpty then some p else none

/-- The precedence of the words where no parentheses help. -/
example :
    read? ⟨"\"a\" IS NULL OR \"b\" BETWEEN $2 AND $1 AND NOT \"c\" <> $3",
        [.bool true, .null, .char 'x']⟩ =
      some (.or (.isNull (.path (.simple "a")))
        (.and (.between (.path (.simple "b")) (.literal .null) (.literal (.bool true)))
          (.not (.compare (.path (.simple "c")) .notEqual (.literal (.char 'x')))))) := by
  cbv

end RowFilter.Sql
