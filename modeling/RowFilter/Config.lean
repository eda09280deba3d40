import RowFilter.Civil.Zone
import RowFilter.Json.Basic
import RowFilter.Keyed
import RowFilter.Number.Digits
import RowFilter.Text.Quoted

/-!
# Configuration

The settings of filters and pages. They come from a JSON document or from the environment, and
what is not given there has a default.
-/

namespace RowFilter

/-- Settings of filters and pages. -/
structure FilterConfig where
  /-- The key of a filter map under which the page stands. -/
  pageKey : String
  /-- The key of the order where a filter map has no page. -/
  sortKey : String
  /-- The size of a page that asks for none. -/
  defaultLimit : Nat
  /-- The greatest size of a page. -/
  maxLimit : Nat
  /-- The zone of dates and times that carry none; without a name, the zone of the system. -/
  timeZone : Option String
  deriving Repr, DecidableEq

/-- Why settings are refused. -/
inductive ConfigError where
  | invalidValue (key value : String)
  | unknownTimeZone (name : String)
  deriving Repr, DecidableEq

/-- The text of the error. -/
def ConfigError.message : ConfigError → String
  | invalidValue key value => "invalid value " ++ Text.quoted value ++ " for " ++ key
  | unknownTimeZone name => "unknown time zone " ++ Text.quoted name

namespace FilterConfig

/-- The settings of which nothing is given. -/
def standard : FilterConfig := ⟨"_page", "sort", 10000, 10000000, none⟩

/-- A text, if the value is one. -/
def readText? : Json → Option String
  | .str s => some s
  | _ => none

/-- A natural number, if the value is one. -/
def readLimit? : Json → Option Nat
  | .num (.int n) => if 0 ≤ n then some n.toNat else none
  | _ => none

/-- A name or the absence of one, if the value is either. -/
def readName? : Json → Option (Option String)
  | .null => some none
  | .str s => some (some s)
  | _ => none

/-- The field of a document, or the default where there is none. Nothing if the value does not
fit. -/
def readField {α : Type} (fields : Keyed Json) (key : String) (read? : Json → Option α)
    (default : α) : Option α :=
  match fields.get? key with
  | none => some default
  | some value => read? value

/-- The settings of a document. Other fields of it do not matter. -/
def ofJson? : Json → Option FilterConfig
  | .obj fields => do
    let pageKey ← readField fields "page_key" readText? standard.pageKey
    let sortKey ← readField fields "sort_key" readText? standard.sortKey
    let defaultLimit ← readField fields "default_limit" readLimit? standard.defaultLimit
    let maxLimit ← readField fields "max_limit" readLimit? standard.maxLimit
    let timeZone ← readField fields "time_zone" readName? standard.timeZone
    some ⟨pageKey, sortKey, defaultLimit, maxLimit, timeZone⟩
  | _ => none

/-- The settings with another time zone. -/
def withTimeZone (c : FilterConfig) (name : String) : FilterConfig :=
  { c with timeZone := some name }

/-- The zone of dates and times that carry none. -/
def zone (c : FilterConfig) (zones : Civil.ZoneBook := .standard) :
    Except ConfigError Civil.LocalZone :=
  match c.timeZone with
  | none => .ok zones.system
  | some name =>
    match Civil.LocalZone.named? name zones with
    | some z => .ok z
    | none => .error (.unknownTimeZone name)

/-- Refuse settings that contradict each other, and a zone that is not known. -/
def validate (c : FilterConfig) (zones : Civil.ZoneBook := .standard) :
    Except ConfigError Unit := do
  if c.defaultLimit = 0 then
    .error (.invalidValue "default_limit" (Number.natText c.defaultLimit))
  else if c.maxLimit < c.defaultLimit then
    .error (.invalidValue "max_limit" (Number.natText c.maxLimit))
  else
    let _ ← c.zone zones
    .ok ()

/-- A positive number of at most 64 bits between blanks. -/
def readVariable (key value : String) : Except ConfigError Nat :=
  match Number.readNat64? (Text.trimChars value.toList) with
  | some (n + 1) => .ok (n + 1)
  | _ => .error (.invalidValue key value)

/-- The limit that a variable of the environment gives, or the default. -/
def limitOf (environment : Keyed String) (key : String) (default : Nat) :
    Except ConfigError Nat :=
  match environment.get? key with
  | none => .ok default
  | some value => readVariable key value

/-- The page key that the environment gives, which must not be blank, or the default. -/
def pageKeyOf (environment : Keyed String) : Except ConfigError String :=
  match environment.get? "SIEVE_PAGE_KEY" with
  | none => .ok standard.pageKey
  | some value =>
    let key := Text.trim value
    if key = "" then .error (.invalidValue "SIEVE_PAGE_KEY" value) else .ok key

/-- The time zone that the environment gives, unless it is blank. -/
def timeZoneOf (environment : Keyed String) : Option String :=
  ((environment.get? "SIEVE_TIME_ZONE").map Text.trim).filter (· ≠ "")

/-- The settings that the variables of the environment give. -/
def ofEnvironment (environment : Keyed String) (zones : Civil.ZoneBook := .standard) :
    Except ConfigError FilterConfig := do
  let defaultLimit ← limitOf environment "SIEVE_DEFAULT_LIMIT" standard.defaultLimit
  let maxLimit ← limitOf environment "SIEVE_MAX_LIMIT" standard.maxLimit
  let pageKey ← pageKeyOf environment
  let config : FilterConfig :=
    ⟨pageKey, standard.sortKey, defaultLimit, maxLimit, timeZoneOf environment⟩
  config.validate zones
  .ok config

end FilterConfig

end RowFilter
