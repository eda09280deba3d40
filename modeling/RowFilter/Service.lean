import RowFilter.Filter.Consulted
import RowFilter.Page.Result
import RowFilter.Query.Sql
import RowFilter.Store.Memory

/-!
# The filter service

From a filter map to rows: the schema of the entity is looked up, the conditions are read and
compiled, extra criteria are added, the order and the window are taken from the page, and the
selection is run.
-/

namespace RowFilter

/-- Why rows cannot be retrieved. -/
inductive RetrievalError where
  | invalidFilter (cause : FilterError)
  | unknownEntity (name : String)
  | storage (cause : EvalError)
  deriving Repr, DecidableEq

/-- The text of the error. -/
def RetrievalError.message : RetrievalError → String
  | invalidFilter cause => "invalid filter: " ++ cause.message
  | unknownEntity name => "unknown entity: " ++ name
  | storage cause => "storage error: " ++ cause.message

/-- Everything that retrieval depends on but the records themselves. -/
structure FilterService where
  catalog : Catalog
  config : FilterConfig
  casters : Casters
  /-- The zone of dates and times that carry none. -/
  zone : Civil.LocalZone
  /-- A predicate that every row of an entity must satisfy besides the filter. -/
  extra : FieldSchema → Option Predicate

namespace FilterService

/-- The service for a catalog, with the standard settings. -/
def ofCatalog (catalog : Catalog) (zones : Civil.ZoneBook := .standard) : FilterService :=
  ⟨catalog, .standard, .builtIn, zones.system, fun _ => none⟩

/-- The service for a catalog with these settings. -/
def ofConfig (catalog : Catalog) (config : FilterConfig) (zones : Civil.ZoneBook := .standard) :
    Except ConfigError FilterService := do
  config.validate zones
  let zone ← config.zone zones
  .ok { ofCatalog catalog zones with config := config, zone := zone }

/-- What filters are compiled with. -/
def context (s : FilterService) : FilterContext := ⟨s.catalog, s.config.pageKey, s.casters, s.zone⟩

/-- A predicate with extra criteria. They take the place of a predicate that every row satisfies. -/
def addCriteria (p : Predicate) : Option Predicate → Predicate
  | none => p
  | some extra => if p.isTrue then extra else .and p extra

/-- The conditions of a filter map as nodes. -/
def nodes (s : FilterService) (schema : FieldSchema) (filter : FilterMap) :
    Except FilterError (List FilterNode) :=
  FilterNode.ofMap schema s.config.pageKey .and (s.config.conditions filter)

/-- The rows of an entity that satisfy a filter map and the extra criteria, without order and
window. -/
def criteria (s : FilterService) (schema : FieldSchema) (filter : FilterMap) :
    Except FilterError Selection := do
  let nodes ← s.nodes schema filter
  let compiled ← s.context.compile schema nodes
  let selection := Selection.ofPredicate (addCriteria compiled.predicate (s.extra schema))
  .ok { selection with joins := compiled.joins }

/-- Whether rows of an entity can be sorted by a token: it names a scalar field. -/
def checkSortable (schema : FieldSchema) (token : SortToken) : Except FilterError Unit :=
  match schema.get? token.field with
  | some (.scalar _) => .ok ()
  | _ => .error (.invalidSortToken token.field .notSortable)

/-- The order that a page asks for. -/
def orderOf (schema : FieldSchema) (page : PageSpec) :
    Except FilterError (Option (List OrderItem)) := do
  page.sort.forM (checkSortable schema)
  .ok (if page.sort.isEmpty then none else some page.orderItems)

/-- The schema of an entity. -/
def schema (s : FilterService) (entity : String) : Except RetrievalError FieldSchema :=
  match s.catalog.resolve entity with
  | some schema => .ok schema
  | none => .error (.unknownEntity entity)

/-- The rows that a filter map asks for, in its order. -/
def ordered (s : FilterService) (schema : FieldSchema) (filter : FilterMap) :
    Except FilterError (PageSpec × Selection) := do
  let selection ← s.criteria schema filter
  let page ← s.config.page filter
  let order ← orderOf schema page
  .ok (page, { selection with orderBy := order })

/-- The selection that a filter map asks for. It has a window only where the map asks for a page. -/
def selection (s : FilterService) (entity : String) (filter : FilterMap) :
    Except RetrievalError Selection := do
  let schema ← s.schema entity
  let (page, selection) ← (s.ordered schema filter).mapError .invalidFilter
  .ok (if s.config.asksForPage filter then
    { selection with limit := some page.limit, offset := some page.offset }
  else
    selection)

/-- Every row that satisfies a filter map, in its order. -/
def filter (s : FilterService) (store : MemoryStore) (entity : String) (filter : FilterMap) :
    Except RetrievalError (List Record) := do
  let schema ← s.schema entity
  let (_, selection) ← (s.ordered schema filter).mapError .invalidFilter
  (store.fetch schema.collection selection).mapError .storage

/-- One page of the rows that satisfy a filter map. The page of the filter map does not matter. -/
def pageOf (s : FilterService) (store : MemoryStore) (entity : String) (filter : FilterMap)
    (page : PageSpec) : Except RetrievalError (PageResult Record) := do
  let schema ← s.schema entity
  let selection ← (s.criteria schema filter).mapError .invalidFilter
  let order ← (orderOf schema page).mapError .invalidFilter
  let sorted := { selection with orderBy := order }
  let total ← (store.count schema.collection sorted).mapError .storage
  let windowed := { sorted with limit := some page.limit, offset := some page.offset }
  let items ← (store.fetch schema.collection windowed).mapError .storage
  .ok (.ofRequest items page total)

/-- The page that a filter map asks for. -/
def page (s : FilterService) (store : MemoryStore) (entity : String) (filter : FilterMap) :
    Except RetrievalError (PageResult Record) := do
  let page ← (s.config.page filter).mapError .invalidFilter
  s.pageOf store entity filter page

/-- The entities whose schemas are looked up when a filter map is compiled. -/
def consulted (s : FilterService) (entity : String) (filter : FilterMap) : List String :=
  match s.catalog.resolve entity with
  | none => []
  | some schema =>
    match s.nodes schema filter with
    | .ok nodes => entity :: s.context.consulted schema nodes
    | .error _ => [entity]

end FilterService

end RowFilter
