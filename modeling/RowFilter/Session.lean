import RowFilter.Service

/-!
# Sessions

A session runs requests one after another against one service and one store. It remembers which
schemas have been resolved, each once, and an unknown entity has none.
-/

namespace RowFilter

/-- A service, its records and the entities whose schemas have been resolved. -/
structure Session where
  service : FilterService
  store : MemoryStore
  resolved : List String

namespace Session

/-- The session before any request. -/
def start (service : FilterService) : Session := ⟨service, .empty, []⟩

/-- The resolved entities after one more has been looked up. -/
def note (catalog : Catalog) (resolved : List String) (entity : String) : List String :=
  if (catalog.get? entity).isSome ∧ entity ∉ resolved then resolved ++ [entity] else resolved

/-- The session after schemas have been looked up. -/
def noteAll (s : Session) (entities : List String) : Session :=
  { s with resolved := entities.foldl (note s.service.catalog) s.resolved }

/-- Add records to a collection. -/
def insertAll (s : Session) (collection : String) (records : List Record) : Session :=
  { s with store := s.store.insertAll collection records }

/-- The number of schemas resolved so far. -/
def resolvedCount (s : Session) : Nat := s.resolved.length

/-- The schema of an entity. -/
def resolve (s : Session) (entity : String) : Option FieldSchema × Session :=
  (s.service.catalog.resolve entity, s.noteAll [entity])

/-- The session after a filter map has been compiled. -/
def afterFilter (s : Session) (entity : String) (filter : FilterMap) : Session :=
  s.noteAll (s.service.consulted entity filter)

/-- The selection that a filter map asks for. -/
def selection (s : Session) (entity : String) (filter : FilterMap) :
    Except RetrievalError Selection × Session :=
  (s.service.selection entity filter, s.afterFilter entity filter)

/-- Every row that satisfies a filter map. -/
def filter (s : Session) (entity : String) (filter : FilterMap) :
    Except RetrievalError (List Record) × Session :=
  (s.service.filter s.store entity filter, s.afterFilter entity filter)

/-- One page of the rows that satisfy a filter map. -/
def pageOf (s : Session) (entity : String) (filter : FilterMap) (page : PageSpec) :
    Except RetrievalError (PageResult Record) × Session :=
  (s.service.pageOf s.store entity filter page, s.afterFilter entity filter)

/-- The page that a filter map asks for. A page that cannot be read ends the request before the
filter map is compiled. -/
def page (s : Session) (entity : String) (filter : FilterMap) :
    Except RetrievalError (PageResult Record) × Session :=
  match s.service.config.page filter with
  | .ok page => s.pageOf entity filter page
  | .error cause => (.error (.invalidFilter cause), s)

end Session

end RowFilter
