import SqlDesk.Database
import SqlDesk.Desk.Collation
import SqlDesk.Desk.Tables
import SqlDesk.Pattern.Search
import SqlDesk.Sql.Like

/-!
# Databases of a server

Which databases are visible is decided by patterns of the settings: a name has to match one of the
patterns of visible databases, if there are any, and the pattern of hidden ones must not be found in
it. The list is kept until it is reset.
-/

namespace SqlDesk.Desk

open Act

variable {σ : Type} (desk : Desk σ)

/-- Whether the patterns of visible databases let a name through. -/
def isShown (patterns : List String) (name : String) : Bool :=
  patterns.isEmpty || patterns.any fun p => (Sql.Like.ofText p).admits name

/-- A pattern of settings, which has compiled before. -/
def hidingPattern (pattern : String) : Except Error (Option Pattern) :=
  if pattern.isEmpty then .ok none
  else match Pattern.compile pattern with
    | .ok p => .ok (some p)
    | .error (.malformed issue position) => .error (.pattern (Pattern.message pattern issue position))
    | .error .countTooLarge => .error .repetitionTooLarge
    | .error .exclusiveFlags => .error .exclusiveFlags

def isHidden (pattern : Option Pattern) (name : String) : Bool :=
  pattern.elim false fun p => p.foundIn name

/-- The names that settings let through. -/
def visible (server : ServerSettings) (names : List String) : Except Error (List String) := do
  let shown := names.filter (isShown server.onlyDb)
  let pattern ← hidingPattern server.hideDb
  return shown.filter fun n => !isHidden pattern n

/-- The databases that are visible. -/
def databaseNames : Act σ (List String) := do
  match (← memory).databases with
  | some names => return names
  | none =>
    let all ← namesOf (← desk.ask Sql.databaseNames)
    let names ← MonadExcept.ofExcept (visible desk.settings.server all)
    remember fun m => { m with databases := some names }
    return names

/-- The databases of the catalog. -/
def catalogDatabases (like : Option String) (totals : Bool) (role : Role) :
    Act σ (List DatabaseStats) := do
  let filter ← match like with
    | some pattern => pure (Sql.DatabaseFilter.like pattern)
    | none => Sql.DatabaseFilter.names <$> desk.databaseNames
  if filter = .names [] then return []
  let literal ← desk.literal
  match ← desk.ask (Sql.catalogDatabases literal totals filter) role with
  | none => return []
  | some r => ofFault (r.fetchMappings.1.mapM DatabaseStats.ofCatalogRow)

/-- Add the tables of a listing to the totals of their database. -/
def addTables (database : String) (rows : List Row) (stats : DatabaseStats) :
    Except Fault DatabaseStats :=
  rows.foldlM (fun stats row => do
    match stats.addTable (← TableStatus.ofShowRow row database) with
    | (stats, none) => return stats
    | (_, some f) => throw f) stats

/-- A database with the totals over its tables on request. -/
def statsOf (totals : Bool) (role : Role) (name : String) : Act σ DatabaseStats := do
  let stats : DatabaseStats := { name, collation := .text (← desk.databaseCollation name) }
  if !totals then return stats
  let stats := stats.startStatistics
  match ← desk.ask (Sql.allTableStatus name) role with
  | none => return stats
  | some r => ofFault (addTables name r.fetchMappings.1 stats)

/-- The databases one by one, without the catalog. -/
def statusDatabases (like : Option String) (totals : Bool) (role : Role) :
    Act σ (List DatabaseStats) := do
  let names ← match like with
    | none => desk.databaseNames
    | some pattern =>
      let literal ← desk.literal
      namesOf (← desk.ask (Sql.databaseNamesLike literal pattern) role)
  names.mapM (desk.statsOf totals role)

/-- How a listing of databases is sorted and cut. -/
structure DatabaseView where
  sortBy : String := "SCHEMA_NAME"
  order : Option String := some "ASC"
  offset : Int := 0
  /-- The greatest number of databases: all for zero, the configured number if there is none. -/
  limit : Option Int := some 0

/-- The databases that match a pattern, or else those that are visible, with totals over their
tables on request. -/
def databases (like : Option String := none) (totals : Bool := false) (view : DatabaseView := {})
    (role : Role := .user) : Act σ (List DatabaseStats) := do
  if !databaseColumns.contains view.sortBy then
    throw (.refused (unknownSortColumn "database" view.sortBy))
  let order ← MonadExcept.ofExcept (Order.direction view.order)
  let all ← if desk.settings.server.disableCatalog then desk.statusDatabases like totals role
    else desk.catalogDatabases like totals role
  let sorted ← ofFault (Order.sortDatabases all view.sortBy order desk.settings.naturalOrder)
  return Order.page sorted view.offset (view.limit.getD desk.settings.maxDbList)

end SqlDesk.Desk
