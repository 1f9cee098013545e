import SqlDesk.Column
import SqlDesk.Desk.Statement
import SqlDesk.Order.Listing
import SqlDesk.Sql.Metadata

/-!
# Tables of a database

A listing of tables comes from the catalog or, if that is disabled or gives nothing, from
`SHOW TABLE STATUS`. It is narrowed to one kind of table, sorted, cut to a page and remembered.
-/

namespace SqlDesk.Desk

open Act

variable {σ : Type} (desk : Desk σ)

/-- A kind of table to which a listing may be narrowed. -/
inductive TableKind where
  | view
  | table
deriving DecidableEq, Repr

/-- How a listing of tables is narrowed, sorted and cut. -/
structure TableView where
  kind : Option TableKind := none
  sortBy : String := "Name"
  order : Option String := some "ASC"
  offset : Int := 0
  /-- The greatest number of tables: all for zero, the configured number if there is none. -/
  limit : Option Int := some 0

def unknownSortColumn (what sortBy : String) : Refusal :=
  .make .validation ("Unknown " ++ what ++ " sort column: " ++ sortBy) (some Code.sortColumn.label)
    [(.text "sort_by", .text sortBy)]

/-- The tables of the catalog. -/
def catalogTables (database : String) (filter : Sql.TableFilter) (role : Role) :
    Act σ (List TableStatus) := do
  let literal ← desk.literal
  match ← desk.ask (Sql.catalogTables literal database filter) role with
  | none => return []
  | some r => ofFault (r.fetchMappings.1.mapM TableStatus.ofCatalogRow)

/-- The tables by their status. -/
def statusTables (database : String) (filter : Sql.TableFilter) (role : Role) :
    Act σ (List TableStatus) := do
  let literal ← desk.literal
  match ← desk.ask (Sql.tableStatus literal database filter) role with
  | none => return []
  | some r => ofFault (r.fetchMappings.1.mapM (TableStatus.ofShowRow · database))

/-- The tables from the first source that has any. -/
def allTables (database : String) (filter : Sql.TableFilter) (role : Role) :
    Act σ (List TableStatus) := do
  let tables ← if desk.settings.server.disableCatalog then pure []
    else desk.catalogTables database filter role
  if tables.isEmpty then desk.statusTables database filter role else return tables

/-- Whether a table is of a kind. -/
def TableKind.admits : Option TableKind → TableStatus → Bool
  | some .view, t => t.isView
  | some .table, t => !t.isView
  | none, _ => true

/-- A page of tables. Without a limit a negative offset skips nothing. -/
def pageOfTables (tables : List TableStatus) (offset limit : Int) : List TableStatus :=
  Order.page tables (if 0 < limit then offset else max offset 0) limit

def byName (tables : List TableStatus) : Assoc String TableStatus :=
  Assoc.ofList (tables.map fun t => (t.name, t))

/-- A listing of tables narrowed, sorted and cut. -/
def arrange (tables : List TableStatus) (view : TableView) (order : String) (natural : Bool)
    (limit : Int) : Except Fault (List TableStatus) := do
  let kept := tables.filter (TableKind.admits view.kind)
  let sorted ← Order.sortTables kept view.sortBy order natural
  return pageOfTables sorted view.offset limit

/-- Remember tables of a database beside those that are known already. -/
def rememberTables (database : String) (tables : Assoc String TableStatus) : Act σ Unit :=
  remember fun m =>
    let known := (Assoc.get? m.tables database).getD []
    { m with tables := Assoc.put m.tables database (Assoc.merge known tables) }

/-- The tables of a database, by name in the order of the listing. -/
def tables (database : String) (filter : Sql.TableFilter := .name "") (view : TableView := {})
    (role : Role := .user) : Act σ (Assoc String TableStatus) := do
  if (TableField.ofShowColumn? view.sortBy).isNone then
    throw (.refused (unknownSortColumn "table" view.sortBy))
  let order ← MonadExcept.ofExcept (Order.direction view.order)
  let all ← desk.allTables database filter role
  let limit := view.limit.getD desk.settings.maxTableList
  let found := byName (← ofFault (arrange all view order desk.settings.naturalOrder limit))
  rememberTables database found
  return found

/-- What is remembered of a table. -/
def knownTable (database table : String) : Act σ (Option TableStatus) :=
  return ((Assoc.get? (← memory).tables database).getD []).get? table

def forgetTables : Act σ Unit := remember fun m => { m with tables := [] }

/-- The names in the first column of a result, none without a result. -/
def namesOf (r : Option ResultSet) : Act σ (List String) :=
  match r with
  | none => return []
  | some r => do return (← ofFault (r.fetchColumn (.index 0)).1).map Value.plain

def tableNames (database : String) (role : Role := .user) : Act σ (List String) := do
  let names ← namesOf (← desk.ask (Sql.tableNames database) role)
  if desk.settings.naturalOrder then ofFault (Order.sortNaturally id names) else return names

/-- The columns of a table by name. -/
def columns (database table : String) (full : Bool := false) (role : Role := .user) :
    Act σ (Assoc String ColumnInfo) := do
  match ← desk.ask (Sql.columns full database table) role with
  | none => return []
  | some r =>
    return Assoc.ofList (r.fetchMappings.1.map fun row =>
      let c := ColumnInfo.ofRow row
      (c.name, c))

end SqlDesk.Desk
