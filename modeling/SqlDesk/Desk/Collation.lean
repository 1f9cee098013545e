import SqlDesk.Collation
import SqlDesk.Desk.Statement
import SqlDesk.Sql.Metadata
import SqlDesk.Sql.Setup

/-!
# Collations of databases and connections
-/

namespace SqlDesk.Desk

open Act

variable {σ : Type} (desk : Desk σ)

/-- A value as a text, null as nothing. -/
def textOrEmpty : Value → String
  | .null => ""
  | v => v.plain

/-- The default collation of a database. Without the catalog the database is selected for a moment,
and the current one again afterwards. -/
def databaseCollation (database : String) : Act σ String := do
  if !desk.settings.server.disableCatalog then
    let literal ← desk.literal
    return textOrEmpty (← desk.fetchValue (Sql.catalogCollation literal database))
  else
    let previous := (← memory).currentDatabase
    discard (desk.selectDb database)
    let v ← desk.fetchValue Sql.databaseCollation
    if !previous.isEmpty && previous != database then discard (desk.selectDb previous)
    return textOrEmpty v

def serverCollation : Act σ String :=
  textOrEmpty <$> desk.fetchValue Sql.serverCollation

/-- Set the collation of the connection, in the form that the server understands. -/
def setCollation (collation : String) : Act σ Unit := do
  let collation := resolveCollation collation (← memory).version.number
  let literal ← desk.literal
  match ← desk.ask (Sql.setCollation (literal collation)) with
  | some _ => remember fun m => { m with collation }
  | none =>
    report .warning "Failed to set collation_connection"
      [("collation", .text collation), ("error", .text (← desk.errorText))]

end SqlDesk.Desk
