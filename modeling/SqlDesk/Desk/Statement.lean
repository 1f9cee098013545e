import SqlDesk.Desk
import SqlDesk.ServerMessage

/-!
# Statements of a desk

Every statement goes through `tryQuery`, which measures it for the statement log. A statement that
fails gives no result; `query` turns that into a refusal. All other readers give an empty answer
instead, and leave the remembered number of rows alone.
-/

namespace SqlDesk.Desk

open Act

variable {σ : Type} (desk : Desk σ)

/-- Run a statement on a link and measure it. An error that ends it counts as a failure. -/
def measured (sql : String) (link : Link) (role : Role) (unbuffered : Bool) : Act σ Outcome := do
  let start ← desk.readClock
  let r ← attempt (request (.query link sql unbuffered) (desk.driver.execute sql link unbuffered))
  let stop ← desk.readClock
  let failed := match r with
    | .ok .failed | .error _ => true
    | .ok _ => false
  let (span, log, event) := (← memory).log.measure sql role.tag start stop failed
  remember fun m => { m with log }
  match event with
  | some e => post e
  | none => pure ()
  discard (ofFault span)
  MonadExcept.ofExcept r

/-- The number of rows that the last statement of a link concerned. -/
def affectedOf (link : Link) : Act σ Int := do
  let s ← get
  return desk.driver.affected s.world.journal.state link

/-- The result of a statement that did not fail. One without rows has their number only. -/
def resultOf (link : Link) : Outcome → Act σ (Option ResultSet)
  | .failed => return none
  | .done => return some (.ofCount (← desk.affectedOf link))
  | .rows r => return some r

/-- Run a statement on the connection of a role; no result if it fails. With `keep` the number of
rows it concerned is remembered. -/
def tryQuery (sql : String) (role : Role := .user) (unbuffered : Bool := false)
    (keep : Bool := true) : Act σ (Option ResultSet) := do
  match (← memory).linkOf role with
  | none =>
    report .debug "No connection for role" [("role", .text role.label), ("query", .text sql)]
    return none
  | some link =>
    let r ← desk.resultOf link (← desk.measured sql link role unbuffered)
    if r.isSome && keep then
      let affected ← desk.affectedOf link
      remember fun m => { m with affected }
    return r

def notConnected (sql : String) (role : Role) : Refusal :=
  .make .query ("Not connected as " ++ role.label) (some Code.connectionMissing.label)
    (.ofFacts [("query", .text sql), ("role", .text role.label)])

def statementFailed (e : LinkError) (sql : String) (role : Role) : Refusal :=
  .make .query (formatError e.number e.text) (some Code.statementFailed.label)
    (.ofFacts [("errno", .int e.number), ("error", .text e.text), ("query", .text sql),
      ("role", .text role.label)])

/-- Run a statement; one that fails is refused. -/
def query (sql : String) (role : Role := .user) (unbuffered : Bool := false)
    (keep : Bool := true) : Act σ ResultSet := do
  match ← desk.tryQuery sql role unbuffered keep with
  | some r => return r
  | none =>
    match (← memory).linkOf role with
    | none => throw (.refused (notConnected sql role))
    | some _ => throw (.refused (statementFailed (← desk.lastError role) sql role))

/-- Run a statement as the control user; one that fails is refused. -/
def queryAsControlUser (sql : String) (unbuffered : Bool := false) : Act σ ResultSet :=
  desk.query sql .control unbuffered false

/-- Run a statement as the control user; no result if it fails. -/
def tryQueryAsControlUser (sql : String) (unbuffered : Bool := false) : Act σ (Option ResultSet) :=
  desk.tryQuery sql .control unbuffered false

/-- Run a statement of the desk's own. -/
def ask (sql : String) (role : Role := .user) : Act σ (Option ResultSet) :=
  desk.tryQuery sql role false false

/-- Bind a statement to the connection of a role. -/
def prepare (sql : String) (role : Role := .user) : Act σ (Option Prepared) := do
  let link := (← memory).linkOf role
  request (.prepare link sql) (desk.driver.prepare link sql)

/-- One value of the first row, null without one. -/
def fetchValue (sql : String) (column : ColumnRef := .index 0) (role : Role := .user) :
    Act σ Value := do
  match ← desk.ask sql role with
  | none => return .null
  | some r => ofFault (r.fetchValue column).1

/-- The first row, if there is one. -/
def fetchRow (sql : String) (role : Role := .user) : Act σ (Option (List Value)) := do
  return (← desk.ask sql role).bind fun r => r.fetchRow.1

/-- The first row as a mapping, if there is one. -/
def fetchMapping (sql : String) (role : Role := .user) : Act σ (Option Row) := do
  return (← desk.ask sql role).bind fun r => r.fetchMapping.1

/-- The value of a row in a column. -/
def pick (r : ResultSet) (row : List Value) (column : ColumnRef) : Except Fault Value := do
  ResultSet.cell row (← r.resolve column)

/-- What a row contributes to a whole result: a column of it, or all of it as a mapping. -/
def entryOf (r : ResultSet) (value : Option ColumnRef) (row : List Value) : Except Fault Value :=
  match value with
  | some c => pick r row c
  | none => .ok (.map (r.asMapping row))

/-- What a row contributes to a whole result under a key. -/
def keyedEntryOf (r : ResultSet) (key : ColumnRef) (value : Option ColumnRef) (row : List Value) :
    Except Fault (Value × Value) := do
  let k ← pick r row key
  let v ← entryOf r value row
  if k.isKey then return (k, v) else throw .unfitOperands

/-- All rows of a result as a list. -/
def fetchList (sql : String) (value : Option ColumnRef := none) (role : Role := .user) :
    Act σ (List Value) := do
  match ← desk.ask sql role with
  | none => return []
  | some r => ofFault (r.rows.mapM (entryOf r value))

/-- All rows of a result as a mapping from one of its columns. -/
def fetchKeyed (sql : String) (key : ColumnRef) (value : Option ColumnRef := none)
    (role : Role := .user) : Act σ Row := do
  match ← desk.ask sql role with
  | none => return []
  | some r => Assoc.ofList <$> ofFault (r.rows.mapM (keyedEntryOf r key value))

/-- Make a database the selected one of a role's connection. -/
def selectDb (database : String) (role : Role := .user) : Act σ Bool := do
  match (← memory).linkOf role with
  | none => return false
  | some link => request (.selectDb link database) (desk.driver.selectDb database link)

/-- The last error of a role, nothing without one. -/
def errorText (role : Role := .user) : Act σ String := do
  let e ← desk.lastError role
  return if e.number = 0 then "" else formatError e.number e.text

/-- The number of rows that a statement concerned: the last remembered one, or the last one on the
connection of a role. -/
def affectedRows (role : Role := .user) (remembered : Bool := true) : Act σ Int := do
  let m ← memory
  if remembered then return m.affected
  else match m.linkOf role with
    | none => return 0
    | some link => desk.affectedOf link

end SqlDesk.Desk
