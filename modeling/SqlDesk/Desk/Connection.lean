import SqlDesk.Collation
import SqlDesk.Desk.Statement
import SqlDesk.Sql.Setup

/-!
# Connections of a desk

A connection is opened for a role. That of the user is set up at once: the version is read, and the
character set, the language of messages and the time zone are set. A step of the setup that fails is
reported and does not stop the others.
-/

namespace SqlDesk.Desk

open Act

variable {σ : Type} (desk : Desk σ)

/-- Use a link for a role. -/
def setLink (role : Role) (link : Option Link) : Act σ Unit :=
  remember fun m => { m with links := Assoc.put m.links role link }

/-- Learn the version from a version row; a malformed one is ignored. -/
def setVersion (row : Value) : Act σ Unit := do
  match ← ofFault (ServerVersion.ofRow row) with
  | none => report .warning "Ignoring malformed version row" [("row", .text row.shown)]
  | some version =>
    remember fun m => { m with version }
    if version.isUpgradeRequired then
      report .warning "Server version is below the supported minimum"
        [("version", .text version.text)]

def readVersion : Act σ Unit := do
  match ← desk.fetchMapping Sql.version with
  | some row => setVersion (.map row)
  | none => report .warning "Server version is unavailable"

def setCharset : Act σ Unit := do
  let (charset, collation) := defaultCharset (← memory).version.number
  match ← desk.ask (Sql.setNames charset collation) with
  | some _ => remember fun m => { m with charset, collation }
  | none => report .warning "Failed to set connection character set" [("charset", .text charset)]

/-- Set the language of messages, on servers that know it. -/
def setLocale : Act σ Unit := do
  match desk.settings.locale with
  | none => return
  | some locale =>
    if !locale.isEmpty && minimumVersion ≤ (← memory).version.number then
      discard (desk.ask (Sql.setLocale locale))

def setTimeZone (zone : String) : Act σ Unit := do
  if zone.isEmpty then return
  let literal ← desk.literal
  match ← desk.ask (Sql.setTimeZone (literal zone)) with
  | some _ => return
  | none =>
    report .warning "Unable to use timezone for server"
      [("time_zone", .text zone), ("error", .text (← desk.errorText))]

/-- Ask for the databases again when they are needed. -/
def resetDatabases : Act σ Unit := remember fun m => { m with databases := none }

/-- Set a fresh user connection up. -/
def postConnect (server : Option ServerSettings := none) : Act σ Unit := do
  let server := server.getD desk.settings.server
  desk.readVersion
  desk.setCharset
  desk.setLocale
  desk.setTimeZone server.sessionTimeZone
  resetDatabases

/-- The errors that refuse a login. -/
def isLoginError (number : Int) : Bool := number == 1045 || number == 1698

/-- What is known about a failure to connect. -/
def failureFacts (e : LinkError) (p : ConnectionParams) (role : Role) : List (String × Value) :=
  [("errno", .int e.number), ("error", .text e.text), ("host", .text p.host), ("port", .int p.port),
    ("role", .text role.label)]

def connectionFailed (e : LinkError) (p : ConnectionParams) (role : Role) : Refusal :=
  let code : Code := if isLoginError e.number then .loginFailed else .connectionRefused
  .make .connecting (formatError e.number e.text) (some code.label)
    (.ofFacts (failureFacts e p role))

/-- Open the connection of a role. Only a user connection that fails is refused. -/
def connect (role : Role := .user) (server : Option ServerSettings := none) :
    Act σ (Option Link) := do
  let server := server.getD desk.settings.server
  if role = .control ∧ !server.hasControlUser then
    report .debug "No control user configured"
    return none
  let params := server.connectionParams desk.env role
  match ← request (.connect params) (desk.driver.connect params) with
  | none =>
    let e := desk.driver.lastError (← get).world.journal.state none
    if role = .user then throw (.refused (connectionFailed e params role))
    report .warning "Connection failed" (failureFacts e params role)
    return none
  | some link =>
    setLink role (some link)
    report .info "Connected"
      [("role", .text role.label), ("host", .text params.host), ("port", .int params.port)]
    if role = .user then desk.postConnect (some server)
    return some link

/-- Close the connection of a role, if there is one. -/
def close (role : Role := .user) : Act σ Unit := do
  let link := (← memory).linkOf role
  remember fun m => { m with links := Assoc.erase m.links role }
  match link with
  | none => return
  | some l =>
    request (.close l) (desk.driver.close l)
    report .debug "Connection closed" [("role", .text role.label)]

/-- Close all connections, in the order in which they were opened. -/
def closeAll : Act σ Unit := do
  (Assoc.keys (← memory).links).forM fun role => desk.close role

/-- Whether a role has a connection, or was set to have none. -/
def isConnected (role : Role := .user) : Act σ Bool :=
  return (← memory).links.has role

end SqlDesk.Desk
