import SqlDesk.Driver.Client
import SqlDesk.Sql.Placeholder

/-!
# The driver over a client library

Server errors do not leave the driver: it keeps the last one of every link, and the last one of
connecting, in registers. A statement that succeeds clears the error of its link and sets the number
of rows concerned; one that fails leaves that number as it was.
-/

namespace SqlDesk

/-- The registers of the driver and the client library behind it. -/
structure Connector (τ : Type) where
  client : τ
  errors : Assoc Link LinkError := []
  affected : Assoc Link Int := []
  connectError : LinkError := {}
  /-- The calls made of the client library so far. -/
  calls : List ClientCall := []

namespace Connector

variable {τ : Type}

/-- The last error of a link, or of connecting. -/
def lastError (c : Connector τ) : Option Link → LinkError
  | none => c.connectError
  | some l => (Assoc.get? c.errors l).getD {}

/-- The number of rows that the last statement of a link concerned. -/
def affectedOf (c : Connector τ) (l : Link) : Int := (Assoc.get? c.affected l).getD 0

/-- The registers after a success on a link. -/
def clearError (l : Link) (c : Connector τ) : Connector τ :=
  { c with errors := Assoc.erase c.errors l }

/-- The registers after an error on a link. -/
def putError (l : Link) (e : LinkError) (c : Connector τ) : Connector τ :=
  { c with errors := Assoc.put c.errors l e }

/-- The registers after a statement on a link. -/
def putAffected (l : Link) (n : Int) (c : Connector τ) : Connector τ :=
  clearError l { c with affected := Assoc.put c.affected l n }

/-- The registers after a link was closed. -/
def forget (l : Link) (c : Connector τ) : Connector τ :=
  { c with errors := Assoc.erase c.errors l, affected := Assoc.erase c.affected l }

/-- Make a call of the client library. -/
def call {α : Type} (what : ClientCall) (f : τ → Response α × τ) :
    Action (Journal (Connector τ)) (Response α) :=
  modifyGet fun j =>
    let (r, client) := f j.state.client
    (r, { j with state := { j.state with client, calls := j.state.calls ++ [what] } })

/-- Keep a server error of a link. -/
def fail (l : Link) (args : List Value) : Action (Journal (Connector τ)) Unit := do
  let e := LinkError.ofArgs args
  Journal.update (putError l e)
  Journal.report (.of .debug "MySQL call failed" [("errno", .int e.number), ("error", .text e.text)])

variable (client : Client τ)

def connect (p : ConnectionParams) : Action (Journal (Connector τ)) (Option Link) := do
  let o := p.clientOptions
  match ← call (.connect o) (client.connect o) with
  | .ok l =>
    Journal.update fun c => { c with connectError := {} }
    return some l
  | .refused args =>
    let e := LinkError.ofArgs args
    Journal.update fun c => { c with connectError := e }
    Journal.report (.of .warning "MySQL connection failed"
      [("host", .text p.host), ("port", .int p.port), ("errno", .int e.number)])
    return none
  | .raised kind text => throw (.raised kind text)

def selectDb (database : String) (l : Link) : Action (Journal (Connector τ)) Bool := do
  match ← call (.selectDb database l) (client.selectDb database l) with
  | .ok _ =>
    Journal.update (clearError l)
    return true
  | .refused args =>
    fail l args
    return false
  | .raised kind text => throw (.raised kind text)

def run (sql : String) (params : Option (List Value)) (l : Link) (unbuffered : Bool) :
    Action (Journal (Connector τ)) Outcome := do
  match ← call (.execute sql params l unbuffered) (client.execute sql params l unbuffered) with
  | .ok (.count n) =>
    Journal.update (putAffected l n)
    return .done
  | .ok (.rows fields columns rows) =>
    match FieldMeta.ofAnswer fields columns with
    | .error f => throw (.fault f)
    | .ok ms =>
      Journal.update (putAffected l rows.length)
      return .rows { columns := ms.map (·.name), rows, affected := rows.length, fields := some ms }
  | .refused args =>
    fail l args
    return .failed
  | .raised kind text => throw (.raised kind text)

/-- Bind a statement to an open link. -/
def prepare (l : Option Link) (sql : String) : Action (Journal (Connector τ)) (Option Prepared) := do
  let c := (← get).state.client
  return l.bind fun l =>
    if client.isOpen c l then some { link := l, text := Sql.convertPlaceholders sql } else none

def close (l : Link) : Action (Journal (Connector τ)) Unit := do
  Journal.update (forget l)
  match ← call (.close l) (client.close l) with
  | .ok _ => return
  | .refused args =>
    Journal.report (.of .debug "Closing MySQL connection failed" [("error", .text (errorText args))])
  | .raised kind text => throw (.raised kind text)

/-- The driver over a client library. -/
def driver : Driver (Connector τ) where
  connect := connect client
  selectDb := selectDb client
  execute sql l unbuffered := run client sql none l unbuffered
  prepare := prepare client
  runPrepared p params := run client p.text (some params) p.link false
  lastError c := c.lastError
  affected c := c.affectedOf
  escape c := client.escape c.client
  close := close client

end Connector

end SqlDesk
