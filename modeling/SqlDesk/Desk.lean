import SqlDesk.Driver
import SqlDesk.Log.Statement
import SqlDesk.Session
import SqlDesk.Settings.Desk
import SqlDesk.Table
import SqlDesk.Version

/-!
# Desks

A desk is the one place from which a program works with a server. It has a connection for each of
three roles and remembers what it has learnt. What never changes about a desk is a `Desk`; what it
remembers is its `Memory`; and the `World` is what it shares with other desks: the driver, the
session's storage and the clock. A program that serves one session at a time may share one desk,
which is made on first use.
-/

namespace SqlDesk

structure Desk (σ : Type) where
  driver : Driver σ
  /-- The readings of the clock, one after the other. -/
  clock : Nat → Log.Time
  env : Settings.Environment := []
  settings : DeskSettings := {}
  /-- The scope of the desk's facts in the session's storage. -/
  scope : String
  /-- Whether the desk keeps session facts in a storage of its own. -/
  alone : Bool := false

/-- The scope of a desk without a session. -/
def DeskSettings.ownScope (s : DeskSettings) : String :=
  Session.scopeOf (s.server.host ++ ":" ++ toString s.server.port) s.server.user

structure Memory where
  /-- The database that the program works on; temporary switches go back to it. -/
  currentDatabase : String := ""
  charset : String := ""
  collation : String := ""
  /-- The connections by role; a role may be set to have none. -/
  links : Assoc Role (Option Link) := []
  version : ServerVersion := .assumed
  userAndHost : Option (String × String) := none
  lowerCaseNames : Option Int := none
  /-- The visible databases, once they have been asked for. -/
  databases : Option (List String) := none
  /-- The tables seen last, by database and name. -/
  tables : Assoc String (Assoc String TableStatus) := []
  affected : Int := 0
  log : Log.StatementLog := {}
  /-- The storage of a desk without a session. -/
  storage : Session.Storage := []

/-- The connection of a role. -/
def Memory.linkOf (m : Memory) (role : Role) : Option Link := (Assoc.get? m.links role).getD none

/-- A request that a desk makes of its driver. -/
inductive Call where
  | connect (params : ConnectionParams)
  | selectDb (link : Link) (database : String)
  | query (link : Link) (sql : String) (unbuffered : Bool)
  | prepare (link : Option Link) (sql : String)
  | close (link : Link)

/-- What desks share. -/
structure World (σ : Type) where
  journal : Journal σ
  /-- The requests made so far. -/
  calls : List Call := []
  storage : Session.Storage := []
  /-- The number of readings of the clock so far. -/
  readings : Nat := 0

/-- All that an operation of a desk may change. -/
structure DeskState (σ : Type) where
  memory : Memory
  world : World σ

/-- An operation of a desk. -/
abbrev Act (σ α : Type) := Action (DeskState σ) α

namespace Act

variable {σ α : Type}

def memory : Act σ Memory := return (← get).memory

def remember (f : Memory → Memory) : Act σ Unit := modify fun s => { s with memory := f s.memory }

def post (e : Log.Event) : Act σ Unit :=
  modify fun s =>
    let journal := { s.world.journal with events := s.world.journal.events ++ [e] }
    { s with world := { s.world with journal } }

def report (severity : Log.Severity) (message : String) (fields : List (String × Value) := []) :
    Act σ Unit := post (.of severity message fields)

/-- Make a request of the driver. -/
def request (call : Call) (a : Action (Journal σ) α) : Act σ α := fun s =>
  let (r, journal) := a s.world.journal
  (r, { s with world := { s.world with journal, calls := s.world.calls ++ [call] } })

/-- The outcome of an operation, be it a failure. -/
def attempt (a : Act σ α) : Act σ (Except Error α) := fun s =>
  let (r, s) := a s
  (.ok r, s)

/-- A computation as an operation. -/
def ofFault (r : Except Fault α) : Act σ α := MonadExcept.ofExcept (Error.ofFault r)

end Act

namespace Desk

open Act

variable {σ : Type} (desk : Desk σ)

def newMemory : Memory := { log := { enabled := desk.settings.debug.sql } }

def readClock : Act σ Log.Time :=
  modifyGet fun s =>
    (desk.clock s.world.readings,
      { s with world := { s.world with readings := s.world.readings + 1 } })

/-- The storage of session facts. -/
def storage : Act σ Session.Storage := do
  let s ← get
  return if desk.alone then s.memory.storage else s.world.storage

def putStorage (st : Session.Storage) : Act σ Unit :=
  modify fun s =>
    if desk.alone then { s with memory := { s.memory with storage := st } }
    else { s with world := { s.world with storage := st } }

/-- How a text becomes a literal on the connection of a role. -/
def literal (role : Role := .user) : Act σ (String → String) := do
  let s ← get
  let link := s.memory.linkOf role
  return fun text => "'" ++ desk.driver.escape s.world.journal.state link text ++ "'"

/-- A text as it stands between the quotes of a literal. -/
def escapeString (text : String) (role : Role := .user) : Act σ String := do
  let s ← get
  return desk.driver.escape s.world.journal.state (s.memory.linkOf role) text

/-- The last error of a role's connection, or of connecting if it has none. -/
def lastError (role : Role := .user) : Act σ LinkError := do
  let s ← get
  return desk.driver.lastError s.world.journal.state (s.memory.linkOf role)

/-- A short description for messages. -/
def describe (m : Memory) : String :=
  "DatabaseInterface(version=" ++ toString m.version.number ++ ", connected=[" ++
    ", ".intercalate ((Assoc.keys m.links).map Role.label) ++ "])"

end Desk

/-- The desk that a program shares, if it has been made. -/
structure Shared (α : Type) where
  current : Option α := none

namespace Shared

variable {α : Type} (s : Shared α)

/-- The shared desk, or a new one, which is shared from then on. -/
def get (new : α) : α × Shared α :=
  match s.current with
  | some a => (a, s)
  | none => (new, ⟨some new⟩)

end Shared

end SqlDesk
