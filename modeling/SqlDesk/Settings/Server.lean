import SqlDesk.Pattern.Reader
import SqlDesk.Settings.Connection

/-!
# Server settings

Which server to talk to and how. Login credentials open the user and auxiliary connections, control
credentials the control connection, whose host and port may differ.
-/

namespace SqlDesk

open Settings

/-- What a connection is for. -/
inductive Role where
  | user
  | control
  | auxiliary
deriving DecidableEq, Repr

namespace Role

def all : List Role := [.user, .control, .auxiliary]

def label : Role → String
  | .user => "USER"
  | .control => "CONTROL_USER"
  | .auxiliary => "AUXILIARY"

/-- The name of a role in the statement log. -/
def tag : Role → String
  | .user => "user"
  | .control => "control_user"
  | .auxiliary => "auxiliary"

def ofLabel? (name : String) : Option Role := all.find? (·.label == name)

end Role

structure ServerSettings where
  host : String := "localhost"
  port : Int := 3306
  socket : Option String := none
  user : String := "root"
  password : Secret := ⟨""⟩
  controlUser : String := ""
  controlPass : Secret := ⟨""⟩
  controlHost : String := ""
  controlPort : Option Int := none
  /-- Read metadata with `SHOW` statements and not from the catalog. -/
  disableCatalog : Bool := false
  sessionTimeZone : String := ""
  /-- Patterns of the databases that are visible; all are if there is none. -/
  onlyDb : List String := []
  /-- A pattern of the databases that are hidden; none is if it is empty. -/
  hideDb : String := ""
  /-- The database of the configuration storage. -/
  storageDb : String := ""
  /-- The table of the configuration storage that describes columns. -/
  columnInfo : String := "pma__column_info"
  connectTimeout : Int := 10

namespace ServerSettings

def refusal (message : String) : Error :=
  .refused (.make .validation message (some Code.settingsValidation.label))

/-- A port in range. -/
def checkPort (n : Int) : Except Error Int :=
  if isPort n then .ok n else .error (refusal ("Invalid port: " ++ toString n))

/-- A pattern that compiles, or nothing. -/
def checkPattern (field pattern : String) : Except Error String :=
  if pattern.isEmpty then .ok pattern
  else match Pattern.compile pattern with
    | .ok _ => .ok pattern
    | .error (.malformed issue position) =>
      .error (refusal ("Invalid hide_db expression: " ++ Pattern.message pattern issue position))
    | .error .countTooLarge => .error .repetitionTooLarge
    | .error .exclusiveFlags => .error (.invalid [⟨[field], .other⟩])

def write (field : String) (v : Value) (s : ServerSettings) : Except Error ServerSettings :=
  match field with
  | "host" => (fun x => { s with host := x }) <$> (readText v).at field
  | "port" => do
    let n ← (readInteger v).at field
    return { s with port := ← checkPort n }
  | "socket" => (fun x => { s with socket := x }) <$> (readOptional readText v).at field
  | "user" => (fun x => { s with user := x }) <$> (readText v).at field
  | "password" => (fun x => { s with password := ⟨x⟩ }) <$> (readText v).at field
  | "control_user" => (fun x => { s with controlUser := x }) <$> (readText v).at field
  | "control_pass" => (fun x => { s with controlPass := ⟨x⟩ }) <$> (readText v).at field
  | "control_host" => (fun x => { s with controlHost := x }) <$> (readText v).at field
  | "control_port" => do
    match ← (readOptional readInteger v).at field with
    | none => return { s with controlPort := none }
    | some n => return { s with controlPort := some (← checkPort n) }
  | "disable_is" => (fun x => { s with disableCatalog := x }) <$> (readTruth v).at field
  | "session_time_zone" => (fun x => { s with sessionTimeZone := x }) <$> (readText v).at field
  | "only_db" => (fun x => { s with onlyDb := x }) <$> (readPatterns v).at field
  | "hide_db" => do
    let p ← (readText v).at field
    return { s with hideDb := ← checkPattern field p }
  | "pmadb" => (fun x => { s with storageDb := x }) <$> (readText v).at field
  | "column_info" => (fun x => { s with columnInfo := x }) <$> (readText v).at field
  | "connect_timeout" => (fun x => { s with connectTimeout := x }) <$> (readInteger v).at field
  | _ => .error (.invalid [⟨[field], .unknownAttribute⟩])

/-- Expand references in all texts that are no secrets. -/
def expand (env : Environment) (s : ServerSettings) : ServerSettings :=
  { s with
    host := env.expand s.host
    socket := s.socket.map env.expand
    user := env.expand s.user
    controlUser := env.expand s.controlUser
    controlHost := env.expand s.controlHost
    sessionTimeZone := env.expand s.sessionTimeZone
    onlyDb := s.onlyDb.map env.expand
    hideDb := env.expand s.hideDb
    storageDb := env.expand s.storageDb
    columnInfo := env.expand s.columnInfo }

def dump (masked : Bool) (s : ServerSettings) : List (String × Dump) :=
  [("host", .value (.text s.host)),
   ("port", .value (.int s.port)),
   ("socket", .value (ConnectionParams.optionalText s.socket)),
   ("user", .value (.text s.user)),
   ("password", s.password.dump masked),
   ("control_user", .value (.text s.controlUser)),
   ("control_pass", s.controlPass.dump masked),
   ("control_host", .value (.text s.controlHost)),
   ("control_port", .value (s.controlPort.elim .null .int)),
   ("disable_is", .value (.bool s.disableCatalog)),
   ("session_time_zone", .value (.text s.sessionTimeZone)),
   ("only_db", .value (.list (s.onlyDb.map .text))),
   ("hide_db", .value (.text s.hideDb)),
   ("pmadb", .value (.text s.storageDb)),
   ("column_info", .value (.text s.columnInfo)),
   ("connect_timeout", .value (.int s.connectTimeout))]

def model : Model ServerSettings where
  default := {}
  fields :=
    ["host", "port", "socket", "user", "password", "control_user", "control_pass", "control_host",
      "control_port", "disable_is", "session_time_zone", "only_db", "hide_db", "pmadb",
      "column_info", "connect_timeout"]
  write _ := write
  expand := expand
  dump := dump
  readOnly := ["has_control_user"]

variable (s : ServerSettings)

def hasControlUser : Bool := !s.controlUser.isEmpty

/-- The parameters of a connection with the login credentials. -/
def loginParams (env : Environment) : ConnectionParams :=
  ConnectionParams.expand env
    { host := s.host
      port := s.port
      socket := s.socket
      user := s.user
      password := s.password
      connectTimeout := s.connectTimeout }

/-- The steps from the login parameters to those of the control connection; every one is an
assignment. A control host takes the place of the socket. -/
def controlSteps : List (ConnectionParams → ConnectionParams) :=
  [fun p => { p with user := s.controlUser },
   fun p => { p with password := s.controlPass }] ++
  (if s.controlHost.isEmpty then [] else
    [fun p => { p with host := s.controlHost },
     fun p => { p with socket := none }]) ++
  match s.controlPort with
  | none => []
  | some n => [fun p => { p with port := n }]

/-- The parameters of the connection of a role. -/
def connectionParams (env : Environment) (role : Role) : ConnectionParams :=
  let login := s.loginParams env
  match role with
  | .control => s.controlSteps.foldl (fun p step => step (p.expand env)) login
  | .user | .auxiliary => login

end ServerSettings

end SqlDesk
