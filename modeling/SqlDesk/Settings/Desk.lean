import SqlDesk.Settings.Logging
import SqlDesk.Settings.Server
import SqlDesk.Text.Identifier

/-!
# All settings of a desk
-/

namespace SqlDesk

open Settings

structure DebugSettings where
  /-- Log every statement with its time. -/
  sql : Bool := false

namespace DebugSettings

def write (field : String) (v : Value) (s : DebugSettings) : Except Error DebugSettings :=
  match field with
  | "sql" => (fun x => { s with sql := x }) <$> (readTruth v).at field
  | _ => .error (.invalid [⟨[field], .unknownAttribute⟩])

def model : Model DebugSettings where
  default := {}
  fields := ["sql"]
  write _ := write
  expand _ s := s
  dump _ s := [("sql", .value (.bool s.sql))]

end DebugSettings

structure DeskSettings where
  server : ServerSettings := {}
  naturalOrder : Bool := true
  maxDbList : Int := 100
  maxTableList : Int := 250
  locale : Option String := none
  debug : DebugSettings := {}
  logging : LogSettings := {}

namespace DeskSettings

/-- A locale that may be written into a statement; an empty one is none. -/
def checkLocale : Option String → Except Error (Option String)
  | none => .ok none
  | some s =>
    if s.isEmpty then .ok none
    else if Text.isIdentifier s then .ok (some s)
    else .error (ServerSettings.refusal ("Invalid MySQL locale: " ++ s))

def write (env : Environment) (field : String) (v : Value) (s : DeskSettings) :
    Except Error DeskSettings :=
  match field with
  | "server" => (fun x => { s with server := x }) <$> ServerSettings.model.readField env field v
  | "natural_order" => (fun x => { s with naturalOrder := x }) <$> (readTruth v).at field
  | "max_db_list" => (fun x => { s with maxDbList := x }) <$> (readAbove 0 v).at field
  | "max_table_list" => (fun x => { s with maxTableList := x }) <$> (readAbove 0 v).at field
  | "mysql_locale" => do
    let l ← (readOptional readText v).at field
    return { s with locale := ← checkLocale l }
  | "debug" => (fun x => { s with debug := x }) <$> DebugSettings.model.readField env field v
  | "logging" => (fun x => { s with logging := x }) <$> LogSettings.model.readField env field v
  | _ => .error (.invalid [⟨[field], .unknownAttribute⟩])

/-- Assign a field inside a group, by its path. -/
def writeInside (env : Environment) (field : String) (path : List String) (v : Value)
    (s : DeskSettings) : Except Error DeskSettings :=
  match field with
  | "server" => (fun x => { s with server := x }) <$>
      ServerSettings.model.assignAt env path v s.server
  | "debug" => (fun x => { s with debug := x }) <$> DebugSettings.model.assignAt env path v s.debug
  | "logging" => (fun x => { s with logging := x }) <$>
      LogSettings.model.assignAt env path v s.logging
  | _ => .error (.fault .unknownMember)

def dump (masked : Bool) (s : DeskSettings) : List (String × Dump) :=
  [("server", ServerSettings.model.dumpGroup masked s.server),
   ("natural_order", .value (.bool s.naturalOrder)),
   ("max_db_list", .value (.int s.maxDbList)),
   ("max_table_list", .value (.int s.maxTableList)),
   ("mysql_locale", .value (ConnectionParams.optionalText s.locale)),
   ("debug", DebugSettings.model.dumpGroup masked s.debug),
   ("logging", LogSettings.model.dumpGroup masked s.logging)]

def model : Model DeskSettings where
  default := {}
  fields :=
    ["server", "natural_order", "max_db_list", "max_table_list", "mysql_locale", "debug", "logging"]
  write := write
  expand env s := { s with locale := s.locale.map env.expand }
  dump := dump
  writeInside := writeInside

end DeskSettings

end SqlDesk
