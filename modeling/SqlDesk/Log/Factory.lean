import SqlDesk.Log.Logger
import SqlDesk.Settings.Logging
import SqlDesk.Text.Utf8

/-!
# Log outputs and the loggers that feed them

A factory hands out loggers and attaches outputs to the root logger as its settings ask. The root
logger may have outputs of others, which the factory leaves alone.
-/

namespace SqlDesk.Log

/-- Where an output writes to. -/
inductive Sink where
  | console
  | file (path : String) (maxSize backups : Int)
deriving DecidableEq, Repr

/-- An output, which writes the events from a level on. -/
structure Handler where
  id : Nat
  sink : Sink
  level : Nat
deriving DecidableEq, Repr

/-- Which processing events go through. -/
inductive Pipeline where
  /-- That of the program around, which keeps events to itself. -/
  | host
  /-- That of a factory, which writes them to the outputs of the root logger. -/
  | outputs
  /-- None, so that a factory has to set one up. -/
  | unset
deriving DecidableEq, Repr

/-- What all loggers of a process share. -/
structure System where
  levels : Levels := {}
  /-- The outputs of the root logger. -/
  handlers : List Handler := []
  /-- The outputs that were closed. -/
  closed : List Handler := []
  pipeline : Pipeline := .host
  /-- The records that the files hold. -/
  files : Assoc String (List Row) := []
  /-- The number of outputs opened so far. -/
  opened : Nat := 0

/-- A logger that a factory has made. -/
structure Made where
  id : Nat
  name : String
  /-- Whether its events go to the outputs for good, since they have done so once. -/
  settled : Bool := false

structure Factory where
  settings : LogSettings := {}
  initialized : Bool := false
  /-- The loggers made so far, by name and level. -/
  loggers : Assoc String Made := []
  /-- The factory's own outputs. -/
  handlers : List Handler := []
  /-- The number of loggers made so far. -/
  made : Nat := 0

namespace System

variable (sys : System)

/-- Take outputs from the root logger and close them. -/
def detach (hs : List Handler) : System :=
  { sys with
    handlers := sys.handlers.filter fun h => !hs.contains h
    closed := sys.closed ++ hs }

/-- Open an output. Opening a file creates it. -/
def openSink (sink : Sink) (level : Nat) : Handler × System :=
  let files := match sink with
    | .file path _ _ => if Assoc.has sys.files path then sys.files else Assoc.put sys.files path []
    | .console => sys.files
  ({ id := sys.opened, sink, level }, { sys with files, opened := sys.opened + 1 })

def openSinks (level : Nat) : List Sink → System → List Handler × System
  | [], sys => ([], sys)
  | s :: ss, sys =>
    let (h, sys) := sys.openSink s level
    let (hs, sys) := openSinks level ss sys
    (h :: hs, sys)

def writeTo (record : Row) (h : Handler) : System :=
  match h.sink with
  | .console => sys
  | .file path _ _ =>
    { sys with files := Assoc.put sys.files path ((Assoc.get? sys.files path).getD [] ++ [record]) }

/-- Write a record to all outputs of the root logger that let its level pass. -/
def emit (record : Row) (level : Nat) : System :=
  (sys.handlers.filter (·.level ≤ level)).foldl (fun sys h => sys.writeTo record h) sys

def recordsOf (path : String) : Except Error (List Row) :=
  match Assoc.get? sys.files (Text.normalPath path) with
  | some rs => .ok rs
  | none => .error (.noFile path)

end System

mutual

/-- A value inside a written record, which holds plain data only. -/
def plainData : Value → Value
  | .bytes bs => .text (Value.shown (.bytes bs))
  | .decimal d => .text (Value.shown (.decimal d))
  | .list vs => .list (plainItems vs)
  | .map es => .map (plainEntries es)
  | v => v

/-- The items of a list inside a written record. -/
def plainItems : List Value → List Value
  | [] => []
  | v :: vs => plainData v :: plainItems vs

/-- The entries of a mapping inside a written record. -/
def plainEntries : List (Value × Value) → List (Value × Value)
  | [] => []
  | (k, v) :: es => (k, plainData v) :: plainEntries es

end

/-- A fact in a written record: bytes are read as text. -/
def writtenField : Value → Value
  | .bytes bs => .text (Text.decodeLossy bs)
  | v => plainData v

/-- The record of an event in a file: its facts with the message, the level and the name of the
logger, by name. -/
def recordOf (logger : String) (e : Event) : Row :=
  let facts := (e.fields.filter fun f => !(f.1 == .text "exc_info")).map
    fun f => (f.1, writtenField f.2)
  let all := Assoc.merge facts
    [(.text "event", .text e.message), (.text "level", .text e.severity.label),
      (.text "logger", .text logger)]
  all.mergeSort fun a b => decide (a.1.plain ≤ b.1.plain)

namespace Factory

variable (f : Factory)

/-- The outputs that settings ask for: the console, then a file. -/
def sinksOf (s : LogSettings) : List Sink :=
  (if s.consoleOutput then [.console] else []) ++
    match s.filePath with
    | some path => [.file path s.maxFileSize s.backupCount]
    | none => []

def levelOf (s : LogSettings) : Nat := (levelOfName? s.level).getD 20

def applySettings (sys : System) : Factory × System :=
  let level := levelOf f.settings
  let sys := { sys with levels := sys.levels.set "root" level }.detach f.handlers
  let (handlers, sys) := System.openSinks level (sinksOf f.settings) sys
  ({ f with handlers, initialized := true },
    { sys with handlers := sys.handlers ++ handlers, pipeline := .outputs })

def configure (settings : LogSettings) (sys : System) : Factory × System :=
  { f with settings }.applySettings sys

/-- Configure the outputs from loose values; invalid ones change nothing. -/
def configureFrom (env : Settings.Environment) (given : Row) (sys : System) :
    Except Error (Factory × System) :=
  match LogSettings.model.read env (.map given) with
  | .ok s => .ok (f.configure s sys)
  | .error (.invalid issues) =>
    let cause := Cause.invalid issues
    .error (.refused
      (.make .validation ("Invalid logging configuration: " ++ cause.text) none [] (some cause)))
  | .error e => .error e

/-- What the shared factory of a program is configured with unless told otherwise. -/
def sharedDefaults : Row :=
  .ofFacts
    [("level", .text "INFO"), ("format", .text "json"), ("console_output", .bool true),
      ("file_path", .null)]

/-- Configure the outputs of the shared factory from loose values. -/
def configureShared (env : Settings.Environment) (given : Row) (sys : System) :
    Except Error (Factory × System) :=
  f.configureFrom env (Assoc.merge sharedDefaults given) sys

/-- The key under which a logger is kept. -/
def keyOf (name : String) (level : Option String) : String := name ++ "_" ++ level.getD "None"

/-- The logger of a name and level, made on first use. The outputs are configured before, unless
that has been done, here or by the program around. -/
def getLogger (name : String) (level : Option String) (sys : System) :
    Except Error Made × Factory × System :=
  let (f, sys) := if !f.initialized && sys.pipeline == .unset then f.applySettings sys else (f, sys)
  let key := keyOf name level
  match Assoc.get? f.loggers key with
  | some made => (.ok made, f, sys)
  | none =>
    match sys.levels.makeLogger name level with
    | .error e => (.error e, f, sys)
    | .ok (_, levels) =>
      let made : Made := { id := f.made, name }
      (.ok made, { f with loggers := Assoc.put f.loggers key made, made := f.made + 1 },
        { sys with levels })

/-- Report an event through the logger of a name. -/
def log (name : String) (e : Event) (sys : System) : Except Error Unit × Factory × System :=
  match f.getLogger name none sys with
  | (.error err, f, sys) => (.error err, f, sys)
  | (.ok made, f, sys) =>
    if made.settled || sys.pipeline == .outputs then
      let f := { f with loggers := Assoc.put f.loggers (keyOf name none) { made with settled := true } }
      let level := e.severity.level
      if sys.levels.effective name ≤ level then (.ok (), f, sys.emit (recordOf name e) level)
      else (.ok (), f, sys)
    else (.ok (), f, sys)

/-- Detach the outputs and forget the loggers. -/
def shutdown (sys : System) : Factory × System :=
  ({ f with handlers := [], loggers := [], initialized := false }, sys.detach f.handlers)

/-- A short description for messages. -/
def describe : String :=
  "LoggerFactory(level=" ++ Text.quoted f.settings.level ++ ", format=" ++
    Text.quoted f.settings.format ++ ", initialized=" ++ Value.boolText f.initialized ++ ")"

end Factory

end SqlDesk.Log
