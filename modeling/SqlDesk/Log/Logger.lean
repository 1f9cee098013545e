import SqlDesk.Error
import SqlDesk.Log.Event
import SqlDesk.Log.Level
import SqlDesk.Text.Case
import SqlDesk.Text.Identifier
import SqlDesk.Value.Show

/-!
# Loggers

A logger has a name and a context, the facts that go into each of its events. Blocks add to the
context and restore it when they are left, however they are left. Binding gives a new logger with
more context and leaves the old one as it is.
-/

namespace SqlDesk.Log

/-- Whether facts can be given by name beside arguments that have names already. -/
def fitBeside (arguments : List String) (facts : Row) : Bool :=
  facts.all fun fact =>
    match fact.1 with
    | .text name => !arguments.contains name
    | _ => false

structure Logger where
  name : String
  context : Row := []
  /-- The contexts to go back to, innermost block first. -/
  saved : List Row := []

namespace Logger

variable (l : Logger)

/-- A new logger with more context. -/
def bind (more : Row) : Logger := { name := l.name, context := Assoc.merge l.context more }

/-- Enter a block that adds to the context. -/
def enter (more : Row) : Logger :=
  { l with context := Assoc.merge l.context more, saved := l.context :: l.saved }

/-- Leave the innermost block. -/
def leave : Logger :=
  match l.saved with
  | [] => l
  | c :: cs => { l with context := c, saved := cs }

/-- The event of a message: the facts given with it override the context. -/
def report (severity : Severity) (message : String) (fields : Row := []) : Event :=
  { severity, message, fields := Assoc.merge l.context fields }

def reportError (message : String) (fields : Row := []) : Event :=
  { severity := .error, message,
    fields := Assoc.put (Assoc.merge l.context fields) (.text "exc_info") (.bool true) }

/-- Whether facts can be given with a message. They are named beside the arguments of the message,
and with the context beside those of handing the event on, to which some may add their own. -/
def takes (own : List String) (fields : Row) : Bool :=
  fitBeside ["self", "message"] fields &&
    fitBeside (own ++ ["self", "method_name", "event"]) (Assoc.merge l.context fields)

/-- A short description for messages. -/
def describe : String :=
  "StructuredLogger(name=" ++ Text.quoted l.name ++ ", context=" ++ (Value.map l.context).shown ++
    ")"

end Logger

def readLevelName (level : Option String) : Except Error Nat :=
  let shown := level.getD "None"
  if !Text.identifierPasses level false then
    .error (.refused (.make .general ("Invalid log level: " ++ shown) "INVALID_LOG_LEVEL"))
  else match levelOfName? (Text.upper shown) with
    | some n => .ok n
    | none =>
      .error (.refused (.make .general ("Unknown log level: " ++ shown) "UNKNOWN_LOG_LEVEL"))

/-- Make a logger, with a level of its own if one is given. -/
def Levels.makeLogger (ls : Levels) (name : String) (level : Option String) (context : Row := []) :
    Except Error (Logger × Levels) :=
  let logger : Logger := { name, context := Assoc.ofList context }
  match level with
  | none => .ok (logger, ls)
  | some _ => (fun n => (logger, ls.set name n)) <$> readLevelName level

end SqlDesk.Log
