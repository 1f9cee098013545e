import SqlDesk.Value

/-!
# Events

What a logger reports: a severity, a message and named facts.
-/

namespace SqlDesk.Log

/-- How grave an event is. -/
inductive Severity where
  | debug | info | warning | error
deriving DecidableEq, Repr

def Severity.label : Severity → String
  | .debug => "debug"
  | .info => "info"
  | .warning => "warning"
  | .error => "error"

/-- The level at which events of a severity pass. -/
def Severity.level : Severity → Nat
  | .debug => 10
  | .info => 20
  | .warning => 30
  | .error => 40

def Severity.ofLabel? (name : String) : Option Severity :=
  [Severity.debug, .info, .warning, .error].find? (·.label == name)

structure Event where
  severity : Severity
  message : String
  fields : Row := []

/-- An event from facts in order. -/
def Event.of (severity : Severity) (message : String) (fields : List (String × Value) := []) :
    Event :=
  { severity, message, fields := .ofFacts fields }

end SqlDesk.Log
