import SqlDesk.Settings.Issue
import SqlDesk.Value.Show

/-!
# Refusals

The errors that the library raises on purpose. Each has a kind, a code for programs and a message
for people; the context holds what is known about the failure, and the cause is the error behind it.
-/

namespace SqlDesk

/-- The kinds of refusals. They form a tree: a kind is a special case of its parent. -/
inductive RefusalKind where
  | general
  | configuration
  | validation
  | connection
  | connecting
  | query
deriving DecidableEq, Repr

namespace RefusalKind

def all : List RefusalKind :=
  [.general, .configuration, .validation, .connection, .connecting, .query]

def label : RefusalKind → String
  | .general => "DbFacadeException"
  | .configuration => "ConfigurationError"
  | .validation => "ValidationError"
  | .connection => "ConnectionError"
  | .connecting => "DatabaseConnectionError"
  | .query => "QueryError"

def ofLabel? (name : String) : Option RefusalKind := all.find? (·.label == name)

/-- A kind and the kinds it is a special case of. -/
def lineage : RefusalKind → List RefusalKind
  | .general => [.general]
  | .configuration => [.configuration, .general]
  | .validation => [.validation, .configuration, .general]
  | .connection => [.connection, .general]
  | .connecting => [.connecting, .connection, .general]
  | .query => [.query, .general]

end RefusalKind

/-- The error behind a refusal. -/
inductive Cause where
  /-- An error raised elsewhere, by its kind and text. -/
  | raised (kind text : String)
  /-- Settings that were refused. -/
  | invalid (issues : List Settings.Issue)
deriving DecidableEq, Repr

/-- The text of an error raised elsewhere. A missing key is shown as in messages. -/
def raisedText (kind text : String) : String :=
  if kind = "KeyError" then Text.quoted text else text

namespace Cause

def text : Cause → String
  | .raised kind t => raisedText kind t
  | .invalid issues => ", ".intercalate (issues.map fun i => ".".intercalate i.place)

/-- A cause inside a message. -/
def shown : Cause → String
  | .raised kind t => kind ++ "(" ++ Text.quoted t ++ ")"
  | .invalid issues => "invalid(" ++ (Cause.invalid issues).text ++ ")"

end Cause

/-- An error that the library raises on purpose. -/
structure Refusal where
  kind : RefusalKind
  message : String
  code : String
  context : Row := []
  cause : Option Cause := none

namespace Refusal

/-- A refusal whose code is the name of its kind unless one is given. -/
def make (kind : RefusalKind) (message : String) (code : Option String := none)
    (context : Row := []) (cause : Option Cause := none) : Refusal :=
  let code := match code with
    | some c => if c.isEmpty then kind.label else c
    | none => kind.label
  { kind, message, code, context, cause }

variable (r : Refusal)

/-- The message behind its code. -/
def text : String := r.code ++ ": " ++ r.message

/-- A refusal inside a message. -/
def shown : String :=
  r.kind.label ++ "(message=" ++ Text.quoted r.message ++ ", code=" ++ Text.quoted r.code ++
    ", context=" ++ (Value.map r.context).shown ++ ", cause=" ++
    (r.cause.elim "None" Cause.shown) ++ ")"

/-- A refusal as a report for other programs. -/
def report : Row :=
  [(.text "error_type", .text r.kind.label),
   (.text "message", .text r.message),
   (.text "code", .text r.code),
   (.text "context", .map r.context),
   (.text "cause", r.cause.elim .null fun c => .text c.text)]

end Refusal

inductive Code where
  | settingsNotFound
  | settingsInvalid
  | settingsValidation
  | connectionRefused
  | connectionMissing
  | loginFailed
  | statementFailed
  | sortColumn
deriving DecidableEq, Repr

namespace Code

def all : List Code :=
  [.settingsNotFound, .settingsInvalid, .settingsValidation, .connectionRefused,
    .connectionMissing, .loginFailed, .statementFailed, .sortColumn]

/-- A code as it is written. -/
def label : Code → String
  | .settingsNotFound => "CONFIG_NOT_FOUND"
  | .settingsInvalid => "CONFIG_INVALID"
  | .settingsValidation => "CONFIG_VALIDATION_FAILED"
  | .connectionRefused => "CONNECTION_REFUSED"
  | .connectionMissing => "CONNECTION_MISSING"
  | .loginFailed => "AUTH_FAILED"
  | .statementFailed => "QUERY_EXECUTION_FAILED"
  | .sortColumn => "INVALID_SORT_COLUMN"

end Code

end SqlDesk
