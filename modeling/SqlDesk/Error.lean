import SqlDesk.Fault
import SqlDesk.Refusal

/-!
# Errors

Everything that can end an operation.
-/

namespace SqlDesk

/-- What is wrong with a settings document, by the stage of reading that refuses it. -/
inductive DocumentIssue where
  | character
  | token
  | layout
  | reference
  | construction
deriving DecidableEq, Repr

/-- Why an operation did not return. -/
inductive Error where
  /-- A plain computation failed. -/
  | fault (f : Fault)
  /-- The library refused. -/
  | refused (r : Refusal)
  /-- Settings have values that do not fit. -/
  | invalid (issues : List Settings.Issue)
  /-- A pattern is malformed. -/
  | pattern (message : String)
  /-- A pattern repeats something more often than can be counted. -/
  | repetitionTooLarge
  /-- The flags of a pattern exclude each other. -/
  | exclusiveFlags
  /-- A settings document cannot be read. -/
  | document (issue : DocumentIssue)
  /-- A file is missing. -/
  | noFile (path : String)
  /-- The driver raised an error of its own. -/
  | raised (kind text : String)

/-- A computation on values as an operation. -/
def Error.ofFault {α : Type} : Except Fault α → Except Error α
  | .ok a => .ok a
  | .error f => .error (.fault f)

end SqlDesk
