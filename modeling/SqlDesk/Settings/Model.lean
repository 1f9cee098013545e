import SqlDesk.Settings.Environment
import SqlDesk.Settings.Field
import SqlDesk.Value.Show

/-!
# Settings as records of fields

What all kinds of settings have in common. A record is built by writing the given fields, in the
order of its fields, into its default; issues are collected, while a refusal ends the reading at
once. A field may also be assigned later. Before either, references to the environment are
expanded: in all given values when a record is built, and in the values that a record already holds
when a field of it is assigned.
-/

namespace SqlDesk.Settings

/-- What is known of a value for output. -/
inductive Dump where
  | value (v : Value)
  | path (s : String)
  | group (es : List (String × Dump))

/-- A text that is not shown by default. -/
structure Secret where
  text : String
deriving DecidableEq, Repr

/-- What is shown in place of a secret. -/
def Secret.mask : String := "***MASKED***"

def Secret.dump (s : Secret) (masked : Bool) : Dump :=
  .value (.text (if masked then Secret.mask else s.text))

/-- A kind of settings. -/
structure Model (α : Type) where
  /-- The settings before anything is given. -/
  default : α
  /-- The names of the fields in order. -/
  fields : List String
  /-- Read a value and write it into a field. -/
  write : Environment → String → Value → α → Except Error α
  /-- Expand references in the values of all fields. -/
  expand : Environment → α → α
  /-- The settings for output, with secrets masked or shown. -/
  dump : Bool → α → List (String × Dump)
  /-- Assign a field inside a field, by its path. -/
  writeInside : Environment → String → List String → Value → α → Except Error α :=
    fun _ _ _ _ _ => .error (.fault .unknownMember)
  /-- Names that can be asked for and not assigned. -/
  readOnly : List String := []

/-- A reading as the outcome of an operation on a field. -/
def Reading.at {α : Type} (field : String) : Reading α → Except Error α
  | .ok a => .ok a
  | .error issues => .error (.invalid (issues.map (·.within field)))

/-- The place that a key of a mapping names. -/
def keyPlace : Value → String
  | .text s => s
  | .bool b => if b then "1" else "0"
  | v => v.shown

namespace Model

variable {α : Type} (m : Model α)

/-- Write the given fields one after the other, collecting issues. -/
def writeFields (env : Environment) (given : Row) :
    List String → α → List Issue → Except Error (α × List Issue)
  | [], s, issues => .ok (s, issues)
  | f :: fs, s, issues =>
    match given.column? f with
    | none => writeFields env given fs s issues
    | some v =>
      match m.write env f v s with
      | .ok s => writeFields env given fs s issues
      | .error (.invalid more) => writeFields env given fs s (issues ++ more)
      | .error e => .error e

/-- The issue of a key that is no field. -/
def keyIssue? : Value → Option Issue
  | .text s => if m.fields.contains s then none else some ⟨[s], .unknownField⟩
  | k => some ⟨[keyPlace k], .fieldName⟩

/-- Read settings from the values given for their fields. -/
def read (env : Environment) (given : Value) : Except Error α :=
  match env.expandValue given with
  | .map es => do
    let (s, issues) ← m.writeFields env es m.fields m.default []
    match issues ++ (Assoc.keys es).filterMap m.keyIssue? with
    | [] => return s
    | issues => throw (.invalid issues)
  | _ => .error (.invalid [⟨[], .fieldGroup⟩])

def assign (env : Environment) (field : String) (v : Value) (s : α) : Except Error α :=
  if m.fields.contains field then m.write env field v (m.expand env s)
  else if field.startsWith "_" then .ok s
  else if m.readOnly.contains field then .error (.fault .unknownMember)
  else .error (.invalid [⟨[field], .unknownAttribute⟩])

/-- Assign a field by its path. -/
def assignAt (env : Environment) (path : List String) (v : Value) (s : α) : Except Error α :=
  match path with
  | [] => .error (.fault .unknownMember)
  | [field] => m.assign env field v s
  | field :: rest => m.writeInside env field rest v s

/-- The settings as a group in output. -/
def dumpGroup (masked : Bool) (s : α) : Dump := .group (m.dump masked s)

/-- A field that holds settings of this kind. -/
def readField (env : Environment) (field : String) (v : Value) : Except Error α :=
  match m.read env v with
  | .error (.invalid issues) => .error (.invalid (issues.map (·.within field)))
  | r => r

end Model

end SqlDesk.Settings
