import SqlDesk.Settings.Desk
import SqlDesk.Text.FilePath

/-!
# Settings from a file

A settings file holds a mapping of fields. An empty document stands for settings without fields.
How the text of a file is loaded as a value is a parameter.
-/

namespace SqlDesk.DeskSettings

open Settings

/-- Whether all keys of a mapping are texts. -/
def hasTextKeys (fields : Row) : Bool :=
  fields.all fun e => match e.1 with
    | .text _ => true
    | _ => false

/-- Settings from the value of a document. -/
def ofDocument (env : Environment) (path : String) (v : Value) : Except Error DeskSettings :=
  match v.orElse (.map []) with
  | .map fields =>
    if hasTextKeys fields then model.read env (.map fields) else .error (.fault .unfitOperands)
  | _ => .error (.refused
      (.make .configuration ("Configuration file must contain a mapping: " ++ path)
        (some Code.settingsInvalid.label) (.ofFacts [("path", .text path)])))

/-- Settings from the file of a path, if there is one; `read` gives the text of the file of a normal
path, and `load` the value of the document in a text. -/
def ofFile (env : Environment) (load : String → Except Error Value) (read : String → Option String)
    (path : String) : Except Error DeskSettings :=
  let path := Text.normalPath path
  match read path with
  | none => .error (.refused
      (.make .configuration ("Configuration file not found: " ++ path)
        (some Code.settingsNotFound.label) (.ofFacts [("path", .text path)])))
  | some text => do ofDocument env path (← load text)

end SqlDesk.DeskSettings
