import SqlDesk.Settings.Model
import SqlDesk.Text.Case

/-!
# Settings of logs
-/

namespace SqlDesk

open Settings

structure LogSettings where
  level : String := "INFO"
  format : String := "json"
  filePath : Option String := none
  maxFileSize : Int := 10485760
  backupCount : Int := 5
  consoleOutput : Bool := true

namespace LogSettings

def levels : List String := ["DEBUG", "INFO", "WARNING", "ERROR", "CRITICAL"]

def formats : List String := ["json", "text"]

def readChoice (choices : List String) : Value → Reading String
  | .text s => if choices.contains s then .ok s else refuse .choice
  | _ => refuse .choice

/-- A level; case does not count. -/
def readLevel : Value → Reading String
  | .text s => readChoice levels (.text (Text.upper s))
  | _ => refuse .choice

def write (field : String) (v : Value) (s : LogSettings) : Except Error LogSettings :=
  match field with
  | "level" => (fun x => { s with level := x }) <$> (readLevel v).at field
  | "format" => (fun x => { s with format := x }) <$> (readChoice formats v).at field
  | "file_path" => (fun x => { s with filePath := x }) <$> (readOptional readPath v).at field
  | "max_file_size" => (fun x => { s with maxFileSize := x }) <$> (readAbove 0 v).at field
  | "backup_count" => (fun x => { s with backupCount := x }) <$> (readAtLeast 0 v).at field
  | "console_output" => (fun x => { s with consoleOutput := x }) <$> (readTruth v).at field
  | _ => .error (.invalid [⟨[field], .unknownAttribute⟩])

def dump (s : LogSettings) : List (String × Dump) :=
  [("level", .value (.text s.level)),
   ("format", .value (.text s.format)),
   ("file_path", s.filePath.elim (.value .null) .path),
   ("max_file_size", .value (.int s.maxFileSize)),
   ("backup_count", .value (.int s.backupCount)),
   ("console_output", .value (.bool s.consoleOutput))]

/-- Log settings as a kind of settings. Level and format are fixed words and the path is no text, so
there is nothing to expand. -/
def model : Model LogSettings where
  default := {}
  fields := ["level", "format", "file_path", "max_file_size", "backup_count", "console_output"]
  write _ := write
  expand _ s := s
  dump _ := dump

end LogSettings

end SqlDesk
