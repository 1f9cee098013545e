import SqlDesk.Assoc
import SqlDesk.Text.FilePath

/-!
# Log levels

Loggers have dotted names and form a tree under the root. A logger without a level of its own has
the level of its nearest ancestor that has one.
-/

namespace SqlDesk.Log

/-- The names that levels may be given by. -/
def levelNames : List (String × Nat) :=
  [("DEBUG", 10), ("INFO", 20), ("WARNING", 30), ("ERROR", 40), ("CRITICAL", 50), ("WARN", 30),
    ("FATAL", 50), ("NOTSET", 0)]

/-- The level of a name in capitals. -/
def levelOfName? (name : String) : Option Nat := levelNames.lookup name

/-- The name of a level: the first one it is given by. -/
def levelName (level : Nat) : String :=
  ((levelNames.find? (·.2 == level)).map (·.1)).getD ("Level " ++ toString level)

/-- The levels of all loggers; zero is none. -/
structure Levels where
  root : Nat := 30
  own : Assoc String Nat := []

def isRootName (name : String) : Bool := name.isEmpty || name == "root"

/-- The names of the proper ancestors of a logger, nearest first, the root left out. They are read off
its name, whichever loggers there are. A registry that links loggers as they are made gives the same
ancestors to names without empty parts, unless a logger called `r`, `ro` or `roo` is made after one
below it. -/
def ancestors (name : String) : List String :=
  let parts := Text.splitAt '.' name.toList
  let starts := (List.range (parts.length - 1)).map fun i => ['.'].intercalate (parts.take (i + 1))
  (starts.reverse.filter (· ≠ [])).map String.ofList

namespace Levels

variable (ls : Levels)

def ownOf (name : String) : Nat :=
  if isRootName name then ls.root else (Assoc.get? ls.own name).getD 0

def set (name : String) (level : Nat) : Levels :=
  if isRootName name then { ls with root := level }
  else { ls with own := Assoc.put ls.own name level }

/-- The level that is in force for a logger. -/
def effective (name : String) : Nat :=
  if isRootName name then ls.root
  else
    let own := ((name :: ancestors name).map fun n => (Assoc.get? ls.own n).getD 0).find? (· != 0)
    own.getD ls.root

end Levels

end SqlDesk.Log
