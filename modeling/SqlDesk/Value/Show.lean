import SqlDesk.Value
import SqlDesk.Number.Shortest
import SqlDesk.Text.Quoted

/-!
# The text of values

`plain` is a value as a text, in which a text stands for itself; `shown` is a value inside a
message or a collection, in which a text is quoted.
-/

namespace SqlDesk.Value

open Number Text

def boolText (b : Bool) : String := if b then "True" else "False"

mutual

/-- A value inside a message. -/
def shown : Value → String
  | .null => "None"
  | .bool b => boolText b
  | .int n => toString n
  | .float x => x.text
  | .decimal d => "Decimal('" ++ d.text ++ "')"
  | .text s => quoted s
  | .bytes bs => quotedBytes bs
  | .list vs => "[" ++ ", ".intercalate (shownItems vs) ++ "]"
  | .map es => "\x7b" ++ ", ".intercalate (shownEntries es) ++ "\x7d"
  | .other s => s

def shownItems : List Value → List String
  | [] => []
  | v :: vs => shown v :: shownItems vs

def shownEntries : List (Value × Value) → List String
  | [] => []
  | (k, v) :: es => (shown k ++ ": " ++ shown v) :: shownEntries es

end

/-- A fixed sequence of values inside a message. -/
def shownTuple : List Value → String
  | [v] => "(" ++ shown v ++ ",)"
  | vs => "(" ++ ", ".intercalate (shownItems vs) ++ ")"

/-- A value as a text. -/
def plain : Value → String
  | .text s => s
  | .decimal d => d.text
  | v => shown v

@[simp] theorem plain_text (s : String) : plain (.text s) = s := rfl

end SqlDesk.Value
