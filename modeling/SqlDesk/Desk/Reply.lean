import SqlDesk.Column
import SqlDesk.Database
import SqlDesk.Driver
import SqlDesk.Log.Statement

/-!
# Replies
-/

namespace SqlDesk

/-- What a request is answered with. -/
inductive Reply where
  | value (v : Value)
  | link (l : Option Link)
  | outcome (o : Outcome)
  | statement (p : Option Prepared)
  | fields (ms : List FieldMeta)
  | table (t : Option TableStatus)
  | tables (ts : Assoc String TableStatus)
  | columns (cs : Assoc String ColumnInfo)
  | databases (ds : List DatabaseStats)
  | entries (es : List Log.StatementEntry)

namespace Reply

def nothing : Reply := .value .null

def truth (b : Bool) : Reply := .value (.bool b)

def number (n : Int) : Reply := .value (.int n)

def text (s : String) : Reply := .value (.text s)

def texts (ss : List String) : Reply := .value (.list (ss.map .text))

/-- A result, or a failure. -/
def result (r : Option ResultSet) : Reply := .outcome (r.elim .failed .rows)

end Reply

end SqlDesk
