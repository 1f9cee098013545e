import SqlDesk.Database
import SqlDesk.Error
import SqlDesk.Order.Natural
import SqlDesk.Text.Case
import SqlDesk.Text.Class
import SqlDesk.Value.Number

/-!
# The order of tables and databases

Two values that both denote numbers compare as numbers, null is below every number, and everything
else compares as text. Listings are sorted by one column; whatever the direction, entries with equal
values come in ascending order of their names.
-/

namespace SqlDesk.Order

/-! ## Values -/

def isNull : Value → Bool
  | .null => true
  | _ => false

def compareValues (a b : Value) (natural : Bool) : Except Fault Int := do
  let x ← a.toNumber
  let y ← b.toNumber
  match x, y with
  | some m, some n => return m.compare n
  | _, _ =>
    if isNull a && isNull b then return 0
    else if isNull a && y.isSome then return -1
    else if x.isSome && isNull b then return 1
    else compareTexts a b natural

/-! ## Tables and databases -/

/-- A sort direction in its normal spelling, `ASC` or `DESC`. None, and an empty one, is ascending;
case and white space around it do not count. -/
def direction (order : Option String) : Except Error String :=
  let given := order.getD ""
  let normal := Text.upper (Text.trimmed (if given.isEmpty then "ASC" else given))
  if normal = "ASC" ∨ normal = "DESC" then .ok normal
  else .error (.refused (.make .validation ("Invalid sort order: " ++ given) "INVALID_SORT_ORDER"))

/-- Turn a comparison round for descending order. -/
def directed (order : String) (n : Int) : Int := if order = "DESC" then -n else n

/-- Compare by a column first, and by names where that decides nothing. -/
def withNames (byColumn : Except Fault Int) (order : String) (byName : Except Fault Int) :
    Except Fault Int := do
  let n := directed order (← byColumn)
  if n = 0 then byName else return n

/-- Compare two tables by a column of `SHOW TABLE STATUS`; the data length is that of data and
indexes together. -/
def compareTables (a b : TableStatus) (sortBy order : String) (natural : Bool) :
    Except Fault Int :=
  let byName := compareTexts (.text a.name) (.text b.name) natural
  let byColumn :=
    if sortBy = "Data_length" then do (← a.totalLength).sign (← b.totalLength)
    else if sortBy = "Name" then byName
    else compareValues (a.value sortBy) (b.value sortBy) natural
  withNames byColumn order byName

/-- Compare two databases by a column of the aggregate row. -/
def compareDatabases (a b : DatabaseStats) (sortBy order : String) (natural : Bool) :
    Except Fault Int :=
  let byColumn :=
    if sortBy = "SCHEMA_NAME" ∨ sortBy = "DEFAULT_COLLATION_NAME" then
      compareTexts (a.value sortBy) (b.value sortBy) natural
    else compareValues (a.value sortBy) (b.value sortBy) natural
  withNames byColumn order (compareTexts (.text a.name) (.text b.name) natural)

def sortTables (ts : List TableStatus) (sortBy order : String) (natural : Bool) :
    Except Fault (List TableStatus) :=
  sortWith (fun a b => compareTables a b sortBy order natural) ts

def sortDatabases (ds : List DatabaseStats) (sortBy order : String) (natural : Bool) :
    Except Fault (List DatabaseStats) :=
  sortWith (fun a b => compareDatabases a b sortBy order natural) ds

end SqlDesk.Order
