import SqlDesk.Value.Show
import SqlDesk.Fault

/-!
# Result sets

All rows of a statement's answer together with a cursor. The single row readers take the row under
the cursor and move it; the readers of many rows take all that are left. A reader that fails leaves
the cursor of a many row read where it was.
-/

namespace SqlDesk

/-- The description of a column of a result. -/
structure FieldMeta where
  name : String
  table : String := ""
  origin : String := ""
  typeCode : Value := .null
  length : Value := .null
  nullable : Bool := true

namespace FieldMeta

/-- The description by names. -/
def record (m : FieldMeta) : Row :=
  .ofFacts
    [("name", .text m.name), ("table", .text m.table), ("org_table", .text m.origin),
      ("type_code", m.typeCode), ("length", m.length), ("is_nullable", .bool m.nullable)]

/-- A description from its parts by name; only the column's name has to be there. -/
def ofRecord (r : Row) : FieldMeta :=
  let textOf (k : String) : String := ((r.column? k).map Value.plain).getD ""
  { name := textOf "name"
    table := textOf "table"
    origin := textOf "org_table"
    typeCode := r.column "type_code"
    length := r.column "length"
    nullable := ((r.column? "is_nullable").map Value.truthy).getD true }

end FieldMeta

/-- A fully read answer with a cursor. -/
structure ResultSet where
  columns : List String
  rows : List (List Value)
  affected : Int := 0
  fields : Option (List FieldMeta) := none
  position : Nat := 0

/-- How a caller names a column. -/
inductive ColumnRef where
  | name (s : String)
  | index (i : Int)
deriving DecidableEq, Repr

namespace ResultSet

variable (r : ResultSet)

def columnIndex (name : String) : Except Fault Nat :=
  match r.columns.findIdx? (· == name) with
  | some i => .ok i
  | none => .error (.noSuchColumn name)

/-- The value of a row at a position; a negative one counts from the end. -/
def cell (row : List Value) (i : Int) : Except Fault Value :=
  let at? := if 0 ≤ i then row[i.toNat]? else
    if -i ≤ row.length then row[(row.length + i).toNat]? else none
  match at? with
  | some v => .ok v
  | none => .error .columnOutOfRange

/-- A row as a mapping. Of columns with one name the last value counts; values without a column and
columns without a value are left out. -/
def asMapping (row : List Value) : Row :=
  Assoc.ofList ((r.columns.map Value.text).zip row)

/-- The rows that have not been read. -/
def remaining : List (List Value) := r.rows.drop r.position

/-- The cursor behind the last row. -/
def exhausted : ResultSet := { r with position := r.rows.length }

/-- The row under the cursor. -/
def fetchRow : Option (List Value) × ResultSet :=
  match r.rows[r.position]? with
  | some row => (some row, { r with position := r.position + 1 })
  | none => (none, r)

/-- The row under the cursor as a mapping. -/
def fetchMapping : Option Row × ResultSet :=
  let (row, s) := r.fetchRow
  (row.map r.asMapping, s)

/-- One value of the row under the cursor, null if there is none. -/
def fetchValue (column : ColumnRef) : Except Fault Value × ResultSet :=
  match r.fetchRow with
  | (none, s) => (.ok .null, s)
  | (some row, s) =>
    let value := match column with
      | .name c =>
        match r.columns.findIdx? (· == c) with
        | none => .ok .null
        | some i => cell row i
      | .index i => .ok (if 0 ≤ i then row.getD i.toNat .null else .null)
    (value, s)

/-- The unread rows as mappings. -/
def fetchMappings : List Row × ResultSet := (r.remaining.map r.asMapping, r.exhausted)

/-- The position that a column reference means in every row. -/
def resolve (column : ColumnRef) : Except Fault Int :=
  match column with
  | .name c => (fun (i : Nat) => (i : Int)) <$> r.columnIndex c
  | .index i => .ok i

/-- One column of the unread rows. -/
def fetchColumn (column : ColumnRef) : Except Fault (List Value) × ResultSet :=
  match r.resolve column >>= fun i => r.remaining.mapM fun row => cell row i with
  | .ok vs => (.ok vs, r.exhausted)
  | .error e => (.error e, r)

/-- The first value of a row as a key and the second one as its value. -/
def keyedEntry (row : List Value) : Except Fault (Value × Value) :=
  match row with
  | [] => .error .columnOutOfRange
  | k :: vs => if k.isKey then .ok (k, vs.headD .null) else .error .unfitOperands

/-- The unread rows as a mapping from the first column to the second. -/
def fetchKeyed : Except Fault Row × ResultSet :=
  match r.remaining.mapM keyedEntry with
  | .ok es => (.ok (Assoc.ofList es), r.exhausted)
  | .error e => (.error e, r)

/-- Put the cursor on a row, or behind the last one. -/
def seek (offset : Int) : Bool × ResultSet :=
  if 0 ≤ offset ∧ offset ≤ r.rows.length then (true, { r with position := offset.toNat })
  else (false, r)

/-- The number of rows, read or not. -/
def count : Nat := r.rows.length

def fieldsMeta : List FieldMeta :=
  match r.fields with
  | some fs => fs
  | none => r.columns.map fun c => { name := c }

/-- A short description for messages. -/
def describe : String :=
  "BufferedResult(columns=" ++ (Value.list (r.columns.map .text)).shown ++ ", rows=" ++
    toString r.rows.length ++ ")"

/-- An answer without rows. -/
def ofCount (affected : Int) : ResultSet := { columns := [], rows := [], affected }

end ResultSet

end SqlDesk
