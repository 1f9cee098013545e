import SqlDesk.Table
import SqlDesk.Text.Case

/-!
# Databases

Some databases are schemas of the server itself. Of the others there are statistics: a database with
its collation and seven aggregates over its tables, which stay null until statistics are asked for.
They come ready from an aggregate row of the catalog, or are summed up table by table.
-/

namespace SqlDesk

/-- The schemas that the server owns, the grant tables left out. -/
def systemSchemas : List String := ["information_schema", "performance_schema", "sys"]

/-- Whether a schema belongs to the server. The schema `mysql` holds ordinary tables and counts
only on request. -/
def isSystemSchema (name : Option String) (includeMysql : Bool) : Bool :=
  match name with
  | none => false
  | some name =>
    let name := Text.lower name
    if name = "mysql" then includeMysql else systemSchemas.contains name

/-- An aggregate of a database. -/
inductive DatabaseField where
  | tables | tableRows | dataLength | maxDataLength | indexLength | length | dataFree
deriving DecidableEq, Repr

namespace DatabaseField

/-- All aggregates, in the order in which they are listed. -/
def all : List DatabaseField :=
  [.tables, .tableRows, .dataLength, .maxDataLength, .indexLength, .length, .dataFree]

/-- The aggregate's own name. -/
def label : DatabaseField → String
  | .tables => "tables"
  | .tableRows => "table_rows"
  | .dataLength => "data_length"
  | .maxDataLength => "max_data_length"
  | .indexLength => "index_length"
  | .length => "length"
  | .dataFree => "data_free"

/-- The column of an aggregate row. -/
def column : DatabaseField → String
  | .tables => "SCHEMA_TABLES"
  | .tableRows => "SCHEMA_TABLE_ROWS"
  | .dataLength => "SCHEMA_DATA_LENGTH"
  | .maxDataLength => "SCHEMA_MAX_DATA_LENGTH"
  | .indexLength => "SCHEMA_INDEX_LENGTH"
  | .length => "SCHEMA_LENGTH"
  | .dataFree => "SCHEMA_DATA_FREE"

end DatabaseField

/-- The columns by which databases can be sorted. -/
def databaseColumns : List String :=
  ["SCHEMA_NAME", "DEFAULT_COLLATION_NAME"] ++ DatabaseField.all.map (·.column)

/-- A database and what is known of its size. -/
structure DatabaseStats where
  name : String
  collation : Value := .null
  data : DatabaseField → Value := fun _ => .null

namespace DatabaseStats

/-- The statistics by the aggregates' own names. -/
def record (d : DatabaseStats) : Row :=
  .ofFacts ([("schema_name", .text d.name), ("default_collation_name", d.collation)] ++
    DatabaseField.all.map fun f => (f.label, d.data f))

/-- Statistics from their parts by name; only the name has to be there. -/
def ofRecord (r : Row) : DatabaseStats :=
  { name := (r.column "schema_name").plain
    collation := r.column "default_collation_name"
    data := fun f => r.column f.label }

def set (d : DatabaseStats) (f : DatabaseField) (v : Value) : DatabaseStats :=
  { d with data := fun g => if g = f then v else d.data g }

/-- The aggregate that a column of a row denotes: null if the column is absent, zero if it denotes
no number. -/
def readAggregate (row : Row) (f : DatabaseField) : Except Fault Value :=
  match row.column? f.column with
  | none => .ok .null
  | some v => do
    match ← v.toNumber with
    | some n => return n.toValue.orElse (.int 0)
    | none => return .int 0

/-- The name in an aggregate row: bytes are read as text. -/
def readName : Value → Except Fault String
  | .bytes bs =>
    match Text.decode bs with
    | .ok s => .ok s
    | .error e => .error (.undecodable e)
  | v => .ok v.plain

/-- The statistics in an aggregate row of the catalog. -/
def ofCatalogRow (row : Row) : Except Fault DatabaseStats := do
  let vs ← DatabaseField.all.mapM fun f => do return (f, ← readAggregate row f)
  let name ← readName (row.column "SCHEMA_NAME")
  return {
    name
    collation := row.column "DEFAULT_COLLATION_NAME"
    data := fun f => (vs.lookup f).getD .null }

/-- Begin to sum up: all aggregates are zero. -/
def startStatistics (d : DatabaseStats) : DatabaseStats := { d with data := fun _ => .int 0 }

/-- How a table changes each aggregate, in the order in which they are changed. The free space of an
InnoDB table is that of the whole tablespace and is not counted. -/
def changes (t : TableStatus) : List (DatabaseField × (Value → Except Fault Value)) :=
  let grow (f : TableField) (v : Value) : Except Fault Value := v.plus ((t.get f).orElse (.int 0))
  [ (.tables, fun v => v.plus (.int 1)),
    (.tableRows, grow .rows),
    (.dataLength, grow .dataLength),
    (.maxDataLength, grow .maxDataLength),
    (.indexLength, grow .indexLength),
    (.dataFree, fun v => if t.get .engine == .text "InnoDB" then .ok v else grow .dataFree v),
    (.length, fun v => do v.plus (← t.totalLength)) ]

/-- Make changes one after the other, up to the first that fails. -/
def applyChanges (d : DatabaseStats) :
    List (DatabaseField × (Value → Except Fault Value)) → DatabaseStats × Option Fault
  | [] => (d, none)
  | (f, change) :: rest =>
    match change ((d.data f).orElse (.int 0)) with
    | .ok v => (d.set f v).applyChanges rest
    | .error e => (d, some e)

def addTable (d : DatabaseStats) (t : TableStatus) : DatabaseStats × Option Fault :=
  d.applyChanges (changes t)

/-- A fact by the name of its column, null for an unknown one. -/
def value (d : DatabaseStats) (column : String) : Value :=
  if column = "SCHEMA_NAME" then .text d.name
  else if column = "DEFAULT_COLLATION_NAME" then d.collation
  else match DatabaseField.all.find? (·.column == column) with
    | some f => d.data f
    | none => .null

def isKnown (d : DatabaseStats) (f : DatabaseField) : Bool :=
  match d.data f with
  | .null => false
  | _ => true

/-- The statistics as a row; unknown aggregates are left out. -/
def asRow (d : DatabaseStats) : Row :=
  [(.text "SCHEMA_NAME", .text d.name), (.text "DEFAULT_COLLATION_NAME", d.collation)] ++
    (DatabaseField.all.filter d.isKnown).map fun f => (.text f.column, d.data f)

end DatabaseStats

end SqlDesk
