import SqlDesk.Value.Number
import SqlDesk.Value.Show
import SqlDesk.Text.Case

/-!
# Table status

What the server tells about a table. The same eighteen attributes come from the catalog
(`information_schema.TABLES`) or from `SHOW TABLE STATUS`, under different names; a status holds
them once, whichever answer it was read from.
-/

namespace SqlDesk

/-- An attribute of a table. -/
inductive TableField where
  | name | engine | version | rowFormat | rows | avgRowLength | dataLength | maxDataLength
  | indexLength | dataFree | autoIncrement | createTime | updateTime | checkTime | collation
  | checksum | createOptions | comment
deriving DecidableEq, Repr

namespace TableField

/-- All attributes, in the order in which they are listed. -/
def all : List TableField :=
  [.name, .engine, .version, .rowFormat, .rows, .avgRowLength, .dataLength, .maxDataLength,
    .indexLength, .dataFree, .autoIncrement, .createTime, .updateTime, .checkTime, .collation,
    .checksum, .createOptions, .comment]

/-- The attribute's own name. -/
def label : TableField → String
  | .name => "name"
  | .engine => "engine"
  | .version => "version"
  | .rowFormat => "row_format"
  | .rows => "rows"
  | .avgRowLength => "avg_row_length"
  | .dataLength => "data_length"
  | .maxDataLength => "max_data_length"
  | .indexLength => "index_length"
  | .dataFree => "data_free"
  | .autoIncrement => "auto_increment"
  | .createTime => "create_time"
  | .updateTime => "update_time"
  | .checkTime => "check_time"
  | .collation => "collation"
  | .checksum => "checksum"
  | .createOptions => "create_options"
  | .comment => "comment"

/-- The column of `SHOW TABLE STATUS`. -/
def showColumn : TableField → String
  | .name => "Name"
  | .engine => "Engine"
  | .version => "Version"
  | .rowFormat => "Row_format"
  | .rows => "Rows"
  | .avgRowLength => "Avg_row_length"
  | .dataLength => "Data_length"
  | .maxDataLength => "Max_data_length"
  | .indexLength => "Index_length"
  | .dataFree => "Data_free"
  | .autoIncrement => "Auto_increment"
  | .createTime => "Create_time"
  | .updateTime => "Update_time"
  | .checkTime => "Check_time"
  | .collation => "Collation"
  | .checksum => "Checksum"
  | .createOptions => "Create_options"
  | .comment => "Comment"

/-- The column of the catalog. -/
def catalogColumn : TableField → String
  | .name => "TABLE_NAME"
  | .engine => "ENGINE"
  | .version => "VERSION"
  | .rowFormat => "ROW_FORMAT"
  | .rows => "TABLE_ROWS"
  | .avgRowLength => "AVG_ROW_LENGTH"
  | .dataLength => "DATA_LENGTH"
  | .maxDataLength => "MAX_DATA_LENGTH"
  | .indexLength => "INDEX_LENGTH"
  | .dataFree => "DATA_FREE"
  | .autoIncrement => "AUTO_INCREMENT"
  | .createTime => "CREATE_TIME"
  | .updateTime => "UPDATE_TIME"
  | .checkTime => "CHECK_TIME"
  | .collation => "TABLE_COLLATION"
  | .checksum => "CHECKSUM"
  | .createOptions => "CREATE_OPTIONS"
  | .comment => "TABLE_COMMENT"

/-- Whether the attribute is read as a number where it denotes one. -/
def isNumeric : TableField → Bool
  | .version | .rows | .avgRowLength | .dataLength | .maxDataLength | .indexLength | .dataFree
  | .autoIncrement | .checksum => true
  | _ => false

/-- The attribute of a `SHOW TABLE STATUS` column. -/
def ofShowColumn? (column : String) : Option TableField := all.find? (·.showColumn == column)

end TableField

/-- The columns of `SHOW TABLE STATUS` that are no extra information. -/
def showColumns : List String := TableField.all.map (·.showColumn) ++ ["Type", "Db"]

/-- The columns of the catalog that are no extra information. -/
def catalogColumns : List String :=
  TableField.all.map (·.catalogColumn) ++ ["TABLE_SCHEMA", "TABLE_TYPE"]

/-- The status of a table. -/
structure TableStatus where
  schema : String
  name : String
  tableType : Value := .text "BASE TABLE"
  /-- The attributes other than the name. -/
  data : TableField → Value := fun _ => .null
  /-- What the answer held beside the attributes. -/
  extra : Row := []

namespace TableStatus

def get (t : TableStatus) (f : TableField) : Value :=
  match f with
  | .name => .text t.name
  | f => t.data f

/-- The status by the attributes' own names. -/
def record (t : TableStatus) : Row :=
  .ofFacts ([("schema", .text t.schema), ("table_type", t.tableType), ("extra", .map t.extra)] ++
    TableField.all.map fun f => (f.label, t.get f))

/-- A status from its parts by name; only schema and name have to be there. -/
def ofRecord (r : Row) : TableStatus :=
  { schema := (r.column "schema").plain
    name := (r.column "name").plain
    tableType := (r.column? "table_type").getD (.text "BASE TABLE")
    data := fun f => r.column f.label
    extra := match r.column "extra" with
      | .map es => es
      | _ => [] }

/-- A value read as a number where the attribute is numeric and the value denotes one. -/
def coerce (value : Value) (numeric : Bool) : Except Fault Value :=
  if numeric then do
    match ← value.toNumber with
    | some n => return n.toValue
    | none => return value
  else .ok value

/-- The attributes of a row under the given column names. -/
def readFields (row : Row) (column : TableField → String) : Except Fault (TableField → Value) := do
  let vs ← TableField.all.mapM fun f => do
    return (f, ← coerce (row.column (column f)) f.isNumeric)
  return fun f => (vs.lookup f).getD .null

/-- The entries of a row beside the given columns. -/
def extraOf (row : Row) (known : List String) : Row :=
  row.filter fun e => !known.any fun c => e.1 == .text c

/-- The text of a column, nothing if it is absent. -/
def columnText (row : Row) (column : String) : String :=
  ((row.column? column).map Value.plain).getD ""

/-- The kind of a table as `SHOW TABLE STATUS` tells it. -/
def kindOf (schema : String) (engine comment : Value) : String :=
  let noEngine : Bool := match engine with
    | .null => true
    | _ => false
  if Text.upper (comment.orElse (.text "")).plain = "VIEW" ∧ noEngine then "VIEW"
  else if Text.lower schema = "information_schema" then "SYSTEM VIEW"
  else "BASE TABLE"

/-- The status in a row of `SHOW TABLE STATUS`. -/
def ofShowRow (row : Row) (schema : String) : Except Fault TableStatus := do
  let data ← readFields row (·.showColumn)
  return {
    schema
    name := columnText row "Name"
    tableType := .text (kindOf schema (data .engine) (data .comment))
    data
    extra := extraOf row showColumns }

/-- The status in a row of the catalog. -/
def ofCatalogRow (row : Row) : Except Fault TableStatus := do
  let data ← readFields row (·.catalogColumn)
  return {
    schema := columnText row "TABLE_SCHEMA"
    name := columnText row "TABLE_NAME"
    tableType := (row.column "TABLE_TYPE").orElse (.text "BASE TABLE")
    data
    extra := extraOf row catalogColumns }

/-- The size of data and indexes together. -/
def totalLength (t : TableStatus) : Except Fault Value :=
  ((t.get .dataLength).orElse (.int 0)).plus ((t.get .indexLength).orElse (.int 0))

def isView (t : TableStatus) : Bool :=
  t.tableType == .text "VIEW" || t.tableType == .text "SYSTEM VIEW"

/-- An attribute, or extra information, by its name in `SHOW TABLE STATUS`. -/
def value (t : TableStatus) (column : String) : Value :=
  match TableField.ofShowColumn? column with
  | some f => t.get f
  | none => Row.column t.extra column

/-- The status as a row that has every attribute under both of its names. -/
def asRow (t : TableStatus) : Row :=
  let put (r : Row) (k : String) (v : Value) : Row := Assoc.put r (.text k) v
  let head := put (put (put t.extra "TABLE_SCHEMA" (.text t.schema)) "TABLE_TYPE" t.tableType)
    "Db" (.text t.schema)
  let body := TableField.all.foldl
    (fun r f => put (put r f.catalogColumn (t.get f)) f.showColumn (t.get f)) head
  put body "Type" (t.get .engine)

end TableStatus

end SqlDesk
