import SqlDesk.Value.Show
import SqlDesk.Text.Case

/-!
# Columns of tables
-/

namespace SqlDesk

/-- A column as `SHOW [FULL] COLUMNS` tells it. -/
structure ColumnInfo where
  name : String
  dataType : String
  nullable : Bool
  default : Value := .null
  key : Value := .text ""
  extra : Value := .text ""
  collation : Value := .null
  privileges : Value := .null
  comment : Value := .null

namespace ColumnInfo

/-- The column in a row. -/
def ofRow (row : Row) : ColumnInfo :=
  let textOf (c : String) : String := ((row.column? c).map Value.plain).getD ""
  { name := textOf "Field"
    dataType := textOf "Type"
    nullable := Text.upper (textOf "Null") == "YES"
    default := row.column "Default"
    key := (row.column "Key").orElse (.text "")
    extra := (row.column "Extra").orElse (.text "")
    collation := row.column "Collation"
    privileges := row.column "Privileges"
    comment := row.column "Comment" }

def isPrimaryKey (c : ColumnInfo) : Bool := c.key == .text "PRI"

/-- The column's facts by name. -/
def record (c : ColumnInfo) : Row :=
  .ofFacts
    [("name", .text c.name), ("data_type", .text c.dataType), ("is_nullable", .bool c.nullable),
      ("default_value", c.default), ("key", c.key), ("extra", c.extra), ("collation", c.collation),
      ("privileges", c.privileges), ("comment", c.comment), ("is_primary_key", .bool c.isPrimaryKey)]

end ColumnInfo

end SqlDesk
