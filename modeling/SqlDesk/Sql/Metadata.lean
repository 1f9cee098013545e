/-!
# Statements about metadata

The statements that list databases, tables and columns. Names come in between backticks, with inner
backticks doubled, other texts as string literals; how a text becomes a literal depends on the
connection and is a parameter. A text that a LIKE pattern is to match literally has its wildcards
escaped. A table of the configuration storage describes columns: their comments and the
transformations of their values for display.
-/

namespace SqlDesk.Sql

/-! ## Quoting -/

/-- An identifier with every backtick doubled. -/
def doubleBackticks : List Char → List Char
  | [] => []
  | c :: cs => if c = '\x60' then '\x60' :: '\x60' :: doubleBackticks cs else c :: doubleBackticks cs

/-- An identifier between backticks. -/
def backquoteList (cs : List Char) : List Char := '\x60' :: (doubleBackticks cs ++ ['\x60'])

def backquote (name : String) : String := String.ofList (backquoteList name.toList)

/-- One character of a LIKE pattern that stands for itself. Backslashes are left as they are. -/
def escapeWildcard (c : Char) : List Char := if c = '_' ∨ c = '%' then ['\\', c] else [c]

/-- A text with its LIKE wildcards escaped. -/
def escapeWildcards (s : String) : String := String.ofList (s.toList.flatMap escapeWildcard)

/-! ## Tables and databases -/

/-- Which tables of a database are asked for. -/
inductive TableFilter where
  /-- The table of a name. -/
  | name (s : String)
  /-- The tables whose names have a start in common. -/
  | start (s : String)
  /-- The tables of a list of names. -/
  | names (ss : List String)
deriving DecidableEq, Repr

/-- Whether a filter lets every table through. -/
def TableFilter.isEmpty : TableFilter → Bool
  | .name s | .start s => s.isEmpty
  | .names ss => ss.isEmpty

section Literal

variable (literal : String → String)

/-- A list of string literals. -/
def literals (ss : List String) : String := ", ".intercalate (ss.map literal)

/-- The condition that a filter puts on a column. -/
def condition (column : String) : TableFilter → String
  | .start s => backquote column ++ " LIKE " ++ literal (escapeWildcards s ++ "%")
  | .name s => backquote column ++ " IN (" ++ literals literal [s] ++ ")"
  | .names ss => backquote column ++ " IN (" ++ literals literal ss ++ ")"

/-- The condition of a filter behind a joining word, nothing for a filter that lets all through. -/
def joinedCondition (word column : String) (filter : TableFilter) : String :=
  if filter.isEmpty then "" else word ++ condition literal column filter

/-- Ask the catalog for tables. -/
def catalogTables (database : String) (filter : TableFilter) : String :=
  "SELECT * FROM `information_schema`.`TABLES` WHERE `TABLE_SCHEMA` = " ++ literal database ++
    joinedCondition literal " AND " "TABLE_NAME" filter ++ " ORDER BY `TABLE_NAME` ASC"

/-- Ask for the status of tables. -/
def tableStatus (database : String) (filter : TableFilter) : String :=
  "SHOW TABLE STATUS FROM " ++ backquote database ++
    joinedCondition literal " WHERE " "Name" filter

/-- Ask for the status of all tables. -/
def allTableStatus (database : String) : String :=
  "SHOW TABLE STATUS FROM " ++ backquote database ++ ";"

def tableNames (database : String) : String := "SHOW TABLES FROM " ++ backquote database ++ ";"

def columns (full : Bool) (database table : String) : String :=
  "SHOW " ++ (if full then "FULL " else "") ++ "COLUMNS FROM " ++ backquote database ++ "." ++
    backquote table ++ ";"

def databaseNames : String := "SHOW DATABASES"

/-- Ask for the names of databases that match a pattern. -/
def databaseNamesLike (pattern : String) : String := "SHOW DATABASES LIKE " ++ literal pattern

/-- The columns of the catalog about databases, with totals over their tables on request. -/
def catalogColumns (totals : Bool) : String :=
  if totals then
    "SELECT s.SCHEMA_NAME, s.DEFAULT_COLLATION_NAME," ++
      " COUNT(t.TABLE_SCHEMA) AS SCHEMA_TABLES," ++
      " SUM(t.TABLE_ROWS) AS SCHEMA_TABLE_ROWS," ++
      " SUM(t.DATA_LENGTH) AS SCHEMA_DATA_LENGTH," ++
      " SUM(t.MAX_DATA_LENGTH) AS SCHEMA_MAX_DATA_LENGTH," ++
      " SUM(t.INDEX_LENGTH) AS SCHEMA_INDEX_LENGTH," ++
      " SUM(t.DATA_LENGTH + t.INDEX_LENGTH) AS SCHEMA_LENGTH," ++
      " SUM(IF(t.ENGINE <> 'InnoDB', t.DATA_FREE, 0)) AS SCHEMA_DATA_FREE" ++
      " FROM `information_schema`.SCHEMATA s" ++
      " LEFT JOIN `information_schema`.TABLES t" ++
      " ON BINARY t.TABLE_SCHEMA = BINARY s.SCHEMA_NAME"
  else "SELECT s.SCHEMA_NAME, s.DEFAULT_COLLATION_NAME FROM `information_schema`.SCHEMATA s"

/-- Which databases are asked for. -/
inductive DatabaseFilter where
  /-- Those whose names match a pattern. -/
  | like (pattern : String)
  /-- Those of a list of names. -/
  | names (ss : List String)
deriving DecidableEq, Repr

/-- The condition that a filter puts on the name of a database. -/
def databaseCondition : DatabaseFilter → String
  | .like pattern => " WHERE s.SCHEMA_NAME LIKE " ++ literal pattern
  | .names ss => " WHERE s.SCHEMA_NAME IN (" ++ literals literal ss ++ ")"

/-- Ask the catalog for databases. -/
def catalogDatabases (totals : Bool) (filter : DatabaseFilter) : String :=
  catalogColumns totals ++ databaseCondition literal filter ++
    (if totals then " GROUP BY BINARY s.SCHEMA_NAME, s.DEFAULT_COLLATION_NAME" else "")

/-- Ask the catalog for the collation of a database. -/
def catalogCollation (database : String) : String :=
  "SELECT DEFAULT_COLLATION_NAME FROM information_schema.SCHEMATA WHERE SCHEMA_NAME = " ++
    literal database ++ " LIMIT 1"

end Literal

/-! ## Stored descriptions -/

/-- A table by the quoted names of its database and itself. -/
def qualified (database table : String) : String := backquote database ++ "." ++ backquote table

/-- Ask for the descriptions of the columns of a database, given as a literal. -/
def descriptionsOf (table database : String) : String :=
  "SELECT * FROM " ++ table ++ " WHERE `db_name` = " ++ database

/-- A row of literals to be inserted. -/
def rowOfLiterals (values : List String) : String := "(" ++ ", ".intercalate values ++ ")"

def insertDescriptions (table : String) (rows : List String) : String :=
  "INSERT IGNORE INTO " ++ table ++ " (`db_name`, `table_name`, `column_name`," ++
    " `comment`, `mimetype`, `transformation`, `transformation_options`)" ++
    " VALUES " ++ ", ".intercalate rows

end SqlDesk.Sql
