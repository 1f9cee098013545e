import SqlDesk.Desk.Statement
import SqlDesk.Sql.Metadata

/-!
# Stored column descriptions

The configuration storage describes columns: their comments and the transformations that show their
values. When a view is made from a query, the descriptions of the columns behind it are copied to
the columns of the view.
-/

namespace SqlDesk.Desk

open Act

variable {σ : Type} (desk : Desk σ)

/-- The table of descriptions, if there is a configuration storage. -/
def descriptionTable : Option String :=
  let server := desk.settings.server
  if server.storageDb.isEmpty || server.columnInfo.isEmpty then none
  else some (Sql.qualified server.storageDb server.columnInfo)

/-- The stored descriptions of the columns of a database. -/
def descriptions (database : String) : Act σ (Option ResultSet) := do
  match desk.descriptionTable with
  | none => return none
  | some table =>
    let literal ← desk.literal .control
    desk.tryQueryAsControlUser (Sql.descriptionsOf table (literal database))

/-- The key under which a column of a view has the table behind it. -/
def tableKey : String := "table_name"

/-- The key under which it has the column behind it. -/
def sourceKey : String := "refering_column"

/-- The key under which it has its own name. -/
def ownKey : String := "real_column"

/-- A fact that must be known about a column of a view. -/
def demand (column : Row) (key : String) : Except Fault Value :=
  match column.column? key with
  | some v => .ok v
  | none => .error (.noSuchKey (Value.text key).shown)

/-- Whether a description is that of the column behind a column of a view. -/
def describes (description column : Row) : Except Fault Bool := do
  if description.column "table_name" != (← demand column tableKey) then return false
  return description.column "column_name" == (← demand column sourceKey)

/-- The first column of a view that a description is for. -/
def firstDescribed (description : Row) : List Row → Except Fault (Option Row)
  | [] => .ok none
  | c :: cs => do if ← describes description c then return some c else firstDescribed description cs

/-- The description of a column of a view, as literals. -/
def describedRow (literal : String → String) (database view : String) (description column : Row) :
    Except Fault String := do
  let own := column.column ownKey
  let name ← if own.truthy then pure own else demand column sourceKey
  let values := [.text database, .text view, name, description.column "comment",
    description.column "mimetype", description.column "transformation",
    description.column "transformation_options"]
  return Sql.rowOfLiterals (values.map fun v =>
    literal (match v with
      | .null => ""
      | v => v.plain))

/-- Go through the unread descriptions, each of which is for the first column it fits. Reading stops
behind the description after which there are as many rows as columns. The result is left where the
reading stopped. -/
def copyDescriptions (literal : String → String) (database view : String) (columns : List Row)
    (data : ResultSet) : Nat → List String → Except Fault (List String) × ResultSet
  | 0, rows => (.ok rows, data)
  | fuel + 1, rows =>
    match data.fetchMapping with
    | (none, data) => (.ok rows, data)
    | (some description, data) =>
      let more := do
        match ← firstDescribed description columns with
        | none => return rows
        | some c => return rows ++ [← describedRow literal database view description c]
      match more with
      | .error f => (.error f, data)
      | .ok rows =>
        if rows.length = columns.length then (.ok rows, data)
        else copyDescriptions literal database view columns data fuel rows

/-- The statement that copies descriptions to the columns of a view, nothing if there are none to be
copied; and the result they were read from, as far as it was read. -/
def copyStatement (data : ResultSet) (columns : List Row) (view database : String) :
    Act σ (Except Error String × ResultSet) := do
  match desk.descriptionTable with
  | none => return (.ok "", data)
  | some table =>
    let literal ← desk.literal .control
    let (rows, data) := copyDescriptions literal database view columns data (data.count + 1) []
    let statement := rows.map fun rows =>
      if rows.isEmpty then "" else Sql.insertDescriptions table rows
    return (Error.ofFault statement, data)

/-- The table and the column behind each column of a query's result, and its name in a view if names
are given. There must be as many names as columns. -/
def columnMap (sql : String) (names : List String) : Act σ (List Row) := do
  match ← desk.tryQuery sql with
  | none => return []
  | some r =>
    let fields := r.fieldsMeta
    let behind (f : FieldMeta) : Row := [(.text tableKey, .text f.table), (.text sourceKey, .text f.name)]
    if names.isEmpty then return fields.map behind
    else if names.length ≠ fields.length then return []
    else return fields.zipWith (fun f n => behind f ++ [(.text ownKey, .text n)]) names

end SqlDesk.Desk
