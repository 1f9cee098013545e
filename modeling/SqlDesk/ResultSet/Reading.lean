import SqlDesk.ResultSet

/-!
# Readings of a result set
-/

namespace SqlDesk.ResultSet

/-- What can be read from a result set. -/
inductive Reading where
  | row
  | mapping
  | value (column : ColumnRef)
  | mappings
  | column (column : ColumnRef)
  | keyed
  | seek (offset : Int)
  | count
  | names
  | describe

def orNull {α : Type} (f : α → Value) (a : Option α) : Value := a.elim .null f

/-- The answer to a reading, and the result set after it. -/
def read (r : ResultSet) : Reading → Except Fault Value × ResultSet
  | .row => let (v, s) := r.fetchRow; (.ok (orNull .list v), s)
  | .mapping => let (v, s) := r.fetchMapping; (.ok (orNull .map v), s)
  | .value c => r.fetchValue c
  | .mappings => let (v, s) := r.fetchMappings; (.ok (.list (v.map .map)), s)
  | .column c => let (v, s) := r.fetchColumn c; (.list <$> v, s)
  | .keyed => let (v, s) := r.fetchKeyed; (.map <$> v, s)
  | .seek offset => let (v, s) := r.seek offset; (.ok (.bool v), s)
  | .count => (.ok (.int r.count), r)
  | .names => (.ok (.list (r.columns.map .text)), r)
  | .describe => (.ok (.text r.describe), r)

end SqlDesk.ResultSet
