import SqlDesk.Desk.Connection
import SqlDesk.Desk.Databases
import SqlDesk.Desk.Facts
import SqlDesk.Desk.Reply
import SqlDesk.Desk.Transformation
import SqlDesk.Session.Request

/-!
# Requests of a desk

All operations of a desk as values, so that a run of a desk is a list of requests.
-/

namespace SqlDesk

/-- What can be asked of a desk. -/
inductive Request where
  | connect (role : Role) (server : Option ServerSettings)
  | close (role : Role)
  | closeAll
  | isConnected (role : Role)
  | link (role : Role)
  | setLink (role : Role) (link : Option Link)
  | postConnect (server : Option ServerSettings)
  | setVersion (row : Value)
  | version
  | isMariadb
  | isPercona
  | query (sql : String) (role : Role) (unbuffered keep : Bool)
  | tryQuery (sql : String) (role : Role) (unbuffered keep : Bool)
  | queryAsControlUser (sql : String) (unbuffered : Bool)
  | tryQueryAsControlUser (sql : String) (unbuffered : Bool)
  | prepare (sql : String) (role : Role)
  | fetchValue (sql : String) (column : ColumnRef) (role : Role)
  | fetchRow (sql : String) (role : Role)
  | fetchMapping (sql : String) (role : Role)
  | fetchList (sql : String) (value : Option ColumnRef) (role : Role)
  | fetchKeyed (sql : String) (key : ColumnRef) (value : Option ColumnRef) (role : Role)
  | selectDb (database : String) (role : Role)
  | errorText (role : Role)
  | affectedRows (role : Role) (remembered : Bool)
  | escapeString (text : String) (role : Role)
  | quoteString (text : String) (role : Role)
  | currentUser
  | userAndHost
  | isAmazonHosted
  | lowerCaseNames
  | databaseCollation (database : String)
  | serverCollation
  | setCollation (collation : String)
  | tables (database : String) (filter : Sql.TableFilter) (view : Desk.TableView) (role : Role)
  | knownTable (database table : String)
  | knownRow (database table : String)
  | forgetTables
  | tableNames (database : String) (role : Role)
  | columns (database table : String) (full : Bool) (role : Role)
  | databaseNames
  | resetDatabases
  | databases (like : Option String) (totals : Bool) (view : Desk.DatabaseView) (role : Role)
  | descriptions (database : String)
  | columnMap (sql : String) (names : List String)
  | useDatabase (database : String)
  | session (r : Session.Request)
  | statements
  | statementTotals
  | clearStatements

namespace Desk

open Act

variable {σ : Type} (desk : Desk σ)

def performSession (r : Session.Request) : Act σ Value := do
  let (st, answer) := Session.perform (← desk.storage) desk.scope r
  desk.putStorage st
  MonadExcept.ofExcept answer

def pairReply (p : String × String) : Reply := .texts [p.1, p.2]

/-- An operation that has no answer. -/
def silently (a : Act σ Unit) : Act σ Reply := do
  a
  return .nothing

def perform : Request → Act σ Reply
  | .connect role server => .link <$> desk.connect role server
  | .close role => silently (desk.close role)
  | .closeAll => silently desk.closeAll
  | .isConnected role => .truth <$> isConnected role
  | .link role => return .link ((← memory).linkOf role)
  | .setLink role link => silently (setLink role link)
  | .postConnect server => silently (desk.postConnect server)
  | .setVersion row => silently (setVersion row)
  | .version => return .number (← memory).version.number
  | .isMariadb => return .truth (← memory).version.isMariadb
  | .isPercona => return .truth (← memory).version.isPercona
  | .query sql role unbuffered keep => return .result (some (← desk.query sql role unbuffered keep))
  | .tryQuery sql role unbuffered keep => .result <$> desk.tryQuery sql role unbuffered keep
  | .queryAsControlUser sql unbuffered =>
    return .result (some (← desk.queryAsControlUser sql unbuffered))
  | .tryQueryAsControlUser sql unbuffered => .result <$> desk.tryQueryAsControlUser sql unbuffered
  | .prepare sql role => .statement <$> desk.prepare sql role
  | .fetchValue sql column role => .value <$> desk.fetchValue sql column role
  | .fetchRow sql role => return .value ((← desk.fetchRow sql role).elim .null .list)
  | .fetchMapping sql role => return .value ((← desk.fetchMapping sql role).elim .null .map)
  | .fetchList sql value role => return .value (.list (← desk.fetchList sql value role))
  | .fetchKeyed sql key value role => return .value (.map (← desk.fetchKeyed sql key value role))
  | .selectDb database role => .truth <$> desk.selectDb database role
  | .errorText role => .text <$> desk.errorText role
  | .affectedRows role remembered => .number <$> desk.affectedRows role remembered
  | .escapeString text role => .text <$> desk.escapeString text role
  | .quoteString text role => return .text ((← desk.literal role) text)
  | .currentUser => .value <$> desk.currentUser
  | .userAndHost => pairReply <$> desk.userAndHost
  | .isAmazonHosted => .value <$> desk.isAmazonHosted
  | .lowerCaseNames => .number <$> desk.lowerCaseNames
  | .databaseCollation database => .text <$> desk.databaseCollation database
  | .serverCollation => .text <$> desk.serverCollation
  | .setCollation collation => silently (desk.setCollation collation)
  | .tables database filter view role => .tables <$> desk.tables database filter view role
  | .knownTable database table => .table <$> knownTable database table
  | .knownRow database table =>
    return .value ((← knownTable database table).elim .null fun t => .map t.asRow)
  | .forgetTables => silently forgetTables
  | .tableNames database role => .texts <$> desk.tableNames database role
  | .columns database table full role => .columns <$> desk.columns database table full role
  | .databaseNames => .texts <$> desk.databaseNames
  | .resetDatabases => silently resetDatabases
  | .databases like totals view role => .databases <$> desk.databases like totals view role
  | .descriptions database => .result <$> desk.descriptions database
  | .columnMap sql names => return .value (.list ((← desk.columnMap sql names).map .map))
  | .useDatabase database => silently (remember fun m => { m with currentDatabase := database })
  | .session r => .value <$> desk.performSession r
  | .statements => return .entries (← memory).log.list
  | .statementTotals => return .value (.map (← memory).log.summary)
  | .clearStatements => silently (remember fun m => { m with log := m.log.clear })

end Desk

end SqlDesk
