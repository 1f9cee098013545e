import SqlDesk.Desk.Request
import SqlDesk.Proofs.Desk.Databases
import SqlDesk.Proofs.Desk.Routine
import SqlDesk.Proofs.Sql.Setup

/-!
# What any operation of a desk does

Every request is put together from deeds that its licence allows (`perform_routine`): its statements
run on the connections of certain roles, those for facts that desks keep are run for these facts
only, and it changes certain parts of what is remembered. Its strict licence tells besides which
statements these are (`perform_strict`). So a relation that these deeds keep is kept by the request
(`perform_within`), and one that does not look at what is remembered, the list of visible databases
aside, by every request (`perform_moves`).
-/

namespace SqlDesk

open Act

/-- The role on whose connection a request runs a statement. Without the catalog, a listing of
databases asks for the list of databases and for collations as the user. -/
def Request.roleOf (sql : String) : Request → Role
  | .query _ role _ _ | .tryQuery _ role _ _ | .fetchValue _ _ role | .fetchRow _ role
  | .fetchMapping _ role | .fetchList _ _ role | .fetchKeyed _ _ _ role | .tables _ _ _ role
  | .tableNames _ role | .columns _ _ _ role => role
  | .databases _ _ _ role =>
    if sql = Sql.databaseNames ∨ sql = Sql.databaseCollation then .user else role
  | .queryAsControlUser .. | .tryQueryAsControlUser .. | .descriptions _ => .control
  | _ => .user

/-- The statement that a request hands in. -/
def Request.statement? : Request → Option String
  | .query sql .. | .tryQuery sql .. | .queryAsControlUser sql _ | .tryQueryAsControlUser sql _
  | .fetchValue sql .. | .fetchRow sql _ | .fetchMapping sql _ | .fetchList sql ..
  | .fetchKeyed sql .. | .columnMap sql _ => some sql
  | _ => none

/-- The statement for the fact that a request asks for. -/
def Request.fact? : Request → Option String
  | .currentUser | .userAndHost => some Sql.currentUser
  | .isAmazonHosted => some Sql.baseDirectory
  | .lowerCaseNames => some Sql.lowerCaseNames
  | _ => none

theorem Request.fact?_mem (r : Request) {sql : String} (h : r.fact? = some sql) :
    sql ∈ Sql.factStatements := by
  cases r with
  | currentUser | userAndHost | isAmazonHosted | lowerCaseNames =>
    obtain rfl := Option.some.inj h
    decide
  | _ => cases h

/-- A request may run a statement: one for a fact only if it asks for this fact, or if the statement
is handed in. -/
def Request.MayRun (r : Request) (sql : String) : Prop :=
  sql ∈ Sql.factStatements → r.statement? = some sql ∨ r.fact? = some sql

namespace Desk

/-- The parts of what is remembered that a request may change. -/
def parts : Request → List Part
  | .connect .. => [.links, .version, .collation, .databases]
  | .postConnect _ => [.version, .collation, .databases]
  | .close _ | .closeAll | .setLink .. => [.links]
  | .setVersion _ => [.version]
  | .query _ _ _ keep | .tryQuery _ _ _ keep => if keep then [.affected] else []
  | .columnMap .. => [.affected]
  | .currentUser | .isAmazonHosted | .session _ => [.storage]
  | .userAndHost => [.login, .storage]
  | .lowerCaseNames => [.lowerCaseNames]
  | .setCollation _ => [.collation]
  | .tables .. | .forgetTables => [.tables]
  | .databaseNames | .resetDatabases | .databases .. => [.databases]
  | .useDatabase _ => [.currentDatabase]
  | .clearStatements => [.log]
  | _ => []

/-- The requests of a driver that a request may make, statements aside. -/
def makes : Request → Call → Prop
  | .connect .., .connect _ | .close _, .close _ | .closeAll, .close _ | .prepare .., .prepare ..
  | .selectDb .., .selectDb .. | .databaseCollation _, .selectDb ..
  | .databases .., .selectDb .. => True
  | _, _ => False

/-- What a request may do. -/
def licence (r : Request) : Licence where
  asks sql role := role = r.roleOf sql ∧ r.MayRun sql
  makes := makes r
  changes part := part ∈ parts r

/-- A request runs a statement: the one that is handed in, that for the fact it asks for, one that
concerns the setup of a connection, if the collation may change with it, or one about metadata. -/
inductive Builds (r : Request) : String → Prop where
  | handed {sql : String} (h : r.statement? = some sql) : Builds r sql
  | fact {sql : String} (h : r.fact? = some sql) : Builds r sql
  | setUp {sql : String} (hr : .collation ∈ parts r) (h : Sql.SetsUp sql) : Builds r sql
  | collation (hr : .collation ∈ parts r) (name : String) : Builds r (Sql.setCollation name)
  | query (q : Sql.Query) (literal : String → String) : Builds r (q.text literal)
  | serverCollation : Builds r Sql.serverCollation
  | descriptions (table database : String) : Builds r (Sql.descriptionsOf table database)

theorem Builds.mayRun {r : Request} {sql : String} (h : Builds r sql) : r.MayRun sql := by
  intro hmem
  cases h with
  | handed h => exact .inl h
  | fact h => exact .inr h
  | setUp _ h => exact absurd hmem h.notMem
  | collation _ name => exact absurd hmem (Sql.setCollation_notMem name)
  | query q literal => exact absurd hmem (q.notMem literal)
  | serverCollation => exact absurd hmem (by decide)
  | descriptions table database => exact absurd hmem (Sql.descriptionsOf_notMem table database)

/-- What a request may do, with the statements that it runs. -/
def strictLicence (r : Request) : Licence where
  asks sql role := role = r.roleOf sql ∧ Builds r sql
  makes := makes r
  changes part := part ∈ parts r

/-- Whether a request looks at the statement log. -/
def readsLog : Request → Bool
  | .statements | .statementTotals => true
  | _ => false

variable {σ : Type} {desk : Desk σ} {l : Licence}

/-! ## Looks -/

theorem storage_routine : Routine desk l desk.storage :=
  .inspect (fun _ _ _ => rfl) fun _ => .pure _

theorem literal_routine (role : Role) : Routine desk l (desk.literal role) :=
  .inspect (fun _ _ _ => rfl) fun _ => .pure _

theorem lastError_routine (role : Role) : Routine desk l (desk.lastError role) :=
  .inspect (fun _ _ _ => rfl) fun _ => .pure _

theorem errorText_routine (role : Role) : Routine desk l (desk.errorText role) :=
  (lastError_routine role).andThen fun _ => .pure _

theorem affectedOf_routine (link : Link) : Routine desk l (desk.affectedOf link) :=
  .inspect (fun _ _ _ => rfl) fun _ => .pure _

theorem namesOf_routine (r : Option ResultSet) : Routine desk l (namesOf r : Act σ _) := by
  rcases r with _ | r
  · exact .pure _
  · exact (Routine.ofFault _).andThen fun _ => .pure _

/-! ## Statements -/

section Statements

variable {sql : String} {role : Role} (hask : l.asks sql role)

include hask

theorem ask_routine : Routine desk l (desk.ask sql role) :=
  .statement hask fun h => absurd h Bool.false_ne_true

theorem query_routine {keep : Bool} (hkeep : keep = true → l.changes .affected)
    (unbuffered : Bool) : Routine desk l (desk.query sql role unbuffered keep) := by
  unfold query
  refine (Routine.statement hask hkeep).andThen fun r => ?_
  rcases r with _ | r
  · refine .consult (fun _ _ => rfl) fun m => ?_
    split
    · exact .throw _
    · exact (lastError_routine role).andThen fun _ => .throw _
  · exact .pure r

theorem fetchValue_routine (column : ColumnRef) :
    Routine desk l (desk.fetchValue sql column role) := by
  unfold fetchValue
  refine (ask_routine hask).andThen fun r => ?_
  rcases r with _ | r
  · exact .pure _
  · exact .ofFault _

theorem fetchRow_routine : Routine desk l (desk.fetchRow sql role) :=
  (ask_routine hask).andThen fun _ => .pure _

theorem fetchMapping_routine : Routine desk l (desk.fetchMapping sql role) :=
  (ask_routine hask).andThen fun _ => .pure _

theorem fetchList_routine (value : Option ColumnRef) :
    Routine desk l (desk.fetchList sql value role) := by
  unfold fetchList
  refine (ask_routine hask).andThen fun r => ?_
  rcases r with _ | r
  · exact .pure _
  · exact .ofFault _

theorem fetchKeyed_routine (key : ColumnRef) (value : Option ColumnRef) :
    Routine desk l (desk.fetchKeyed sql key value role) := by
  unfold fetchKeyed
  refine (ask_routine hask).andThen fun r => ?_
  rcases r with _ | r
  · exact .pure _
  · exact (Routine.ofFault _).map _

end Statements

theorem prepare_routine (hmake : ∀ link sql, l.makes (.prepare link sql)) (sql : String)
    (role : Role) : Routine desk l (desk.prepare sql role) :=
  .consult (fun _ _ => rfl) fun _ => .request (.prepare _ sql) (hmake _ _)

theorem selectDb_routine (hmake : ∀ link database, l.makes (.selectDb link database))
    (database : String) (role : Role) : Routine desk l (desk.selectDb database role) := by
  unfold selectDb
  refine .consult (fun _ _ => rfl) fun m => ?_
  split
  · exact .pure _
  · exact .request (.selectDb _ database) (hmake _ _)

theorem affectedRows_routine (role : Role) (remembered : Bool) :
    Routine desk l (desk.affectedRows role remembered) := by
  unfold affectedRows
  refine .consult (fun _ _ => rfl) fun m => ?_
  split
  · exact .pure _
  · split
    · exact .pure _
    · exact affectedOf_routine _

/-! ## Connections -/

theorem setLink_routine (hlinks : l.changes .links) (role : Role) (link : Option Link) :
    Routine desk l (setLink role link : Act σ Unit) := .remember (.link role link) hlinks

theorem setVersion_routine (hversion : l.changes .version) (row : Value) :
    Routine desk l (setVersion row : Act σ Unit) := by
  unfold setVersion
  refine (Routine.ofFault _).bind fun version hrow => ?_
  obtain ⟨s, hrow⟩ := hrow
  rw [run_ofFault, Error.ofFault_eq_ok] at hrow
  rcases version with _ | version
  · exact .report _ _ _
  · refine (Routine.remember (.version hrow) hversion).andThen fun _ => ?_
    split
    · exact .report _ _ _
    · exact .pure _

theorem close_routine (hmake : ∀ link, l.makes (.close link)) (hlinks : l.changes .links)
    (role : Role) : Routine desk l (desk.close role) := by
  unfold close
  refine .consult (fun _ _ => rfl) fun m => ?_
  refine (Routine.remember (.unlink role) hlinks).andThen fun _ => ?_
  split
  · exact .pure _
  · exact (Routine.request (.close _) (hmake _)).andThen fun _ => .report _ _ _

theorem closeAll_routine (hmake : ∀ link, l.makes (.close link)) (hlinks : l.changes .links) :
    Routine desk l desk.closeAll :=
  .consult (fun _ _ => rfl) fun _ => .forM fun role _ => close_routine hmake hlinks role

section Setup

theorem readVersion_routine (hask : l.asks Sql.version .user) (hversion : l.changes .version) :
    Routine desk l desk.readVersion := by
  unfold readVersion
  refine (fetchMapping_routine hask).andThen fun row => ?_
  rcases row with _ | row
  · exact .report _ _ _
  · exact setVersion_routine hversion _

theorem setCharset_routine
    (hask : ∀ charset collation, l.asks (Sql.setNames charset collation) .user)
    (hcollation : l.changes .collation) : Routine desk l desk.setCharset := by
  unfold setCharset
  refine .consult (fun _ _ => rfl) fun m => ?_
  refine (ask_routine (hask _ _)).andThen fun r => ?_
  rcases r with _ | r
  · exact .report _ _ _
  · exact .remember (.charset _ _) hcollation

theorem setLocale_routine
    (hask : ∀ locale, desk.settings.locale = some locale → l.asks (Sql.setLocale locale) .user) :
    Routine desk l desk.setLocale := by
  unfold setLocale
  split
  · exact .pure _
  · rename_i locale hlocale
    refine .consult (fun _ _ => rfl) fun m => ?_
    split
    · exact (ask_routine (hask locale hlocale)).map _
    · exact .pure _

theorem setTimeZone_routine (hask : ∀ zone, l.asks (Sql.setTimeZone zone) .user) (zone : String) :
    Routine desk l (desk.setTimeZone zone) := by
  unfold setTimeZone
  split
  · exact .pure _
  · refine (literal_routine _).andThen fun literal => ?_
    refine (ask_routine (hask _)).andThen fun r => ?_
    rcases r with _ | r
    · exact (errorText_routine _).andThen fun _ => .report _ _ _
    · exact .pure _

variable (hask : ∀ sql, Sql.SetsUp sql → l.asks sql .user)

include hask

variable (hversion : l.changes .version) (hcollation : l.changes .collation)
  (hdatabases : l.changes .databases)

include hversion hcollation hdatabases

theorem postConnect_routine (server : Option ServerSettings) :
    Routine desk l (desk.postConnect server) := by
  unfold postConnect
  refine (readVersion_routine (hask _ .version) hversion).andThen fun _ => ?_
  refine (setCharset_routine (fun _ _ => hask _ (.names ..)) hcollation).andThen fun _ => ?_
  refine (setLocale_routine fun _ _ => hask _ (.locale _)).andThen fun _ => ?_
  refine (setTimeZone_routine (fun _ => hask _ (.timeZone _)) _).andThen fun _ => ?_
  exact .remember .forgetDatabases hdatabases

theorem connect_routine (hmake : ∀ params, l.makes (.connect params)) (hlinks : l.changes .links)
    (role : Role) (server : Option ServerSettings) : Routine desk l (desk.connect role server) := by
  unfold connect
  extract_lets server
  split
  · exact (Routine.report _ _ _).andThen fun _ => .pure _
  · refine (Routine.request (.connect _) (hmake _)).andThen fun link => ?_
    rcases link with _ | link
    · refine .inspect (fun _ _ _ => rfl) fun t => ?_
      extract_lets e warn
      split
      · exact (Routine.throw _).andThen fun _ => (Routine.report _ _ _).andThen fun _ => .pure _
      · exact (Routine.report _ _ _).andThen fun _ => .pure _
    · refine (setLink_routine hlinks role _).andThen fun _ => ?_
      refine (Routine.report _ _ _).andThen fun _ => ?_
      extract_lets done
      split
      · exact (postConnect_routine hask hversion hcollation hdatabases _).andThen fun _ => .pure _
      · exact .pure _

end Setup

/-! ## Facts -/

section Facts

variable (hstorage : l.changes .storage)

include hstorage

theorem putFact_routine (key : String) (v : Value) : Routine desk l (desk.putFact key v) := by
  unfold putFact
  refine storage_routine.andThen fun st => ?_
  exact (Routine.putStorage _ hstorage).andThen fun _ => .ofFault _

theorem performSession_routine (r : Session.Request) :
    Routine desk l (desk.performSession r) := by
  unfold performSession
  refine storage_routine.andThen fun st => ?_
  exact (Routine.putStorage _ hstorage).andThen fun _ => .ofExcept _

section Login

variable (hask : l.asks Sql.currentUser .user)

include hask

theorem currentUser_routine : Routine desk l desk.currentUser := by
  unfold currentUser
  refine storage_routine.andThen fun st => ?_
  refine (Routine.ofFault _).andThen fun known => ?_
  split
  · exact storage_routine.andThen fun st => .ofFault _
  · refine (fetchValue_routine hask _).andThen fun answer => ?_
    extract_lets keep
    have hkeep (user : Value) : Routine desk l (keep user) := by
      dsimp only [keep]
      split
      · exact (putFact_routine hstorage _ _).andThen fun _ => .pure _
      · exact (Routine.report _ _ _).andThen fun _ => .pure _
    split
    · exact (Routine.ofFault _).andThen hkeep
    · exact (Routine.pure _).andThen hkeep

theorem userAndHost_routine (hlogin : l.changes .login) : Routine desk l desk.userAndHost := by
  unfold userAndHost
  refine .consult (fun _ _ => rfl) fun m => ?_
  split
  · exact .pure _
  · refine (currentUser_routine hstorage hask).andThen fun user => ?_
    refine (Routine.ofFault _).andThen fun p => ?_
    exact (Routine.remember (.login p) hlogin).andThen fun _ => .pure _

end Login

theorem isAmazonHosted_routine (hask : l.asks Sql.baseDirectory .user) :
    Routine desk l desk.isAmazonHosted := by
  unfold isAmazonHosted
  refine storage_routine.andThen fun st => ?_
  refine (Routine.ofFault _).andThen fun known => ?_
  split
  · exact .pure _
  · refine (fetchValue_routine hask _).andThen fun v => ?_
    exact (putFact_routine hstorage _ _).andThen fun _ => .pure _

end Facts

theorem lowerCaseNames_routine (hask : l.asks Sql.lowerCaseNames .user)
    (hnames : l.changes .lowerCaseNames) : Routine desk l desk.lowerCaseNames := by
  unfold lowerCaseNames
  refine .consult (fun _ _ => rfl) fun m => ?_
  split
  · exact .pure _
  · refine (fetchValue_routine hask _).andThen fun v => ?_
    refine (Routine.ofFault _).andThen fun setting => ?_
    extract_lets keep
    have hkeep (n : Int) : Routine desk l (keep n) :=
      (Routine.remember (.lowerCaseNames n) hnames).andThen fun _ => .pure _
    split
    · exact (Routine.pure _).andThen hkeep
    · exact (Routine.report _ _ _).andThen fun _ => (Routine.pure _).andThen hkeep

theorem setCollation_routine (hask : ∀ collation, l.asks (Sql.setCollation collation) .user)
    (hcollation : l.changes .collation) (collation : String) :
    Routine desk l (desk.setCollation collation) := by
  unfold setCollation
  refine .consult (fun _ _ => rfl) fun m => ?_
  refine (literal_routine _).andThen fun literal => ?_
  refine (ask_routine (hask _)).andThen fun r => ?_
  rcases r with _ | r
  · exact (errorText_routine _).andThen fun _ => .report _ _ _
  · exact .remember (.collation _) hcollation

theorem databaseCollation_routine (hmake : ∀ link database, l.makes (.selectDb link database))
    {database : String}
    (hcatalog : desk.settings.server.disableCatalog = false →
      ∀ literal, l.asks (Sql.catalogCollation literal database) .user)
    (hselected : desk.settings.server.disableCatalog = true → l.asks Sql.databaseCollation .user) :
    Routine desk l (desk.databaseCollation database) := by
  unfold databaseCollation
  split
  · rename_i hon
    refine (literal_routine _).andThen fun literal => ?_
    exact (fetchValue_routine (hcatalog (by simpa using hon) _) _).andThen fun v => .pure _
  · rename_i hoff
    refine .consult (fun _ _ => rfl) fun m => ?_
    refine ((selectDb_routine hmake _ _).map _).andThen fun _ => ?_
    refine (fetchValue_routine (hselected (by simpa using hoff)) _).andThen fun v => ?_
    split
    · exact ((selectDb_routine hmake _ _).map _).andThen fun _ => .pure _
    · exact .pure _

/-! ## Tables -/

theorem rememberTables_routine (htables : l.changes .tables) (database : String)
    (found : Assoc String TableStatus) :
    Routine desk l (rememberTables database found : Act σ Unit) :=
  .remember (.tables fun known =>
    Assoc.put known database (Assoc.merge ((Assoc.get? known database).getD []) found)) htables

section Tables

variable {role : Role} (hask : ∀ (q : Sql.Query) literal, l.asks (q.text literal) role)

include hask

theorem catalogTables_routine (database : String) (filter : Sql.TableFilter) :
    Routine desk l (desk.catalogTables database filter role) := by
  unfold catalogTables
  refine (literal_routine _).andThen fun literal => ?_
  refine (ask_routine (hask (.catalogTables database filter) literal)).andThen fun r => ?_
  rcases r with _ | r
  · exact .pure _
  · exact .ofFault _

theorem statusTables_routine (database : String) (filter : Sql.TableFilter) :
    Routine desk l (desk.statusTables database filter role) := by
  unfold statusTables
  refine (literal_routine _).andThen fun literal => ?_
  refine (ask_routine (hask (.tableStatus database filter) literal)).andThen fun r => ?_
  rcases r with _ | r
  · exact .pure _
  · exact .ofFault _

theorem allTables_routine (database : String) (filter : Sql.TableFilter) :
    Routine desk l (desk.allTables database filter role) := by
  unfold allTables
  have hlast (tables : List TableStatus) : Routine desk l
      (if tables.isEmpty then desk.statusTables database filter role else return tables) := by
    split
    · exact statusTables_routine hask database filter
    · exact .pure _
  split
  · exact (Routine.pure _).andThen hlast
  · exact (catalogTables_routine hask database filter).andThen hlast

theorem tables_routine (htables : l.changes .tables) (database : String)
    (filter : Sql.TableFilter) (view : TableView) :
    Routine desk l (desk.tables database filter view role) := by
  rcases hcolumn : TableField.ofShowColumn? view.sortBy with _ | field
  · rw [desk.tables_of_unknown database filter role hcolumn]
    exact .throw _
  · rw [desk.tables_of_known database filter role hcolumn]
    refine (Routine.ofExcept _).andThen fun order => ?_
    refine (allTables_routine hask database filter).andThen fun all => ?_
    refine (Routine.ofFault _).andThen fun found => ?_
    exact (rememberTables_routine htables _ _).andThen fun _ => .pure _

theorem tableNames_routine (database : String) :
    Routine desk l (desk.tableNames database role) := by
  unfold tableNames
  refine (ask_routine (hask (.tableNames database) id)).andThen fun r => ?_
  refine (namesOf_routine r).andThen fun names => ?_
  split
  · exact .ofFault _
  · exact .pure _

theorem columns_routine (database table : String) (full : Bool) :
    Routine desk l (desk.columns database table full role) := by
  unfold columns
  refine (ask_routine (hask (.columns full database table) id)).andThen fun r => ?_
  rcases r with _ | r
  · exact .pure _
  · exact .pure _

end Tables

/-! ## Databases -/

section Databases

variable (hnames : l.asks Sql.databaseNames .user) (hdatabases : l.changes .databases)

include hnames hdatabases

theorem databaseNames_routine : Routine desk l desk.databaseNames := by
  unfold databaseNames
  refine .consult (fun _ _ => rfl) fun m => ?_
  split
  · exact .pure _
  · refine (ask_routine hnames).andThen fun r => ?_
    refine (namesOf_routine r).andThen fun all => ?_
    refine (Routine.ofExcept _).bind fun names hvisible => ?_
    obtain ⟨s, hvisible⟩ := hvisible
    rw [run_ofExcept] at hvisible
    exact (Routine.remember (.databases hvisible) hdatabases).andThen fun _ => .pure _

variable {role : Role}

theorem catalogDatabases_routine
    (hcatalog : ∀ literal totals filter, l.asks (Sql.catalogDatabases literal totals filter) role)
    (like : Option String) (totals : Bool) :
    Routine desk l (desk.catalogDatabases like totals role) := by
  rw [catalogDatabases_eq]
  have hfilter : Routine desk l (desk.catalogFilter like) := by
    cases like with
    | some pattern => exact .pure _
    | none => exact (databaseNames_routine hnames hdatabases).map _
  refine hfilter.andThen fun filter => ?_
  unfold filteredDatabases
  split
  · exact .pure _
  · refine (literal_routine _).andThen fun literal => ?_
    refine (ask_routine (hcatalog _ _ _)).andThen fun r => ?_
    rcases r with _ | r
    · exact .pure _
    · exact .ofFault _

omit hnames hdatabases in
theorem statsOf_routine (hcollation : ∀ name, Routine desk l (desk.databaseCollation name))
    (hstatus : ∀ name, l.asks (Sql.allTableStatus name) role) (totals : Bool) (name : String) :
    Routine desk l (desk.statsOf totals role name) := by
  unfold statsOf
  refine (hcollation name).andThen fun collation => ?_
  split
  · exact .pure _
  · refine (ask_routine (hstatus name)).andThen fun r => ?_
    rcases r with _ | r
    · exact .pure _
    · exact .ofFault _

theorem statusDatabases_routine (hcollation : ∀ name, Routine desk l (desk.databaseCollation name))
    (hlike : ∀ literal pattern, l.asks (Sql.databaseNamesLike literal pattern) role)
    (hstatus : ∀ name, l.asks (Sql.allTableStatus name) role) (like : Option String)
    (totals : Bool) : Routine desk l (desk.statusDatabases like totals role) := by
  rw [statusDatabases_eq]
  have hlisted : Routine desk l (desk.statusNames like role) := by
    cases like with
    | none => exact databaseNames_routine hnames hdatabases
    | some pattern =>
      refine (literal_routine _).andThen fun literal => ?_
      exact (ask_routine (hlike _ _)).andThen namesOf_routine
  exact hlisted.andThen fun names => .mapM fun name _ =>
    statsOf_routine hcollation hstatus totals name

theorem databases_routine (hmake : ∀ link database, l.makes (.selectDb link database))
    (hselected : l.asks Sql.databaseCollation .user)
    (hcatalog : ∀ literal totals filter, l.asks (Sql.catalogDatabases literal totals filter) role)
    (hlike : ∀ literal pattern, l.asks (Sql.databaseNamesLike literal pattern) role)
    (hstatus : ∀ name, l.asks (Sql.allTableStatus name) role) (like : Option String)
    (totals : Bool) (view : DatabaseView) :
    Routine desk l (desk.databases like totals view role) := by
  rcases hcolumn : databaseColumns.contains view.sortBy with _ | _
  · rw [desk.databases_of_unknown like totals role hcolumn]
    exact .throw _
  · rw [desk.databases_of_known like totals role hcolumn]
    have hall : Routine desk l (desk.allDatabases like totals role) := by
      unfold allDatabases
      split
      · rename_i hoff
        have hcollation (name : String) : Routine desk l (desk.databaseCollation name) :=
          databaseCollation_routine hmake (fun hon => absurd (hoff.symm.trans hon) (by decide))
            fun _ => hselected
        exact statusDatabases_routine hnames hdatabases hcollation hlike hstatus like totals
      · exact catalogDatabases_routine hnames hdatabases hcatalog like totals
    refine (Routine.ofExcept _).andThen fun order => hall.andThen fun all => ?_
    exact (Routine.ofFault _).andThen fun sorted => .pure _

end Databases

/-! ## Descriptions -/

theorem descriptions_routine
    (hask : ∀ table literal, l.asks (Sql.descriptionsOf table literal) .control)
    (database : String) : Routine desk l (desk.descriptions database) := by
  unfold descriptions
  split
  · exact .pure _
  · refine (literal_routine _).andThen fun literal => ?_
    exact .statement (hask _ _) fun h => absurd h Bool.false_ne_true

theorem columnMap_routine {sql : String} (hask : l.asks sql .user)
    (haffected : l.changes .affected) (names : List String) :
    Routine desk l (desk.columnMap sql names) := by
  unfold columnMap
  refine (Routine.statement hask fun _ => haffected).andThen fun r => ?_
  rcases r with _ | r
  · exact .pure _
  · dsimp only
    split
    · exact .pure _
    · split
      · exact .pure _
      · exact .pure _

theorem copyStatement_routine (data : ResultSet) (columns : List Row) (view database : String) :
    Routine desk l (desk.copyStatement data columns view database) := by
  unfold copyStatement
  split
  · exact .pure _
  · exact (literal_routine _).andThen fun literal => .pure _

/-! ## Requests -/

theorem user_of_databases {like : Option String} {totals : Bool} {view : DatabaseView} {role : Role}
    {sql : String} (h : sql = Sql.databaseNames ∨ sql = Sql.databaseCollation) :
    Role.user = (Request.databases like totals view role).roleOf sql := (if_pos h).symm

/-- The statements of a listing of databases that begin otherwise than those that are run as the
user. -/
theorem roleOf_databases {like : Option String} {totals : Bool} {view : DatabaseView} {role : Role}
    {start sql : String} (h : start.toList <+: sql.toList)
    (hnames : ¬ start.toList <+: Sql.databaseNames.toList)
    (hcollation : ¬ start.toList <+: Sql.databaseCollation.toList) :
    role = (Request.databases like totals view role).roleOf sql := by
  have hne : ¬ (sql = Sql.databaseNames ∨ sql = Sql.databaseCollation) := by
    rintro (rfl | rfl)
    · exact hnames h
    · exact hcollation h
  exact (if_neg hne).symm

/-- A request that does not look at the statement log is put together from deeds of its strict
licence. -/
theorem perform_strict (r : Request) (h : readsLog r = false) :
    Routine desk (strictLicence r) (desk.perform r) := by
  have hany {part : Part} (hpart : part ∈ parts r) : (strictLicence r).changes part := hpart
  have hsilent {a : Act σ Unit} (ha : Routine desk (strictLicence r) a) :
      Routine desk (strictLicence r) (silently a) := ha.andThen fun _ => .pure _
  have hown {sql : String} {role : Role} (hrole : role = r.roleOf sql) (h : Builds r sql) :
      (strictLicence r).asks sql role := ⟨hrole, h⟩
  -- one case per request; a question of the desk's own is licensed by what it is built of, a
  -- statement that is handed in as that statement
  cases r with
  | connect role server =>
    exact (connect_routine (fun _ h => hown rfl (.setUp (by simp [parts]) h))
      (hany (by simp [parts])) (hany (by simp [parts])) (hany (by simp [parts])) (fun _ => trivial)
      (hany (by simp [parts])) role server).map _
  | close role => exact hsilent (close_routine (fun _ => trivial) (hany (by simp [parts])) role)
  | closeAll => exact hsilent (closeAll_routine (fun _ => trivial) (hany (by simp [parts])))
  | isConnected role => exact (Routine.consult (fun _ _ => rfl) fun _ => .pure _).map _
  | link role => exact .consult (fun _ _ => rfl) fun _ => .pure _
  | setLink role link => exact hsilent (setLink_routine (hany (by simp [parts])) role link)
  | postConnect server =>
    exact hsilent (postConnect_routine (fun _ h => hown rfl (.setUp (by simp [parts]) h))
      (hany (by simp [parts])) (hany (by simp [parts])) (hany (by simp [parts])) server)
  | setVersion row => exact hsilent (setVersion_routine (hany (by simp [parts])) row)
  | version | isMariadb | isPercona => exact .consult (fun _ _ => rfl) fun _ => .pure _
  | query sql role unbuffered keep =>
    have hkeep (hk : keep = true) :
        (strictLicence (.query sql role unbuffered keep)).changes .affected :=
      hany (by simp [parts, hk])
    exact (query_routine (hown rfl (.handed rfl)) hkeep unbuffered).andThen fun _ => .pure _
  | tryQuery sql role unbuffered keep =>
    exact (Routine.statement (hown rfl (.handed rfl)) fun hk => hany (by simp [parts, hk])).map _
  | queryAsControlUser sql unbuffered =>
    exact (query_routine (hown rfl (.handed rfl)) (fun hk => absurd hk Bool.false_ne_true)
      unbuffered).andThen fun _ => .pure _
  | tryQueryAsControlUser sql unbuffered =>
    exact (Routine.statement (hown rfl (.handed rfl)) fun hk => absurd hk Bool.false_ne_true).map _
  | prepare sql role => exact (prepare_routine (fun _ _ => trivial) sql role).map _
  | fetchValue sql column role => exact (fetchValue_routine (hown rfl (.handed rfl)) column).map _
  | fetchRow sql role => exact (fetchRow_routine (hown rfl (.handed rfl))).andThen fun _ => .pure _
  | fetchMapping sql role =>
    exact (fetchMapping_routine (hown rfl (.handed rfl))).andThen fun _ => .pure _
  | fetchList sql value role =>
    exact (fetchList_routine (hown rfl (.handed rfl)) value).andThen fun _ => .pure _
  | fetchKeyed sql key value role =>
    exact (fetchKeyed_routine (hown rfl (.handed rfl)) key value).andThen fun _ => .pure _
  | selectDb database role => exact (selectDb_routine (fun _ _ => trivial) database role).map _
  | errorText role => exact (errorText_routine role).map _
  | affectedRows role remembered => exact (affectedRows_routine role remembered).map _
  | escapeString text role => exact (Routine.inspect (fun _ _ _ => rfl) fun _ => .pure _).map _
  | quoteString text role => exact (literal_routine role).andThen fun _ => .pure _
  | currentUser => exact (currentUser_routine (hany (by simp [parts])) (hown rfl (.fact rfl))).map _
  | userAndHost =>
    exact (userAndHost_routine (hany (by simp [parts])) (hown rfl (.fact rfl))
      (hany (by simp [parts]))).map _
  | isAmazonHosted =>
    exact (isAmazonHosted_routine (hany (by simp [parts])) (hown rfl (.fact rfl))).map _
  | lowerCaseNames =>
    exact (lowerCaseNames_routine (hown rfl (.fact rfl)) (hany (by simp [parts]))).map _
  | databaseCollation database =>
    refine (databaseCollation_routine (fun _ _ => trivial) (fun _ literal => ?_) fun _ => ?_).map _
    · exact hown rfl (.query (.catalogCollation database) literal)
    · exact hown rfl (.query .selectedCollation id)
  | serverCollation => exact ((fetchValue_routine (hown rfl .serverCollation) _).map _).map _
  | setCollation collation =>
    exact hsilent (setCollation_routine (fun name => hown rfl (.collation (by simp [parts]) name))
      (hany (by simp [parts])) collation)
  | tables database filter view role =>
    exact (tables_routine (fun q literal => hown rfl (.query q literal)) (hany (by simp [parts]))
      database filter view).map _
  | knownTable database table => exact (Routine.consult (fun _ _ => rfl) fun _ => .pure _).map _
  | knownRow database table =>
    exact (Routine.consult (fun _ _ => rfl) fun _ => .pure _).andThen fun _ => .pure _
  | forgetTables => exact hsilent (.remember (.tables fun _ => []) (hany (by simp [parts])))
  | tableNames database role =>
    exact (tableNames_routine (fun q literal => hown rfl (.query q literal)) database).map _
  | columns database table full role =>
    exact (columns_routine (fun q literal => hown rfl (.query q literal)) database table full).map _
  | databaseNames =>
    exact (databaseNames_routine (hown rfl (.query .databaseNames id))
      (hany (by simp [parts]))).map _
  | resetDatabases => exact hsilent (.remember .forgetDatabases (hany (by simp [parts])))
  | databases like totals view role =>
    refine (databases_routine ?_ (hany (by simp [parts])) (fun _ _ => trivial) ?_ ?_ ?_ ?_ like
      totals view).map _
    · exact hown (user_of_databases (.inl rfl)) (.query .databaseNames id)
    · exact hown (user_of_databases (.inr rfl)) (.query .selectedCollation id)
    · intro literal totals filter
      have hopens := Sql.prefix_catalogDatabases literal totals filter
      exact hown (roleOf_databases hopens (by decide) (by decide))
        (.query (.catalogDatabases totals filter) literal)
    · intro literal pattern
      have hopens := Sql.prefix_databaseNamesLike literal pattern
      exact hown (roleOf_databases hopens (by decide) (by decide))
        (.query (.databaseNamesLike pattern) literal)
    · intro name
      have hopens := Sql.prefix_allTableStatus name
      exact hown (roleOf_databases hopens (by decide) (by decide))
        (.query (.allTableStatus name) id)
  | descriptions database =>
    exact (descriptions_routine (fun table literal => hown rfl (.descriptions table literal))
      database).map _
  | columnMap sql names =>
    exact (columnMap_routine (hown rfl (.handed rfl)) (hany (by simp [parts])) names).andThen
      fun _ => .pure _
  | useDatabase database =>
    exact hsilent (.remember (.useDatabase database) (hany (by simp [parts])))
  | session r => exact (performSession_routine (hany (by simp [parts])) r).map _
  | statements | statementTotals => cases h
  | clearStatements => exact hsilent (.remember .clearLog (hany (by simp [parts])))

/-- A request that does not look at the statement log is put together from deeds of its licence. -/
theorem perform_routine (r : Request) (h : readsLog r = false) :
    Routine desk (licence r) (desk.perform r) := by
  have hasks (sql : String) (role : Role) (hask : (strictLicence r).asks sql role) :
      (licence r).asks sql role := ⟨hask.1, hask.2.mayRun⟩
  exact (perform_strict r h).mono hasks (fun _ => id) fun _ => id

variable {R : DeskState σ → DeskState σ → Prop}

theorem moves_of_routine {r : Request} (hR : desk.Steady l R)
    (hroutine : readsLog r = false → Routine desk l (desk.perform r)) (s : DeskState σ) :
    R s (desk.perform r s).2 := by
  rcases h : readsLog r with _ | _
  · exact (hroutine h).moves hR s
  · cases r with
    | statements | statementTotals => exact hR.refl s
    | _ => cases h

/-- A request stays within a relation that is kept by the deeds of its licence. -/
theorem perform_within {r : Request} (hR : desk.Steady (licence r) R) (s : DeskState σ) :
    R s (desk.perform r s).2 := moves_of_routine hR (perform_routine r) s

theorem perform_within_strict {r : Request} (hR : desk.Steady (strictLicence r) R)
    (s : DeskState σ) : R s (desk.perform r s).2 := moves_of_routine hR (perform_strict r) s

/-- A loose frame that lets the list of visible databases be forgotten or made anew is kept by all
deeds. -/
theorem steady_of_loose (hR : Loose desk.driver (fun _ => True) R)
    (hsee : ∀ all names (s : DeskState σ), visible desk.settings.server all = .ok names →
      R s { s with memory := { s.memory with databases := some names } })
    (hforget : ∀ s : DeskState σ, R s { s with memory := { s.memory with databases := none } }) :
    desk.Steady l R where
  refl := hR.refl
  trans := hR.trans
  post s e := hR.events s [e]
  statement unbuffered s _ _ := desk.measured_moves hR.toFrame trivial _ s
  request s _ _ := hR.request s _ s.memory.log s.world.readings trivial
  change s h _ := by
    cases h with
    | databases hvisible => exact hsee _ _ s hvisible
    | forgetDatabases => exact hforget s
    | _ => exact hR.memory s _ rfl
  storage s storage _ := hR.storage s storage

/-- Every request stays within a frame that lets the driver be asked anything and the list of
visible databases be forgotten or made anew. -/
theorem perform_moves (desk : Desk σ) (hR : Loose desk.driver (fun _ => True) R)
    (hsee : ∀ all names (s : DeskState σ), visible desk.settings.server all = .ok names →
      R s { s with memory := { s.memory with databases := some names } })
    (hforget : ∀ s : DeskState σ, R s { s with memory := { s.memory with databases := none } })
    (r : Request) (s : DeskState σ) : Moves R (desk.perform r) s :=
  perform_within (steady_of_loose hR hsee hforget) s

end Desk

end SqlDesk
