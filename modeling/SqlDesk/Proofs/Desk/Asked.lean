import SqlDesk.Desk.Request
import SqlDesk.Driver.Connector
import SqlDesk.Driver.Script
import SqlDesk.Proofs.Desk.Databases
import SqlDesk.Proofs.Sql.Metadata

/-!
# What listings ask the server

A listing of metadata asks for nothing but what it is meant to ask for. The names that it was given,
and those of the databases that it goes through, are what its statements quote, and the server reads
them back as they are, with every other token fixed by the form of the statement.
-/

namespace SqlDesk.Desk

open Act

variable {σ : Type} (desk : Desk σ)

/-- A listing of metadata. -/
inductive Listing where
  | tables (database : String) (filter : Sql.TableFilter) (view : TableView) (role : Role)
  | columns (database table : String) (full : Bool) (role : Role)
  | tableNames (database : String) (role : Role)
  | databaseCollation (database : String)
  | databases (like : Option String) (totals : Bool) (view : DatabaseView) (role : Role)

def Listing.request : Listing → Request
  | .tables database filter view role => .tables database filter view role
  | .columns database table full role => .columns database table full role
  | .tableNames database role => .tableNames database role
  | .databaseCollation database => .databaseCollation database
  | .databases like totals view role => .databases like totals view role

/-- What a listing that begins in a state asks for. A listing of databases gets the names that it
goes through from the server. -/
inductive Asks (s : DeskState σ) : Listing → Sql.Query → Prop where
  | catalogTables {database : String} {filter : Sql.TableFilter} {view : TableView} {role : Role}
      (h : desk.settings.server.disableCatalog = false) :
      Asks s (.tables database filter view role) (.catalogTables database filter)
  | tableStatus {database : String} {filter : Sql.TableFilter} {view : TableView} {role : Role} :
      Asks s (.tables database filter view role) (.tableStatus database filter)
  | columns {database table : String} {full : Bool} {role : Role} :
      Asks s (.columns database table full role) (.columns full database table)
  | tableNames {database : String} {role : Role} :
      Asks s (.tableNames database role) (.tableNames database)
  | catalogCollation {database : String} (h : desk.settings.server.disableCatalog = false) :
      Asks s (.databaseCollation database) (.catalogCollation database)
  | selectedCollation {database : String} (h : desk.settings.server.disableCatalog = true) :
      Asks s (.databaseCollation database) .selectedCollation
  | databaseNames {totals : Bool} {view : DatabaseView} {role : Role} :
      Asks s (.databases none totals view role) .databaseNames
  | databaseNamesLike {pattern : String} {totals : Bool} {view : DatabaseView} {role : Role}
      (h : desk.settings.server.disableCatalog = true) :
      Asks s (.databases (some pattern) totals view role) (.databaseNamesLike pattern)
  | catalogDatabases {like : Option String} {totals : Bool} {view : DatabaseView} {role : Role}
      {filter : Sql.DatabaseFilter} (h : desk.settings.server.disableCatalog = false)
      (hfilter : (desk.catalogFilter like s).1 = .ok filter) :
      Asks s (.databases like totals view role) (.catalogDatabases totals filter)
  | tablesOf {like : Option String} {view : DatabaseView} {role : Role} {name : String}
      {names : List String} (h : desk.settings.server.disableCatalog = true)
      (hnames : (desk.statusNames like role s).1 = .ok names) (hname : name ∈ names) :
      Asks s (.databases like true view role) (.allTableStatus name)
  | collationOf {like : Option String} {totals : Bool} {view : DatabaseView} {role : Role}
      (h : desk.settings.server.disableCatalog = true) :
      Asks s (.databases like totals view role) .selectedCollation

/-- A request of the driver that is part of a listing: a statement that the listing asks, whose
tokens are those of its form filled with its names, and those of the form alone up to the texts
between quotes, or the selection of a database. -/
def Asked (s : DeskState σ) (l : Listing) : Call → Prop
  | .query _ sql _ => ∃ q ts, desk.Asks s l q ∧ Sql.lex sql = some ts ∧
      Sql.fill q.form.slots q.given = some ts ∧ q.form.shape = some (ts.map Sql.Token.shape)
  | .selectDb .. => True
  | .connect _ | .prepare .. | .close _ => False

section Sent

variable {desk} (hescape : ∀ st link, Sql.Faithful (desk.driver.escape st link))

include hescape

/-- A statement that a listing asks, with literals made in any state, is part of it. -/
theorem Asks.asked {s : DeskState σ} {l : Listing} {q : Sql.Query} (h : desk.Asks s l q)
    (role : Role) (t : DeskState σ) (link : Link) :
    desk.Asked s l (.query link (q.text (desk.literalIn role t)) false) := by
  have hfaithful := hescape t.world.journal.state (t.memory.linkOf role)
  obtain ⟨ts, hlex, hfill⟩ := q.lex_text hfaithful
  exact ⟨q, ts, h, hlex, hfill, Sql.Query.shape_eq hfaithful hfill⟩

theorem tables_sent (database : String) (filter : Sql.TableFilter) (view : TableView)
    (role : Role) (s : DeskState σ) :
    Moves (Sent (desk.Asked s (.tables database filter view role)))
      (desk.tables database filter view role) s := by
  refine desk.tables_moves (sent_loose _) (fun h link t => ?_) (fun link t => ?_) view role s
  · exact (Asks.catalogTables h).asked hescape .user t link
  · exact Asks.tableStatus.asked hescape .user t link

theorem columns_sent (database table : String) (full : Bool) (role : Role) (s : DeskState σ) :
    Moves (Sent (desk.Asked s (.columns database table full role)))
      (desk.columns database table full role) s :=
  desk.columns_moves (sent_loose _).toFrame
    (fun link => Asks.columns.asked hescape role s link) role s

theorem tableNames_sent (database : String) (role : Role) (s : DeskState σ) :
    Moves (Sent (desk.Asked s (.tableNames database role))) (desk.tableNames database role) s :=
  desk.tableNames_moves (sent_loose _).toFrame
    (fun link => Asks.tableNames.asked hescape role s link) role s

theorem databaseCollation_sent (database : String) (s : DeskState σ) :
    Moves (Sent (desk.Asked s (.databaseCollation database)))
      (desk.databaseCollation database) s := by
  refine desk.databaseCollation_moves (sent_loose _).toFrame (fun h link => ?_)
    (fun h link => ⟨?_, fun _ => trivial⟩)
  · exact (Asks.catalogCollation h).asked hescape .user s link
  · exact (Asks.selectedCollation h).asked hescape .user s link

theorem databases_sent (like : Option String) (totals : Bool) (view : DatabaseView) (role : Role)
    (s : DeskState σ) :
    Moves (Sent (desk.Asked s (.databases like totals view role)))
      (desk.databases like totals view role) s := by
  have hR := @sent_loose σ desk.driver (desk.Asked s (.databases like totals view role))
  have hnames (hlike : like = none) :
      Moves (Sent (desk.Asked s (.databases like totals view role))) desk.databaseNames s := by
    refine desk.databaseNames_moves hR.toFrame (fun link => ?_) (fun _ _ _ _ => .of_calls_eq rfl) s
    subst hlike
    exact Asks.databaseNames.asked hescape role s link
  refine desk.databases_moves hR.toFrame (fun hoff => ?_) (fun hon => ?_) view
  · rw [statusDatabases_eq]
    refine hR.bind (desk.statusNames_moves hR.toFrame hnames fun pattern hlike link => ?_)
      fun names hlisted => hR.mapM (fun name hname t => ?_) _
    · subst hlike
      exact (Asks.databaseNamesLike hoff).asked hescape .user s link
    · refine desk.statsOf_moves hR.toFrame (fun u => ?_) (fun htotals link => ?_) role t
      · refine desk.databaseCollation_moves hR.toFrame (fun hon => ?_)
          (fun _ link => ⟨?_, fun _ => trivial⟩)
        · rw [hoff] at hon
          contradiction
        · exact (Asks.collationOf hoff).asked hescape .user s link
      · subst htotals
        exact (Asks.tablesOf hoff hlisted hname).asked hescape .user s link
  · rw [catalogDatabases_eq]
    refine hR.bind (desk.catalogFilter_moves hR.toFrame hnames) fun filter hfilter => ?_
    refine desk.filteredDatabases_moves hR.toFrame fun _ link => ?_
    exact (Asks.catalogDatabases hon hfilter).asked hescape .user _ link

/-- A listing sends the server nothing but statements that it asks, each of which reads as its form
filled with its names and has the shape of the form, whatever the names are. So no name ends the token
that it stands in or adds another one. -/
theorem perform_listing_sent (l : Listing) (s : DeskState σ) :
    Sent (desk.Asked s l) s (desk.perform l.request s).2 := by
  show Moves (Sent (desk.Asked s l)) (desk.perform l.request) s
  cases l with
  | tables database filter view role => exact (tables_sent hescape ..).map _
  | columns database table full role => exact (columns_sent hescape ..).map _
  | tableNames database role => exact (tableNames_sent hescape ..).map _
  | databaseCollation database => exact (databaseCollation_sent hescape ..).map _
  | databases like totals view role => exact (databases_sent hescape ..).map _

end Sent

/-- The escaping of the scripted client library is faithful. -/
theorem faithful_clientScript (st : Connector ClientScript) (link : Option Link) :
    Sql.Faithful ((Connector.driver ClientScript.client).escape st link) := by
  refine Sql.faithful_flatMap fun c cs => ?_
  unfold ClientScript.escapeChar
  by_cases hnul : c.toNat = 0
  · obtain rfl : c = '\x00' := Char.toNat_inj.mp hnul
    rfl
  by_cases hn : c = '\n'
  · subst hn
    rfl
  by_cases hr : c = '\r'
  · subst hr
    rfl
  by_cases heof : c.toNat = 0x1a
  · obtain rfl : c = '\x1a' := Char.toNat_inj.mp heof
    rfl
  by_cases hmark : c = '"' ∨ c = '\'' ∨ c = '\\'
  · rcases hmark with rfl | rfl | rfl <;> rfl
  · rw [if_neg hnul, if_neg hn, if_neg hr, if_neg heof, if_neg hmark]
    have hquote : c ≠ '\'' := fun h => hmark (.inr (.inl h))
    have hslash : c ≠ '\\' := fun h => hmark (.inr (.inr h))
    exact Sql.scan_plain hquote hslash cs

/-- A table whose name is made of quotes and backslashes. -/
theorem quoted_table_sent :
    (∀ st link, Sql.Faithful ((Connector.driver ClientScript.client).escape st link)) ∧
      let desk : Desk (Connector ClientScript) :=
        { driver := Connector.driver ClientScript.client, clock := fun _ => .int 0, scope := "" }
      let listing : Listing := .tables "a`b\\" (.names ["'", "\\'; --", "`"]) {} .user
      let state : DeskState (Connector ClientScript) :=
        ⟨{ links := [(.user, some ⟨"c"⟩)] }, { journal := { state := { client := {} } } }⟩
      Sent (desk.Asked state listing) state (desk.perform listing.request state).2 := by
  refine ⟨faithful_clientScript, ?_⟩
  intro desk listing state
  exact @perform_listing_sent _ desk faithful_clientScript listing state

end SqlDesk.Desk
