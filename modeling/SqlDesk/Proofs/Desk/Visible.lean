import SqlDesk.Driver.Script
import SqlDesk.Proofs.Desk.Request
import SqlDesk.Proofs.Order.Sorting
import SqlDesk.Proofs.Sql.Lexer

/-!
# Which databases a listing shows

Settings decide which databases are visible: one of the patterns of visible databases has to match,
and the pattern of hidden ones must not be found. That is how the list of databases is made, and a
listing without a pattern is restricted to that list, from either source. A pattern takes the place
of the list: then the server decides alone.
-/

namespace SqlDesk.Desk

open Act

variable {σ : Type} (desk : Desk σ)

/-! ## Visible databases -/

/-- Settings let a name through. -/
def Shown (server : ServerSettings) (name : String) : Prop :=
  isShown server.onlyDb name = true ∧
    ∃ pattern, hidingPattern server.hideDb = .ok pattern ∧ isHidden pattern name = false

theorem shown_of_visible {server : ServerSettings} {all names : List String}
    (h : visible server all = .ok names) {name : String} (hname : name ∈ names) :
    Shown server name := by
  obtain ⟨pattern, hpattern, h⟩ := Except.bind_eq_ok.mp h
  obtain rfl := Except.ok.inj h
  obtain ⟨hshown, hhidden⟩ := List.mem_filter.mp hname
  exact ⟨(List.mem_filter.mp hshown).2, pattern, hpattern, by simpa using hhidden⟩

/-- The states that a desk comes to: whatever it is asked, and whatever happens to the world between
its operations. -/
inductive Reachable : DeskState σ → Prop where
  | new (world : World σ) : Reachable ⟨desk.newMemory, world⟩
  | perform {s : DeskState σ} (r : Request) (h : Reachable s) : Reachable (desk.perform r s).2
  | world {s : DeskState σ} (world : World σ) (h : Reachable s) : Reachable { s with world }

/-- The databases that a desk remembers are visible. -/
def RemembersShown (s : DeskState σ) : Prop :=
  ∀ names, s.memory.databases = some names → ∀ name ∈ names, Shown desk.settings.server name

/-- What is remembered of the databases stays visible. -/
def KeepsShown (s t : DeskState σ) : Prop := desk.RemembersShown s → desk.RemembersShown t

theorem keepsShown_loose : Loose desk.driver (fun _ => True) desk.KeepsShown where
  refl _ := id
  trans h h' := h' ∘ h
  events _ _ := id
  request _ _ _ _ _ := id
  memory _ _ h hs names hnames := hs names (h ▸ hnames)
  storage _ _ := id

variable {desk} in
theorem Reachable.remembersShown {s : DeskState σ} (h : desk.Reachable s) :
    desk.RemembersShown s := by
  induction h with
  | new world => exact fun names h => absurd h (by simp [newMemory])
  | perform r _ ih =>
    refine desk.perform_moves desk.keepsShown_loose (fun all names s h _ names' hnames => ?_)
      (fun s _ names hnames => absurd hnames (by simp)) r _ ih
    obtain rfl : names = names' := Option.some.inj hnames
    exact fun name hname => shown_of_visible h hname
  | world world _ ih => exact ih

/-- The list of databases of a reachable state has visible ones only. -/
theorem shown_of_databaseNames {s : DeskState σ} (hs : desk.RemembersShown s) {names : List String}
    (h : (desk.databaseNames s).1 = .ok names) {name : String} (hname : name ∈ names) :
    Shown desk.settings.server name := by
  unfold databaseNames at h
  rw [fst_bind, run_memory, Except.ok_bind] at h
  rcases hremembered : s.memory.databases with _ | known <;> rw [hremembered] at h
  · rw [fst_bind] at h
    obtain ⟨r, -, h⟩ := Except.bind_eq_ok.mp h
    rw [fst_bind] at h
    obtain ⟨all, -, h⟩ := Except.bind_eq_ok.mp h
    rw [fst_bind, run_ofExcept] at h
    obtain ⟨shown, hshown, h⟩ := Except.bind_eq_ok.mp h
    obtain rfl : shown = names := Except.ok.inj h
    exact shown_of_visible hshown hname
  · obtain rfl : known = names := Except.ok.inj h
    exact hs _ hremembered _ hname

/-! ## Names and collations of listed databases -/

/-- The tables of a database change its aggregates alone. -/
theorem facts_of_addTables {database : String} {rows : List Row} {stats d : DatabaseStats}
    (h : addTables database rows stats = .ok d) :
    d.name = stats.name ∧ d.collation = stats.collation := by
  have hset (cs : List (DatabaseField × (Value → Except Fault Value))) (e : DatabaseStats) :
      (e.applyChanges cs).1.name = e.name ∧ (e.applyChanges cs).1.collation = e.collation := by
    induction cs generalizing e with
    | nil => exact ⟨rfl, rfl⟩
    | cons c cs ih =>
      rw [DatabaseStats.applyChanges]
      split
      · exact ih _
      · exact ⟨rfl, rfl⟩
  unfold addTables at h
  induction rows generalizing stats with
  | nil =>
    obtain rfl : stats = d := Except.ok.inj h
    exact ⟨rfl, rfl⟩
  | cons row rows ih =>
    rw [List.foldlM_cons] at h
    obtain ⟨e, he, h⟩ := Except.bind_eq_ok.mp h
    obtain ⟨t, -, he⟩ := Except.bind_eq_ok.mp he
    rw [(ih h).1, (ih h).2]
    have hkept := hset (DatabaseStats.changes t) stats
    rcases hadd : stats.addTable t with ⟨e', _ | f⟩ <;> rw [hadd] at he
    · obtain rfl : e' = e := Except.ok.inj he
      rwa [show stats.applyChanges (DatabaseStats.changes t) = _ from hadd] at hkept
    · cases he

theorem facts_of_statsOf {totals : Bool} {role : Role} {name : String} {s : DeskState σ}
    {d : DatabaseStats} (h : (desk.statsOf totals role name s).1 = .ok d) :
    d.name = name ∧ (desk.databaseCollation name s).1.map Value.text = .ok d.collation := by
  unfold statsOf at h
  rw [fst_bind] at h
  obtain ⟨collation, hcollation, h⟩ := Except.bind_eq_ok.mp h
  rw [hcollation]
  cases totals
  · obtain rfl := Except.ok.inj h
    exact ⟨rfl, rfl⟩
  · rw [if_neg (by decide), fst_bind] at h
    obtain ⟨r, -, h⟩ := Except.bind_eq_ok.mp h
    rcases r with _ | r
    · obtain rfl := Except.ok.inj h
      exact ⟨rfl, rfl⟩
    · dsimp only at h
      rw [run_ofFault] at h
      obtain ⟨hname, hkept⟩ := facts_of_addTables (Error.ofFault_eq_ok.mp h)
      exact ⟨hname, by rw [hkept]; rfl⟩

/-- What a listing makes of the databases that were read. -/
def databaseListing (settings : DeskSettings) (view : DatabaseView)
    (read : Except Error (List DatabaseStats)) : Except Error (List DatabaseStats) :=
  if !databaseColumns.contains view.sortBy then
    .error (.refused (unknownSortColumn "database" view.sortBy))
  else do
    let order ← Order.direction view.order
    let all ← read
    let sorted ← Error.ofFault (Order.sortDatabases all view.sortBy order settings.naturalOrder)
    return Order.page sorted view.offset (view.limit.getD settings.maxDbList)

theorem databases_fst (like : Option String) (totals : Bool) (view : DatabaseView) (role : Role)
    (s : DeskState σ) : (desk.databases like totals view role s).1 =
      databaseListing desk.settings view (desk.allDatabases like totals role s).1 := by
  unfold databases databaseListing allDatabases
  by_cases hcolumn : (!databaseColumns.contains view.sortBy) = true
  · rw [if_pos hcolumn, if_pos hcolumn]
    rfl
  · rw [if_neg hcolumn, if_neg hcolumn]
    simp only [fst_bind, run_ofExcept]
    rcases Order.direction view.order with e | order
    · rfl
    · simp only [Except.ok_bind]
      split <;> simp only [fst_bind, run_ofFault] <;> rfl

/-- What a listing shows was read, whatever it is sorted by and however it is cut. -/
theorem mem_of_databaseListing {settings : DeskSettings} {view : DatabaseView}
    {read : Except Error (List DatabaseStats)} {ds : List DatabaseStats}
    (h : databaseListing settings view read = .ok ds) :
    ∃ all, read = .ok all ∧ ∀ d ∈ ds, d ∈ all := by
  unfold databaseListing at h
  split at h
  · cases h
  · obtain ⟨order, -, h⟩ := Except.bind_eq_ok.mp h
    obtain ⟨all, hall, h⟩ := Except.bind_eq_ok.mp h
    obtain ⟨sorted, hsorted, h⟩ := Except.bind_eq_ok.mp h
    obtain rfl := Except.ok.inj h
    have hperm := Order.perm_of_sortWith (Error.ofFault_eq_ok.mp hsorted)
    exact ⟨all, hall, fun d hd => hperm.subset ((Order.page_sublist _ _ _).subset hd)⟩

/-! ## Names that a server answers with -/

/-- The names that a filter lets through, where `likes` tells which patterns match which names. -/
def Admits (likes : String → String → Prop) : Sql.DatabaseFilter → String → Prop
  | .like pattern, name => likes pattern name
  | .names names, name => name ∈ names

/-- The server answers a statement about databases with those only that it asks for. -/
structure HonestServer (likes : String → String → Prop) : Prop where
  catalog : ∀ {totals filter role s r}, desk.Answers
    (Sql.catalogDatabases (desk.literalIn .user s) totals filter) role s r →
    ∀ row ∈ r.fetchMappings.1, ∀ name,
      DatabaseStats.readName (row.column "SCHEMA_NAME") = .ok name → Admits likes filter name
  status : ∀ {pattern role s r names}, desk.Answers
    (Sql.databaseNamesLike (desk.literalIn .user s) pattern) role s r →
    (r.fetchColumn (.index 0)).1 = .ok names → ∀ v ∈ names, likes pattern v.plain

section Honest

variable {desk} {likes : String → String → Prop} (hserver : desk.HonestServer likes)

include hserver

theorem HonestServer.filteredDatabases {filter : Sql.DatabaseFilter} {totals : Bool} {role : Role}
    {s : DeskState σ} {ds : List DatabaseStats}
    (h : (desk.filteredDatabases filter totals role s).1 = .ok ds) {d : DatabaseStats}
    (hd : d ∈ ds) : Admits likes filter d.name := by
  unfold Desk.filteredDatabases at h
  split at h
  · obtain rfl : [] = ds := Except.ok.inj h
    cases hd
  · rw [fst_bind, run_literal, Except.ok_bind, fst_bind] at h
    obtain ⟨_ | r, hask, h⟩ := Except.bind_eq_ok.mp h
    · obtain rfl : [] = ds := Except.ok.inj h
      cases hd
    · dsimp only at h
      rw [run_ofFault, Error.ofFault_eq_ok] at h
      obtain ⟨row, hrow, hread⟩ := Except.mem_of_mapM_eq_ok h hd
      obtain ⟨vs, -, hread⟩ := Except.bind_eq_ok.mp hread
      obtain ⟨name, hname, hread⟩ := Except.bind_eq_ok.mp hread
      obtain rfl := Except.ok.inj hread
      rcases answers_of_ask hask with hanswers | hempty
      · exact hserver.catalog hanswers row hrow name hname
      · have hnone : r.fetchMappings.1 = [] := by
          simp [ResultSet.fetchMappings, ResultSet.remaining, hempty]
        rw [hnone] at hrow
        cases hrow

theorem HonestServer.statusNames {pattern : String} {role : Role} {s : DeskState σ}
    {names : List String} (h : (desk.statusNames (some pattern) role s).1 = .ok names)
    {name : String} (hname : name ∈ names) : likes pattern name := by
  unfold Desk.statusNames at h
  rw [fst_bind, run_literal, Except.ok_bind, fst_bind] at h
  obtain ⟨_ | r, hask, h⟩ := Except.bind_eq_ok.mp h
  · obtain rfl : [] = names := Except.ok.inj h
    cases hname
  · unfold namesOf at h
    rw [fst_bind, run_ofFault] at h
    obtain ⟨vs, hvs, h⟩ := Except.bind_eq_ok.mp h
    rw [Error.ofFault_eq_ok] at hvs
    obtain rfl : vs.map Value.plain = names := Except.ok.inj h
    obtain ⟨v, hv, rfl⟩ := List.mem_map.mp hname
    rcases answers_of_ask hask with hanswers | hempty
    · exact hserver.status hanswers hvs v hv
    · have hnone : (r.fetchColumn (.index 0)).1 = .ok [] := by
        simp [ResultSet.fetchColumn, ResultSet.resolve, ResultSet.remaining, hempty, pure,
          Except.pure]
      rw [hnone] at hvs
      obtain rfl := Except.ok.inj hvs
      cases hv

end Honest

/-! ## Listings -/

theorem catalogFilter_none_fst (s : DeskState σ) :
    (desk.catalogFilter none s).1 = Sql.DatabaseFilter.names <$> (desk.databaseNames s).1 := by
  show ((Sql.DatabaseFilter.names <$> desk.databaseNames : Act σ _) s).1 = _
  rw [run_map]

/-- A listing of databases restricted to names that were given, or that match a pattern. -/
theorem filter_of_databases {likes : String → String → Prop} (hserver : desk.HonestServer likes)
    {like : Option String} {totals : Bool} {view : DatabaseView} {role : Role} {s : DeskState σ}
    {ds : List DatabaseStats} (h : (desk.databases like totals view role s).1 = .ok ds) :
    ∃ filter, (desk.catalogFilter like s).1 = .ok filter ∧
      ∀ d ∈ ds, Admits likes filter d.name := by
  rw [databases_fst] at h
  obtain ⟨all, hall, hds⟩ := mem_of_databaseListing h
  suffices hadmits : ∃ filter, (desk.catalogFilter like s).1 = .ok filter ∧
      ∀ d ∈ all, Admits likes filter d.name by
    obtain ⟨filter, hfilter, hadmits⟩ := hadmits
    exact ⟨filter, hfilter, fun d hd => hadmits d (hds d hd)⟩
  unfold allDatabases at hall
  split at hall
  · rw [statusDatabases_eq, fst_bind] at hall
    obtain ⟨names, hnames, hall⟩ := Except.bind_eq_ok.mp hall
    have hname (d : DatabaseStats) (hd : d ∈ all) : d.name ∈ names := by
      obtain ⟨name, hname, t, hstats⟩ := mem_of_mapM hall hd
      rwa [(desk.facts_of_statsOf hstats).1]
    cases like with
    | none =>
      refine ⟨.names names, ?_, hname⟩
      rw [catalogFilter_none_fst, show (desk.databaseNames s).1 = .ok names from hnames]
      rfl
    | some pattern =>
      exact ⟨.like pattern, rfl, fun d hd => hserver.statusNames hnames (hname d hd)⟩
  · rw [catalogDatabases_eq, fst_bind] at hall
    obtain ⟨filter, hfilter, hall⟩ := Except.bind_eq_ok.mp hall
    exact ⟨filter, hfilter, fun d hd => hserver.filteredDatabases hall hd⟩

/-- The desk with other settings of what is visible. -/
def showing (onlyDb : List String) (hideDb : String) : Desk σ :=
  { desk with settings := { desk.settings with server := { desk.settings.server with
      onlyDb, hideDb } } }

theorem statusDatabases_showing (onlyDb : List String) (hideDb pattern : String) :
    (desk.showing onlyDb hideDb).statusDatabases (some pattern) =
      desk.statusDatabases (some pattern) := rfl

theorem catalogDatabases_showing (onlyDb : List String) (hideDb pattern : String) :
    (desk.showing onlyDb hideDb).catalogDatabases (some pattern) =
      desk.catalogDatabases (some pattern) := rfl

/-- A listing with a pattern does not look at the settings of what is visible. -/
theorem databases_showing (onlyDb : List String) (hideDb pattern : String) (totals : Bool)
    (view : DatabaseView) (role : Role) (s : DeskState σ) :
    ((desk.showing onlyDb hideDb).databases (some pattern) totals view role s).1 =
      (desk.databases (some pattern) totals view role s).1 := by
  rw [databases_fst, databases_fst]
  unfold allDatabases
  rw [statusDatabases_showing, catalogDatabases_showing]
  rfl

/-- How a script escapes, whatever it has come to. -/
def scriptEscape : String → String := Script.driver.escape {} none

theorem faithful_scriptEscape : Sql.Faithful scriptEscape := by
  refine Sql.faithful_flatMap fun c cs => ?_
  unfold Script.escapeChar
  by_cases hmark : c = '\\' ∨ c = '\''
  · rcases hmark with rfl | rfl <;> rfl
  · rw [if_neg hmark]
    obtain ⟨hslash, hquote⟩ := not_or.mp hmark
    exact Sql.scan_plain hquote hslash cs

/-- The driver of a server with two databases, which knows two statements. -/
def pairDriver : Driver Unit where
  connect _ := return none
  selectDb _ _ := return true
  execute sql _ _ := return (
    if sql = Sql.databaseNames then
      .rows { columns := ["Database"], rows := [[.text "app"], [.text "secret"]] }
    else if sql = Sql.databaseNamesLike (Sql.quoted scriptEscape) "secret" then
      .rows { columns := ["Database (secret)"], rows := [[.text "secret"]] }
    else .failed)
  prepare _ _ := return none
  runPrepared _ _ := return .failed
  lastError _ _ := noAnswer
  affected _ _ := 0
  escape _ _ := scriptEscape
  close _ := return

/-- A desk without the catalog that hides one of the databases. -/
def guardedDesk : Desk Unit where
  driver := pairDriver
  clock _ := .float (.ofInt 0)
  settings := { server := { disableCatalog := true, onlyDb := ["app%"] } }
  scope := ""

/-- The desk after it got a user connection. -/
def guardedState : DeskState Unit :=
  (guardedDesk.perform (.setLink .user (some ⟨"c"⟩))
    ⟨guardedDesk.newMemory, { journal := { state := () } }⟩).2

theorem guardedState_reachable : guardedDesk.Reachable guardedState := .perform _ (.new _)

/-- Rows of the server's are the answer to one of the two statements. -/
theorem rows_of_answers {sql : String} {role : Role} {s : DeskState Unit} {r : ResultSet}
    (h : guardedDesk.Answers sql role s r) : sql = Sql.databaseNames ∨
      sql = Sql.databaseNamesLike (Sql.quoted scriptEscape) "secret" ∧
        (r.fetchColumn (.index 0)).1 = .ok [.text "secret"] := by
  obtain ⟨link, -, houtcome⟩ := h
  have hrows : (if sql = Sql.databaseNames then
      Outcome.rows { columns := ["Database"], rows := [[.text "app"], [.text "secret"]] }
    else if sql = Sql.databaseNamesLike (Sql.quoted scriptEscape) "secret" then
      .rows { columns := ["Database (secret)"], rows := [[.text "secret"]] }
    else .failed) = .rows r := Except.ok.inj houtcome
  split at hrows
  · exact .inl ‹_›
  · split at hrows
    · obtain rfl := Outcome.rows.inj hrows
      exact .inr ⟨‹_›, rfl⟩
    · cases hrows

theorem guardedDesk_honest :
    guardedDesk.HonestServer fun pattern name => (Sql.Like.ofText pattern).admits name = true where
  catalog := by
    intro totals filter role s r hanswers
    have hcatalog := Sql.prefix_catalogDatabases (guardedDesk.literalIn .user s) totals filter
    rcases rows_of_answers hanswers with hsql | ⟨hsql, -⟩ <;> rw [hsql] at hcatalog
    · exact absurd hcatalog (by decide)
    · exact absurd hcatalog (by decide)
  status := by
    intro pattern role s r vs hanswers hvs v hv
    rcases rows_of_answers hanswers with hsql | ⟨hsql, hnames⟩
    · have hlonger := Sql.prefix_databaseNamesLike (guardedDesk.literalIn .user s) pattern
      rw [hsql] at hlonger
      exact absurd hlonger (by decide)
    · rw [hnames] at hvs
      obtain rfl := Except.ok.inj hvs
      obtain rfl := List.mem_singleton.mp hv
      have hliteral : Sql.quoted scriptEscape pattern = Sql.quoted scriptEscape "secret" :=
        (String.append_right_inj _).mp hsql
      have hescape : scriptEscape pattern = scriptEscape "secret" :=
        (String.append_right_inj _).mp ((String.append_left_inj _).mp hliteral)
      obtain rfl := faithful_scriptEscape.injective hescape
      decide

end SqlDesk.Desk
