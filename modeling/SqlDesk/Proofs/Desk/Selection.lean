import SqlDesk.Proofs.Desk.Run
import SqlDesk.Proofs.Desk.Visible
import SqlDesk.Proofs.Driver.Selection

/-!
# Collations read from a selected database

Without the catalog a desk reads the collation of a database by selecting it for a moment. What the
server is asked is the collation of the selected database, so the answer is that of another one if
the selection was refused and the question was not. The selection itself is undone: as long as the
current database can be selected again, it is the selected one after everything that reads
collations.
-/

namespace SqlDesk

/-- A request of a driver that only reads. -/
def Call.OnlyReads : Call → Prop
  | .query _ sql _ => Sql.OnlyReads sql
  | _ => False

namespace Sql

theorem onlyReads_catalogCollation (literal : String → String) (database : String) :
    OnlyReads (catalogCollation literal database) := by
  unfold OnlyReads catalogCollation
  simp only [String.toList_append, List.append_assoc]
  exact .inl (List.IsPrefix.trans (by decide +kernel) (List.prefix_append _ _))

theorem onlyReads_catalogDatabases (literal : String → String) (totals : Bool)
    (filter : DatabaseFilter) : OnlyReads (catalogDatabases literal totals filter) :=
  .inl (List.IsPrefix.trans (by decide) (prefix_catalogDatabases literal totals filter))

theorem onlyReads_databaseNamesLike (literal : String → String) (pattern : String) :
    OnlyReads (databaseNamesLike literal pattern) :=
  .inr (List.IsPrefix.trans (by decide) (prefix_databaseNamesLike literal pattern))

theorem onlyReads_allTableStatus (database : String) : OnlyReads (allTableStatus database) :=
  .inr (List.IsPrefix.trans (by decide) (prefix_allTableStatus database))

end Sql

namespace Desk

open Act

variable {σ : Type} (desk : Desk σ) {selected : σ → Link → Option String}
  {collation : Option String → String}

/-! ## One database -/

theorem run_selectDb {role : Role} {link : Link} {s : DeskState σ}
    (hlink : s.memory.linkOf role = some link) (database : String) :
    desk.selectDb database role s =
      request (.selectDb link database) (desk.driver.selectDb database link) s := by
  unfold selectDb
  rw [run_bind, run_memory]
  dsimp only
  rw [hlink]

theorem run_selectDb_unlinked {role : Role} {s : DeskState σ}
    (hlink : s.memory.linkOf role = none) (database : String) :
    desk.selectDb database role s = (.ok false, s) := by
  unfold selectDb
  rw [run_bind, run_memory]
  dsimp only
  rw [hlink]
  rfl

theorem selectDb_memory (database : String) (role : Role) (s : DeskState σ) :
    (desk.selectDb database role s).2.memory = s.memory := by
  rcases hlink : s.memory.linkOf role with _ | link
  · rw [desk.run_selectDb_unlinked hlink]
  · rw [desk.run_selectDb hlink, run_request]

/-- Go back to the current database, if another one was to be selected. -/
def reselect (current database : String) (s : DeskState σ) : DeskState σ :=
  if !current.isEmpty && current != database then (desk.selectDb current .user s).2 else s

section Selecting

variable {desk} (hserver : desk.driver.Selecting selected collation)

include hserver

theorem selectDb_returns (database : String) (s : DeskState σ) :
    ∃ b, (desk.selectDb database .user s).1 = .ok b := by
  rcases hlink : s.memory.linkOf .user with _ | link
  · rw [desk.run_selectDb_unlinked hlink]
    exact ⟨_, rfl⟩
  · rw [desk.run_selectDb hlink, run_request]
    rcases hserver.selectDb database link s.world.journal with ⟨h, -⟩ | ⟨h, -⟩ <;> exact ⟨_, h⟩

omit hserver in
/-- A value is null if it is not asked for, or the statement is refused. -/
theorem fetchValue_unanswered {sql : String} {column : ColumnRef} {role : Role} {s : DeskState σ}
    (hclock : desk.CountsSeconds) (h : ∀ link, s.memory.linkOf role = some link →
      (desk.outcome sql link false s).1 = .ok .failed) :
    (desk.fetchValue sql column role s).1 = .ok .null := by
  have hask : (desk.ask sql role s).1 = .ok none := by
    unfold ask
    rw [run_tryQuery]
    rcases hlink : s.memory.linkOf role with _ | link
    · rfl
    · obtain ⟨span, hspan⟩ := hclock.measurement sql link role false s
      dsimp only
      rw [measured_run, hspan, h link hlink]
      rfl
  unfold fetchValue
  rw [fst_bind, hask]
  rfl

theorem fetchValue_question (hclock : desk.CountsSeconds) {s : DeskState σ} {link : Link}
    (hlink : s.memory.linkOf .user = some link)
    (h : (desk.outcome Sql.databaseCollation link false s).1 ≠ .ok .failed) :
    (desk.fetchValue Sql.databaseCollation (.index 0) .user s).1 =
      .ok (.text (collation (selected s.world.journal.state link))) := by
  obtain ⟨r, hrows, hvalue⟩ := (hserver.question link false s.world.journal).resolve_left h
  have hanswers : desk.Answers Sql.databaseCollation .user s r := ⟨link, hlink, hrows⟩
  unfold fetchValue
  rw [fst_bind, hanswers.ask hclock, Except.ok_bind]
  dsimp only
  rw [run_ofFault, hvalue]
  rfl

theorem fetchValue_returns (hclock : desk.CountsSeconds) (s : DeskState σ) :
    ∃ v, (desk.fetchValue Sql.databaseCollation (.index 0) .user s).1 = .ok v := by
  by_cases h : ∀ link, s.memory.linkOf .user = some link →
      (desk.outcome Sql.databaseCollation link false s).1 = .ok .failed
  · exact ⟨_, fetchValue_unanswered hclock h⟩
  · obtain ⟨link, h⟩ := not_forall.mp h
    obtain ⟨hlink, h⟩ := Classical.not_imp.mp h
    exact ⟨_, fetchValue_question hserver hclock hlink h⟩

/-- Without the catalog the collation of a database is what is read once its selection was tried. -/
theorem run_databaseCollation (hclock : desk.CountsSeconds)
    (hoff : desk.settings.server.disableCatalog = true) (database : String) (s : DeskState σ) :
    let read := desk.fetchValue Sql.databaseCollation (.index 0) .user
      (desk.selectDb database .user s).2
    ∃ v, read.1 = .ok v ∧ desk.databaseCollation database s =
      (.ok (textOrEmpty v), desk.reselect s.memory.currentDatabase database read.2) := by
  intro read
  obtain ⟨v, hv⟩ := fetchValue_returns hserver hclock (desk.selectDb database .user s).2
  refine ⟨v, hv, ?_⟩
  obtain ⟨b, hb⟩ := selectDb_returns hserver database s
  unfold databaseCollation
  rw [hoff, Bool.not_true, if_neg Bool.false_ne_true, run_bind, run_memory]
  dsimp only
  rw [run_bind, run_discard, hb]
  show (desk.fetchValue Sql.databaseCollation (.index 0) .user >>= _)
    (desk.selectDb database .user s).2 = _
  rw [run_bind, show desk.fetchValue Sql.databaseCollation (.index 0) .user
    (desk.selectDb database .user s).2 = (.ok v, read.2) from Prod.ext hv rfl]
  dsimp only
  unfold reselect
  split
  · obtain ⟨b', hb'⟩ := selectDb_returns hserver s.memory.currentDatabase read.2
    rw [run_bind, run_discard, hb']
    rfl
  · rfl

variable (desk selected collation) in
/-- A desk is told the collation of another database: the selection of this one is refused, the
question is answered nevertheless, and the answer is neither nothing nor what it ought to be. -/
def Misreads (database : String) (s : DeskState σ) : Prop :=
  ∃ link, s.memory.linkOf .user = some link ∧
    (desk.driver.selectDb database link s.world.journal).1 = .ok false ∧
    (desk.outcome Sql.databaseCollation link false (desk.selectDb database .user s).2).1 ≠
      .ok .failed ∧
    collation (selected s.world.journal.state link) ≠ "" ∧
    collation (selected s.world.journal.state link) ≠ collation (some database)

/-- The collation that is read is nothing or that of the database, unless that of another one is. -/
theorem databaseCollation_own (hclock : desk.CountsSeconds)
    (hoff : desk.settings.server.disableCatalog = true) (database : String) (s : DeskState σ) :
    ∃ c, (desk.databaseCollation database s).1 = .ok c ∧
      ((c = "" ∨ c = collation (some database)) ↔
        ¬ desk.Misreads selected collation database s) := by
  obtain ⟨v, hv, hrun⟩ := run_databaseCollation hserver hclock hoff database s
  refine ⟨textOrEmpty v, by rw [hrun], ?_⟩
  have hmemory := desk.selectDb_memory database .user s
  by_cases hunanswered : ∀ link, s.memory.linkOf .user = some link →
      (desk.outcome Sql.databaseCollation link false (desk.selectDb database .user s).2).1 =
        .ok .failed
  · obtain rfl := Except.ok.inj (hv.symm.trans
      (fetchValue_unanswered hclock fun link hlink => hunanswered link (hmemory ▸ hlink)))
    refine iff_of_true (.inl rfl) ?_
    rintro ⟨link, hlink, -, hanswered, -⟩
    exact hanswered (hunanswered link hlink)
  · obtain ⟨link, h⟩ := not_forall.mp hunanswered
    obtain ⟨hlink, hanswered⟩ := Classical.not_imp.mp h
    obtain rfl := Except.ok.inj (hv.symm.trans
      (fetchValue_question hserver hclock (hmemory ▸ hlink) hanswered))
    rw [desk.run_selectDb hlink, run_request]
    set tried := desk.driver.selectDb database link s.world.journal
    show collation (selected tried.2.state link) = _ ∨ collation (selected tried.2.state link) = _ ↔ _
    rcases hserver.selectDb database link s.world.journal with
      ⟨hdone, hselected⟩ | ⟨hrefused, hkept⟩
    · rw [hselected, Function.update_self]
      refine iff_of_true (.inr rfl) ?_
      rintro ⟨link', hlink', hrefused, -⟩
      obtain rfl := Option.some.inj (hlink.symm.trans hlink')
      cases hdone.symm.trans hrefused
    · -- a refused selection leaves the collation of what is selected, whatever that is
      rw [hkept]
      constructor
      · rintro hown ⟨link', hlink', -, -, hempty, hother⟩
        obtain rfl := Option.some.inj (hlink.symm.trans hlink')
        exact hown.elim hempty hother
      · intro h
        by_contra hnot
        obtain ⟨hempty, hother⟩ := not_or.mp hnot
        exact h ⟨link, hlink, hrefused, hanswered, hempty, hother⟩

end Selecting

/-! ## Listings -/

/-- The state in which a listing without the catalog has read some of its databases. -/
def listedUpTo (like : Option String) (totals : Bool) (role : Role) (before : List String)
    (s : DeskState σ) : DeskState σ :=
  (before.mapM (desk.statsOf totals role) (desk.statusNames like role s).2).2

/-- What a listing without the catalog shows of a database was read of it, after the databases
before it. -/
theorem split_of_mem_databases (hoff : desk.settings.server.disableCatalog = true)
    {like : Option String} {totals : Bool} {view : DatabaseView} {role : Role} {s : DeskState σ}
    {ds : List DatabaseStats} (h : (desk.databases like totals view role s).1 = .ok ds)
    {e : DatabaseStats} (he : e ∈ ds) :
    ∃ before after, (desk.statusNames like role s).1 = .ok (before ++ e.name :: after) ∧
      (desk.databaseCollation e.name (desk.listedUpTo like totals role before s)).1.map Value.text =
        .ok e.collation := by
  rw [databases_fst] at h
  obtain ⟨all, hall, hds⟩ := mem_of_databaseListing h
  unfold allDatabases at hall
  rw [if_pos hoff, statusDatabases_eq, run_bind] at hall
  rcases hnames : desk.statusNames like role s with ⟨e' | names, t⟩ <;> rw [hnames] at hall
  · cases hall
  · obtain ⟨before, name, after, rfl, hstats⟩ := split_of_mem_mapM hall (hds e he)
    obtain ⟨rfl, hcollation⟩ := desk.facts_of_statsOf hstats
    refine ⟨before, after, rfl, ?_⟩
    unfold listedUpTo
    rw [hnames]
    exact hcollation

/-- Without the catalog, the collation that is read of a database is nothing or its own exactly if
it is not the case that the database cannot be selected and the server answers the question for the
collation nevertheless, of a database that has another one. So it is with every database of a
listing, in the state in which its collation was read. -/
theorem collation_own_iff (hserver : desk.driver.Selecting selected collation)
    (hclock : desk.CountsSeconds) (hoff : desk.settings.server.disableCatalog = true) :
    (∀ database s, ∃ c, (desk.databaseCollation database s).1 = .ok c ∧
      ((c = "" ∨ c = collation (some database)) ↔
        ¬ desk.Misreads selected collation database s)) ∧
    ∀ like totals view role s ds, (desk.databases like totals view role s).1 = .ok ds →
      ∀ e ∈ ds, ∃ before after,
        (desk.statusNames like role s).1 = .ok (before ++ e.name :: after) ∧
        ((e.collation = .text "" ∨ e.collation = .text (collation (some e.name))) ↔
          ¬ desk.Misreads selected collation e.name
            (desk.listedUpTo like totals role before s)) := by
  refine ⟨databaseCollation_own hserver hclock hoff, ?_⟩
  intro like totals view role s ds h e he
  obtain ⟨before, after, hnames, hread⟩ := desk.split_of_mem_databases hoff h he
  obtain ⟨c, hc, hown⟩ := databaseCollation_own hserver hclock hoff e.name
    (desk.listedUpTo like totals role before s)
  rw [hc] at hread
  obtain hcollation : .text c = e.collation := Except.ok.inj hread
  refine ⟨before, after, hnames, ?_⟩
  rw [← hcollation, ← hown, Value.text.injEq, Value.text.injEq]

/-- A server with three databases, one of which may not be selected. -/
def shopServer : SmallServer where
  collations := [("shop", "utf8mb4_bin"), ("archive", "latin1_bin"), ("secret", "ascii_bin")]
  denied := ["secret"]

/-- A desk at this server that does not use the catalog. -/
def shopDesk : Desk (Connector SmallServer.State) where
  driver := Connector.driver shopServer.client
  clock _ := .float (.ofInt 0)
  settings := { server := { disableCatalog := true } }
  scope := ""

/-- The desk once it works on the shop, with some of the statements to come refused. -/
def shopState (refusals : List Bool) : DeskState (Connector SmallServer.State) :=
  (shopDesk.run [.ask (.setLink .user (some ⟨"c"⟩)), .ask (.useDatabase "shop"),
    .ask (.selectDb "shop" .user)]
    ⟨shopDesk.newMemory, { journal := { state := { client := { refusals } } } }⟩).2

theorem shopDesk_selecting :
    shopDesk.driver.Selecting (fun c => c.client.selected) shopServer.collation :=
  Connector.selecting shopServer.client_selecting

theorem shopDesk_countsSeconds : shopDesk.CountsSeconds := fun _ => ⟨_, rfl⟩

theorem permitted_database_own :
    shopDesk.driver.Selecting (fun c => c.client.selected) shopServer.collation ∧
      shopDesk.CountsSeconds ∧ shopDesk.settings.server.disableCatalog = true ∧
      ∃ c, (shopDesk.databaseCollation "archive" (shopState [])).1 = .ok c ∧
        (c = "" ∨ c = "latin1_bin") := by
  refine ⟨shopDesk_selecting, shopDesk_countsSeconds, rfl, ?_⟩
  obtain ⟨c, hc, hown⟩ :=
    (shopDesk.collation_own_iff shopDesk_selecting shopDesk_countsSeconds rfl).1 "archive"
      (shopState [])
  refine ⟨c, hc, hown.mpr ?_⟩
  rintro ⟨link, hlink, hrefused, -⟩
  obtain rfl : ⟨"c"⟩ = link := Option.some.inj hlink
  cases hrefused

/-- A database that may not be selected is shown with the collation of the one that stays so. -/
theorem denied_database_misread :
    shopDesk.driver.Selecting (fun c => c.client.selected) shopServer.collation ∧
      shopDesk.CountsSeconds ∧ shopDesk.settings.server.disableCatalog = true ∧
      shopServer.collation (some "secret") = "ascii_bin" ∧
      (shopDesk.databaseCollation "secret" (shopState [])).1 = .ok "utf8mb4_bin" ∧
      (shopDesk.databases none false {} .user (shopState [])).1.toOption.map
          (List.map fun d => (d.name, d.collation.plain)) =
        some [("archive", "latin1_bin"), ("secret", "utf8mb4_bin"), ("shop", "utf8mb4_bin")] :=
  ⟨shopDesk_selecting, shopDesk_countsSeconds, rfl, rfl, rfl, by decide +kernel⟩

/-! ## The selection afterwards -/

/-- Neither the current database nor what is selected changes. -/
structure LeavesSelection (selected : σ → Link → Option String) (s t : DeskState σ) : Prop where
  current : t.memory.currentDatabase = s.memory.currentDatabase
  link : t.memory.linkOf .user = s.memory.linkOf .user
  selected : selected t.world.journal.state = selected s.world.journal.state

/-- The current database is the selected one of the user's connection. -/
structure Settled (selected : σ → Link → Option String) (current : String) (link : Link)
    (s : DeskState σ) : Prop where
  remembered : s.memory.currentDatabase = current
  linked : s.memory.linkOf .user = some link
  inForce : selected s.world.journal.state link = some current

theorem Settled.of_leaves {current : String} {link : Link} {s t : DeskState σ}
    (h : Settled selected current link s) (hleaves : LeavesSelection selected s t) :
    Settled selected current link t where
  remembered := hleaves.current.trans h.remembered
  linked := hleaves.link.trans h.linked
  inForce := (congrFun hleaves.selected link).trans h.inForce

/-- A current database that is selected stays so. -/
def KeepsSettled (selected : σ → Link → Option String) (current : String) (link : Link)
    (s t : DeskState σ) : Prop :=
  Settled selected current link s → Settled selected current link t

section Settled

variable {desk} (hserver : desk.driver.Selecting selected collation) {current : String}
  {link : Link}

include hserver

theorem leavesSelection_frame : Frame desk.driver Call.OnlyReads (LeavesSelection selected) where
  refl _ := ⟨rfl, rfl, rfl⟩
  trans h h' := ⟨h'.current.trans h.current, h'.link.trans h.link, h'.selected.trans h.selected⟩
  events _ _ := ⟨rfl, rfl, rfl⟩
  request s c log readings hc := by
    cases c with
    | query l sql unbuffered =>
      exact ⟨rfl, rfl, hserver.execute sql l unbuffered s.world.journal hc⟩
    | _ => cases hc

theorem keepsSettled_frame :
    Frame desk.driver Call.OnlyReads (KeepsSettled selected current link) where
  refl _ := id
  trans h h' := h' ∘ h
  events s es h := h.of_leaves ((leavesSelection_frame hserver).events s es)
  request s c log readings hc h :=
    h.of_leaves ((leavesSelection_frame hserver).request s c log readings hc)

/-- The selection of any database leaves that database or the current one. -/
theorem selected_of_selectDb {s : DeskState σ} (h : Settled selected current link s)
    (database : String) :
    selected (desk.selectDb database .user s).2.world.journal.state link = some current ∨
      selected (desk.selectDb database .user s).2.world.journal.state link = some database := by
  rw [desk.run_selectDb h.linked, run_request]
  show selected (desk.driver.selectDb database link s.world.journal).2.state link = _ ∨
    selected (desk.driver.selectDb database link s.world.journal).2.state link = _
  rcases hserver.selectDb database link s.world.journal with ⟨-, hselected⟩ | ⟨-, hkept⟩
  · rw [hselected, Function.update_self]
    exact .inr rfl
  · rw [hkept]
    exact .inl h.inForce

theorem settled_of_reselect (hcurrent : current ≠ "")
    (hagain : ∀ j, (desk.driver.selectDb current link j).1 = .ok true) {database : String}
    {s : DeskState σ} (hremembered : s.memory.currentDatabase = current)
    (hlinked : s.memory.linkOf .user = some link)
    (h : selected s.world.journal.state link = some current ∨
      selected s.world.journal.state link = some database) :
    Settled selected current link (desk.reselect current database s) := by
  unfold reselect
  by_cases hsame : current = database
  · subst hsame
    rw [bne_self_eq_false, Bool.and_false, if_neg Bool.false_ne_true]
    exact ⟨hremembered, hlinked, h.elim id id⟩
  · rw [if_pos (by simp [hcurrent, hsame])]
    have hmemory := desk.selectDb_memory current .user s
    refine ⟨hmemory ▸ hremembered, hmemory ▸ hlinked, ?_⟩
    rw [desk.run_selectDb hlinked, run_request]
    show selected (desk.driver.selectDb current link s.world.journal).2.state link = _
    rcases hserver.selectDb current link s.world.journal with ⟨-, hselected⟩ | ⟨hrefused, -⟩
    · rw [hselected, Function.update_self]
    · cases (hagain _).symm.trans hrefused

/-- A database that is selected to read its collation makes way for the current one again. -/
theorem databaseCollation_keepsSettled (hclock : desk.CountsSeconds) (hcurrent : current ≠ "")
    (hagain : ∀ j, (desk.driver.selectDb current link j).1 = .ok true) (database : String)
    (s : DeskState σ) :
    Moves (KeepsSettled selected current link) (desk.databaseCollation database) s := by
  rcases hcatalog : desk.settings.server.disableCatalog with _ | _
  · refine desk.databaseCollation_moves (keepsSettled_frame hserver) (fun _ _ => ?_) fun hoff => ?_
    · exact Sql.onlyReads_catalogCollation _ _
    · cases hcatalog.symm.trans hoff
  · intro h
    obtain ⟨v, -, hrun⟩ := run_databaseCollation hserver hclock hcatalog database s
    rw [hrun, h.remembered]
    have hmemory := desk.selectDb_memory database .user s
    have hread : LeavesSelection selected (desk.selectDb database .user s).2
        (desk.fetchValue Sql.databaseCollation (.index 0) .user
          (desk.selectDb database .user s).2).2 :=
      desk.fetchValue_moves (leavesSelection_frame hserver) fun _ _ => .inl (by decide)
    refine settled_of_reselect hserver hcurrent hagain ?_ ?_ ?_
    · rw [hread.current, hmemory, h.remembered]
    · rw [hread.link, hmemory, h.linked]
    · rw [hread.selected]
      exact selected_of_selectDb hserver h database

theorem databases_keepsSettled (hclock : desk.CountsSeconds) (hcurrent : current ≠ "")
    (hagain : ∀ j, (desk.driver.selectDb current link j).1 = .ok true) (like : Option String)
    (totals : Bool) (view : DatabaseView) (role : Role) (s : DeskState σ) :
    Moves (KeepsSettled selected current link) (desk.databases like totals view role) s := by
  have hframe : Frame desk.driver Call.OnlyReads (KeepsSettled selected current link) :=
    keepsSettled_frame hserver
  have hnames (s : DeskState σ) : Moves (KeepsSettled selected current link) desk.databaseNames s :=
    desk.databaseNames_moves hframe (fun _ => .inr (by decide))
      (fun _ _ _ _ h => ⟨h.remembered, h.linked, h.inForce⟩) s
  refine desk.databases_moves hframe (fun _ => ?_) (fun _ => ?_) view
  · rw [statusDatabases_eq]
    refine hframe.bind (desk.statusNames_moves hframe (fun _ => hnames s) fun _ _ _ => ?_)
      fun _ _ => ?_
    · exact Sql.onlyReads_databaseNamesLike _ _
    · refine hframe.mapM (fun name _ t => ?_) _
      exact desk.statsOf_moves hframe
        (databaseCollation_keepsSettled hserver hclock hcurrent hagain name)
        (fun _ _ => Sql.onlyReads_allTableStatus name) role t
  · rw [catalogDatabases_eq]
    refine hframe.bind (desk.catalogFilter_moves hframe fun _ => hnames s) fun _ _ => ?_
    exact desk.filteredDatabases_moves hframe fun _ _ => Sql.onlyReads_catalogDatabases _ _ _

end Settled

/-- A request that reads collations of databases. -/
inductive Move.ReadsCollations : Move → Prop
  | collation (database : String) : ReadsCollations (.ask (.databaseCollation database))
  | listing (like : Option String) (totals : Bool) (view : DatabaseView) (role : Role) :
    ReadsCollations (.ask (.databases like totals view role))

/-- Whatever collations are read, one by one or in listings, and whichever statements and selections
of other databases fail meanwhile: the current database is the selected one afterwards. -/
theorem selection_restored (hserver : desk.driver.Selecting selected collation)
    (hclock : desk.CountsSeconds) {current : String} {link : Link} (hcurrent : current ≠ "")
    (hagain : ∀ j, (desk.driver.selectDb current link j).1 = .ok true) {s : DeskState σ}
    (hs : Settled selected current link s) {ms : List Move}
    (hms : ∀ m ∈ ms, m.ReadsCollations) :
    Settled selected current link (desk.run ms s).2 := by
  refine run_keeps (fun m hm t ht => ?_) hs
  cases hms m hm with
  | collation database =>
    exact (databaseCollation_keepsSettled hserver hclock hcurrent hagain database t).map _ ht
  | listing like totals view role =>
    exact (databases_keepsSettled hserver hclock hcurrent hagain like totals view role t).map _ ht

/-- The shop is selected again after a database that may not be selected, after answers that were
refused and after a listing of all databases. -/
theorem shop_selection_restored :
    let moves : List Move :=
      [.ask (.databaseCollation "secret"), .ask (.databaseCollation "archive"),
        .ask (.databases none true {} .user), .ask (.databaseCollation "shop")]
    let start := shopState [false, true, false, true]
    (∀ m ∈ moves, m.ReadsCollations) ∧
      Settled (fun c : Connector SmallServer.State => c.client.selected) "shop" ⟨"c"⟩ start ∧
      (shopDesk.run moves start).2.world.journal.state.client.selected ⟨"c"⟩ = some "shop" := by
  intro moves start
  have hmoves : ∀ m ∈ moves, m.ReadsCollations := by
    simp [moves, Move.ReadsCollations.collation, Move.ReadsCollations.listing]
  have hsettled : Settled (fun c : Connector SmallServer.State => c.client.selected) "shop" ⟨"c"⟩
      start := ⟨rfl, rfl, rfl⟩
  refine ⟨hmoves, hsettled, ?_⟩
  exact (shopDesk.selection_restored shopDesk_selecting shopDesk_countsSeconds (by decide)
    (fun _ => rfl) hsettled hmoves).inForce

end Desk

end SqlDesk
