import SqlDesk.Proofs.Desk.Links

/-!
# With which link literals are made

How a text becomes a literal depends on the connection, so a literal should be made with the link on
which its statement is sent. What depends on the escaping of a link is seen by a desk whose driver
escapes otherwise on all other links: it does the same. Descriptions are asked for and copied as the
control user, with literals of that user's link. Listings of tables and databases may be run as any
role, but their literals are those of the user's link.
-/

namespace SqlDesk

/-- The role as which a request runs its statements. Those with which a listing of databases gets
the names and the collations are run as the user, and have no literals. -/
def Request.sender : Request → Role
  | .query _ role _ _ | .tryQuery _ role _ _ | .prepare _ role | .fetchValue _ _ role
  | .fetchRow _ role | .fetchMapping _ role | .fetchList _ _ role | .fetchKeyed _ _ _ role
  | .selectDb _ role | .errorText role | .affectedRows role _ | .escapeString _ role
  | .quoteString _ role | .tables _ _ _ role | .tableNames _ role | .columns _ _ _ role
  | .databases _ _ _ role => role
  | .queryAsControlUser .. | .tryQueryAsControlUser .. | .descriptions _ => .control
  | _ => .user

/-- The role with whose link a request makes literals, if it makes any. -/
def Request.quoter : Request → Option Role
  | .escapeString _ role | .quoteString _ role => some role
  | .descriptions _ => some .control
  | .connect .. | .postConnect _ | .databaseCollation _ | .setCollation _ | .tables ..
  | .databases .. => some .user
  | _ => none

namespace Desk

open Act

variable {σ α β : Type}

/-- The desk with a driver that escapes otherwise. -/
def withEscape (desk : Desk σ) (escape : σ → Option Link → String → String) : Desk σ :=
  { desk with driver := { desk.driver with escape } }

/-- An escaping is that of the driver on a link. -/
def EscapesLike (desk : Desk σ) (link : Option Link) (escape : σ → Option Link → String → String) :
    Prop := ∀ x text, escape x link text = desk.driver.escape x link text

@[simp] theorem withEscape_settings (desk : Desk σ) (escape : σ → Option Link → String → String) :
    (desk.withEscape escape).settings = desk.settings := rfl

/-- Two operations do the same in all states in which a role has a link, and keep the link. -/
def SameAt (role : Role) (link : Option Link) (a a' : Act σ α) : Prop :=
  ∀ s, s.memory.linkOf role = link → a' s = a s ∧ (a s).2.memory.linkOf role = link

section Rules

variable {role : Role} {link : Option Link}

theorem SameAt.bind {a a' : Act σ α} {f f' : α → Act σ β} (ha : SameAt role link a a')
    (hf : ∀ x, SameAt role link (f x) (f' x)) : SameAt role link (a >>= f) (a' >>= f') := by
  intro s hs
  obtain ⟨hsame, hkept⟩ := ha s hs
  rw [run_bind, run_bind, hsame]
  rcases hrun : a s with ⟨e | x, t⟩ <;> rw [hrun] at hkept
  · exact ⟨rfl, hkept⟩
  · exact hf x t hkept

theorem SameAt.map {a a' : Act σ α} (ha : SameAt role link a a') (f : α → β) :
    SameAt role link (f <$> a) (f <$> a') := by
  rw [map_eq_pure_bind, map_eq_pure_bind]
  exact ha.bind fun x s hs => ⟨rfl, hs⟩

theorem SameAt.silently {a a' : Act σ Unit} (ha : SameAt role link a a') :
    SameAt role link (silently a) (silently a') := ha.bind fun _ _ hs => ⟨rfl, hs⟩

/-- An operation that keeps the links does the same as itself. -/
theorem SameAt.of_routine (desk : Desk σ) {a : Act σ α} (h : desk.Routine .linkless a) :
    SameAt role link a a := by
  intro s hs
  have hlinks := (h.moves keepsLinks_of_linkless s).1
  refine ⟨rfl, ?_⟩
  unfold Memory.linkOf at hs ⊢
  rw [hlinks, hs]

/-- Literals that are made with the link are the same. -/
theorem SameAt.literal {desk : Desk σ} {escape : σ → Option Link → String → String}
    (he : desk.EscapesLike link escape) {f f' : (String → String) → Act σ α}
    (hf : ∀ literal, SameAt role link (f literal) (f' literal)) :
    SameAt role link (desk.literal role >>= f) ((desk.withEscape escape).literal role >>= f') := by
  intro s hs
  have hliteral : (desk.withEscape escape).literalIn role s = desk.literalIn role s := by
    funext text
    unfold literalIn
    rw [hs]
    exact congrArg (fun t => "'" ++ t ++ "'") (he _ _)
  rw [run_bind, run_bind, run_literal, run_literal, hliteral]
  exact hf _ s hs

theorem SameAt.mapM {f f' : α → Act σ β} (h : ∀ x, SameAt role link (f x) (f' x)) (xs : List α) :
    SameAt role link (xs.mapM f) (xs.mapM f') := by
  induction xs with
  | nil => exact fun s hs => ⟨rfl, hs⟩
  | cons x xs ih =>
    rw [List.mapM_cons, List.mapM_cons]
    exact (h x).bind fun y => ih.bind fun ys s hs => ⟨rfl, hs⟩

end Rules

/-! ## Operations with literals of the user -/

section User

variable {desk : Desk σ} {escape : σ → Option Link → String → String} {link : Option Link}
  (he : desk.EscapesLike link escape)

include he

theorem setTimeZone_sameAt (zone : String) :
    SameAt .user link (desk.setTimeZone zone) ((desk.withEscape escape).setTimeZone zone) := by
  unfold setTimeZone
  split
  · exact .of_routine desk (.pure _)
  · refine .literal he fun literal => ?_
    refine .bind (.of_routine desk (ask_routine trivial)) fun r => ?_
    rcases r with _ | r
    · exact .of_routine desk ((errorText_routine _).andThen fun _ => .report _ _ _)
    · exact .of_routine desk (.pure _)

theorem postConnect_sameAt (server : Option ServerSettings) :
    SameAt .user link (desk.postConnect server) ((desk.withEscape escape).postConnect server) := by
  unfold postConnect
  refine .bind (.of_routine desk (readVersion_routine trivial nofun)) fun _ => ?_
  refine .bind (.of_routine desk (setCharset_routine (fun _ _ => trivial) nofun)) fun _ => ?_
  refine .bind (.of_routine desk (setLocale_routine fun _ _ => trivial)) fun _ => ?_
  refine .bind (setTimeZone_sameAt he _) fun _ => ?_
  exact .of_routine desk (.remember .forgetDatabases nofun)

theorem databaseCollation_sameAt (database : String) :
    SameAt .user link (desk.databaseCollation database)
      ((desk.withEscape escape).databaseCollation database) := by
  have hselect (database : String) : Routine desk .linkless (desk.selectDb database .user) :=
    selectDb_routine (fun _ _ => rfl) database .user
  unfold databaseCollation
  rw [withEscape_settings]
  split
  · refine .literal he fun literal => ?_
    exact .of_routine desk ((fetchValue_routine trivial _).andThen fun v => .pure _)
  · refine .of_routine desk (.consult (fun _ _ => rfl) fun m => ?_)
    refine ((hselect _).map _).andThen fun _ => (fetchValue_routine trivial _).andThen fun v => ?_
    split
    · exact ((hselect _).map _).andThen fun _ => .pure _
    · exact .pure _

theorem setCollation_sameAt (collation : String) :
    SameAt .user link (desk.setCollation collation)
      ((desk.withEscape escape).setCollation collation) := by
  unfold setCollation
  refine .bind (fun s hs => ⟨rfl, hs⟩) fun m => ?_
  refine .literal he fun literal => ?_
  refine .bind (.of_routine desk (ask_routine trivial)) fun r => ?_
  rcases r with _ | r
  · exact .of_routine desk ((errorText_routine _).andThen fun _ => .report _ _ _)
  · exact .of_routine desk (.remember (.collation _) nofun)

variable (role : Role)

theorem catalogTables_sameAt (database : String) (filter : Sql.TableFilter) :
    SameAt .user link (desk.catalogTables database filter role)
      ((desk.withEscape escape).catalogTables database filter role) := by
  unfold catalogTables
  refine .literal he fun literal => .bind (.of_routine desk (ask_routine trivial)) fun r => ?_
  rcases r with _ | r
  · exact .of_routine desk (.pure _)
  · exact .of_routine desk (.ofFault _)

theorem statusTables_sameAt (database : String) (filter : Sql.TableFilter) :
    SameAt .user link (desk.statusTables database filter role)
      ((desk.withEscape escape).statusTables database filter role) := by
  unfold statusTables
  refine .literal he fun literal => .bind (.of_routine desk (ask_routine trivial)) fun r => ?_
  rcases r with _ | r
  · exact .of_routine desk (.pure _)
  · exact .of_routine desk (.ofFault _)

theorem allTables_sameAt (database : String) (filter : Sql.TableFilter) :
    SameAt .user link (desk.allTables database filter role)
      ((desk.withEscape escape).allTables database filter role) := by
  unfold allTables
  rw [withEscape_settings]
  have hlast (tables : List TableStatus) : SameAt .user link
      (if tables.isEmpty then desk.statusTables database filter role else return tables)
      (if tables.isEmpty then (desk.withEscape escape).statusTables database filter role
        else return tables) := by
    split
    · exact statusTables_sameAt he role database filter
    · exact .of_routine desk (.pure _)
  split
  · exact .bind (.of_routine desk (.pure _)) hlast
  · exact .bind (catalogTables_sameAt he role database filter) hlast

theorem tables_sameAt (database : String) (filter : Sql.TableFilter) (view : TableView) :
    SameAt .user link (desk.tables database filter view role)
      ((desk.withEscape escape).tables database filter view role) := by
  rcases hcolumn : TableField.ofShowColumn? view.sortBy with _ | field
  · rw [tables_of_unknown _ _ _ _ hcolumn, tables_of_unknown _ _ _ _ hcolumn]
    exact .of_routine desk (.throw _)
  · rw [tables_of_known _ _ _ _ hcolumn, tables_of_known _ _ _ _ hcolumn, withEscape_settings]
    refine .bind (.of_routine desk (.ofExcept _)) fun order => ?_
    refine .bind (allTables_sameAt he role database filter) fun all => ?_
    have hremember (found : Assoc String TableStatus) :
        Routine desk .linkless (rememberTables database found) :=
      rememberTables_routine (by nofun) database found
    exact .of_routine desk ((Routine.ofFault _).andThen fun found =>
      (hremember _).andThen fun _ => .pure _)

theorem filteredDatabases_sameAt (filter : Sql.DatabaseFilter) (totals : Bool) :
    SameAt .user link (desk.filteredDatabases filter totals role)
      ((desk.withEscape escape).filteredDatabases filter totals role) := by
  unfold filteredDatabases
  split
  · exact .of_routine desk (.pure _)
  · refine .literal he fun literal => .bind (.of_routine desk (ask_routine trivial)) fun r => ?_
    rcases r with _ | r
    · exact .of_routine desk (.pure _)
    · exact .of_routine desk (.ofFault _)

theorem catalogDatabases_sameAt (like : Option String) (totals : Bool) :
    SameAt .user link (desk.catalogDatabases like totals role)
      ((desk.withEscape escape).catalogDatabases like totals role) := by
  rw [catalogDatabases_eq, catalogDatabases_eq]
  have hfilter : Routine desk .linkless (desk.catalogFilter like) := by
    cases like with
    | none =>
      have hnames : Routine desk .linkless desk.databaseNames := databaseNames_routine trivial nofun
      exact hnames.map _
    | some pattern => exact .pure _
  exact .bind (.of_routine desk hfilter) fun filter =>
    filteredDatabases_sameAt he role filter totals

theorem statsOf_sameAt (totals : Bool) (name : String) :
    SameAt .user link (desk.statsOf totals role name)
      ((desk.withEscape escape).statsOf totals role name) := by
  unfold statsOf
  refine .bind (databaseCollation_sameAt he name) fun collation => ?_
  split
  · exact .of_routine desk (.pure _)
  · refine .of_routine desk ((ask_routine trivial).andThen fun r => ?_)
    rcases r with _ | r
    · exact .pure _
    · exact .ofFault _

theorem statusDatabases_sameAt (like : Option String) (totals : Bool) :
    SameAt .user link (desk.statusDatabases like totals role)
      ((desk.withEscape escape).statusDatabases like totals role) := by
  rw [statusDatabases_eq, statusDatabases_eq]
  have hnames : SameAt .user link (desk.statusNames like role)
      ((desk.withEscape escape).statusNames like role) := by
    cases like with
    | none => exact .of_routine desk (databaseNames_routine trivial nofun)
    | some pattern =>
      refine .literal he fun literal => ?_
      exact .of_routine desk ((ask_routine trivial).andThen namesOf_routine)
  exact hnames.bind fun names => .mapM (statsOf_sameAt he role totals) names

theorem databases_sameAt (like : Option String) (totals : Bool) (view : DatabaseView) :
    SameAt .user link (desk.databases like totals view role)
      ((desk.withEscape escape).databases like totals view role) := by
  rcases hcolumn : databaseColumns.contains view.sortBy with _ | _
  · rw [databases_of_unknown _ _ _ _ hcolumn, databases_of_unknown _ _ _ _ hcolumn]
    exact .of_routine desk (.throw _)
  · rw [databases_of_known _ _ _ _ hcolumn, databases_of_known _ _ _ _ hcolumn,
      withEscape_settings]
    refine .bind (.of_routine desk (.ofExcept _)) fun order => ?_
    have hall : SameAt .user link (desk.allDatabases like totals role)
        ((desk.withEscape escape).allDatabases like totals role) := by
      unfold allDatabases
      rw [withEscape_settings]
      split
      · exact statusDatabases_sameAt he role like totals
      · exact catalogDatabases_sameAt he role like totals
    exact hall.bind fun all => .of_routine desk ((Routine.ofFault _).andThen fun sorted => .pure _)

end User

/-! ## Operations with literals of the control user -/

section Control

variable {desk : Desk σ} {escape : σ → Option Link → String → String} {link : Option Link}
  (he : desk.EscapesLike link escape)

include he

theorem descriptions_sameAt (database : String) :
    SameAt .control link (desk.descriptions database)
      ((desk.withEscape escape).descriptions database) := by
  unfold descriptions descriptionTable
  rw [withEscape_settings]
  split
  · exact .of_routine desk (.pure _)
  · refine .literal he fun literal => ?_
    exact .of_routine desk (.statement trivial fun h => absurd h Bool.false_ne_true)

theorem copyStatement_sameAt (data : ResultSet) (columns : List Row) (view database : String) :
    SameAt .control link (desk.copyStatement data columns view database)
      ((desk.withEscape escape).copyStatement data columns view database) := by
  unfold copyStatement descriptionTable
  rw [withEscape_settings]
  split
  · exact .of_routine desk (.pure _)
  · exact .literal he fun literal => .of_routine desk (.pure _)

end Control

/-! ## Requests -/

section Requests

variable {desk : Desk σ} {escape : σ → Option Link → String → String} {s : DeskState σ}

/-- A link is set up with literals of its own. -/
theorem setUp_withEscape {role : Role} {server : ServerSettings} {link : Link}
    (he : desk.EscapesLike ((desk.setUp role server link s).2.memory.linkOf .user) escape) :
    (desk.withEscape escape).setUp role server link s = desk.setUp role server link s := by
  have hlinks := ((desk.setUp_routine (l := .linkless) (fun _ _ => trivial) nofun nofun nofun role
    server link).moves keepsLinks_of_linkless s).1
  have hlink : (desk.setUp role server link s).2.memory.linkOf .user = s.memory.linkOf .user :=
    congrArg (fun links => (Assoc.get? links Role.user).getD none) hlinks
  rw [hlink] at he
  unfold setUp
  dsimp only
  by_cases hrole : role = .user
  · rw [if_pos hrole, if_pos hrole, run_bind, run_bind, (postConnect_sameAt he _ s rfl).1]
  · rw [if_neg hrole, if_neg hrole]

theorem connect_withEscape {role : Role} {server : Option ServerSettings}
    (he : desk.EscapesLike ((desk.connect role server s).2.memory.linkOf .user) escape) :
    (desk.withEscape escape).connect role server s = desk.connect role server s := by
  have hasked : (desk.withEscape escape).answerTo role server s = desk.answerTo role server s := rfl
  rw [run_connect] at he ⊢
  rw [run_connect, hasked]
  by_cases hconfigured : desk.Unconfigured role server
  · rw [if_pos hconfigured]
    exact if_pos hconfigured
  · rw [if_neg hconfigured] at he ⊢
    refine (if_neg hconfigured).trans ?_
    rcases hanswer : desk.answerTo role server s with e | _ | link <;> rw [hanswer] at he
    · rfl
    · rfl
    · exact setUp_withEscape he

/-- What a request does depends on the escaping of no link but that of the role with which it makes
literals, as the role has it in the end. -/
theorem perform_withEscape {r : Request}
    (he : ∀ role, r.quoter = some role →
      desk.EscapesLike ((desk.perform r s).2.memory.linkOf role) escape) :
    (desk.withEscape escape).perform r s = desk.perform r s := by
  rcases hmoves : movesLinks r with _ | _
  · -- the links are those of the state in which the literals are made
    simp only [desk.perform_linkOf hmoves] at he
    cases r with
    | connect | close | closeAll | setLink => cases hmoves
    | postConnect server => exact ((postConnect_sameAt (he .user rfl) _).silently s rfl).1
    | databaseCollation database =>
      exact ((databaseCollation_sameAt (he .user rfl) database).map _ s rfl).1
    | setCollation collation =>
      exact ((setCollation_sameAt (he .user rfl) collation).silently s rfl).1
    | tables database filter view role =>
      exact ((tables_sameAt (he .user rfl) role database filter view).map _ s rfl).1
    | databases like totals view role =>
      exact ((databases_sameAt (he .user rfl) role like totals view).map _ s rfl).1
    | descriptions database =>
      exact ((descriptions_sameAt (he .control rfl) database).map _ s rfl).1
    | escapeString text role =>
      exact congrArg (fun t => (Except.ok (Reply.text t), s)) (he role rfl _ text)
    | quoteString text role =>
      exact congrArg (fun t => (Except.ok (Reply.text ("'" ++ t ++ "'")), s)) (he role rfl _ text)
    | _ => rfl
  · cases r with
    | connect role server =>
      have hconnect (d : Desk σ) : d.perform (.connect role server) s =
          (Reply.link <$> (d.connect role server s).1, (d.connect role server s).2) :=
        run_map Reply.link _ s
      rw [hconnect] at he
      rw [hconnect, hconnect, connect_withEscape (he .user rfl)]
    | close | closeAll | setLink => rfl
    | _ => cases hmoves

end Requests

/-! ## The first statement of a listing -/

section First

variable (desk : Desk σ) {s : DeskState σ}

/-- The first request of the driver between two states. -/
def Begins (c : Call) (s t : DeskState σ) : Prop :=
  ∃ rest, t.world.calls = s.world.calls ++ c :: rest

theorem Begins.bind {c : Call} {a : Act σ α} {f : α → Act σ β} (ha : Begins c s (a s).2)
    (hf : ∀ x, desk.Routine .linkless (f x)) : Begins c s ((a >>= f) s).2 := by
  rw [run_bind]
  rcases hrun : a s with ⟨e | x, t⟩ <;> rw [hrun] at ha
  · exact ha
  · obtain ⟨rest, hcalls⟩ := ha
    obtain ⟨-, more, hmore, -⟩ := (hf x).moves keepsLinks_of_linkless t
    exact ⟨rest ++ more, by rw [hmore, hcalls, List.append_assoc, List.cons_append]⟩

theorem concluded_calls (link : Link) (keep : Bool) (ran : Except Error Outcome × DeskState σ) :
    (desk.concluded link keep ran).2.world.calls = ran.2.world.calls := by
  rcases ran with ⟨e | r | _ | _, t⟩ <;> cases keep <;> rfl

theorem begins_ask {sql : String} {role : Role} {link : Link}
    (hlink : s.memory.linkOf role = some link) :
    Begins (.query link sql false) s (desk.ask sql role s).2 := by
  unfold ask Begins
  rw [run_tryQuery, hlink]
  dsimp only
  rw [concluded_calls, measured_run]
  exact ⟨[], rfl⟩

/-- The statement with which a listing of the databases that match a pattern begins. -/
def likeStatement (pattern : String) (s : DeskState σ) : String :=
  let literal := desk.literalIn .user s
  if desk.settings.server.disableCatalog then Sql.databaseNamesLike literal pattern
  else Sql.catalogDatabases literal false (.like pattern)

/-- It ends with the pattern as a literal. -/
theorem likeStatement_ends (off : Bool) : ∃ start, ∀ (desk : Desk σ) pattern (s : DeskState σ),
    desk.settings.server.disableCatalog = off →
      desk.likeStatement pattern s = start ++ desk.literalIn .user s pattern := by
  cases off with
  | true =>
    refine ⟨"SHOW DATABASES LIKE ", fun desk pattern s hoff => ?_⟩
    unfold likeStatement
    rw [hoff]
    rfl
  | false =>
    refine ⟨Sql.catalogColumns false ++ " WHERE s.SCHEMA_NAME LIKE ", fun desk pattern s hon => ?_⟩
    unfold likeStatement
    rw [hon]
    show Sql.catalogColumns false ++ (" WHERE s.SCHEMA_NAME LIKE " ++ _) ++ "" = _
    rw [String.append_empty, String.append_assoc]

theorem begins_allDatabases {role : Role} {link : Link}
    (hlink : s.memory.linkOf role = some link) (pattern : String) :
    Begins (.query link (desk.likeStatement pattern s) false) s
      (desk.allDatabases (some pattern) false role s).2 := by
  unfold allDatabases likeStatement
  dsimp only
  split
  · have hstats (name : String) : desk.Routine .linkless (desk.statsOf false role name) :=
      statsOf_routine (fun _ => databaseCollation_routine (fun _ _ => rfl) (fun _ _ => trivial)
        fun _ => trivial) (fun _ => trivial) false name
    rw [statusDatabases_eq]
    refine Begins.bind desk ?_ fun names => .mapM fun name _ => hstats name
    unfold statusNames
    dsimp only
    rw [run_bind, run_literal]
    exact (desk.begins_ask hlink).bind desk namesOf_routine
  · rw [catalogDatabases_eq]
    unfold catalogFilter filteredDatabases
    dsimp only
    rw [run_bind, run_pure]
    dsimp only
    rw [if_neg nofun, run_bind, run_literal]
    refine (desk.begins_ask hlink).bind desk fun r => ?_
    rcases r with _ | r
    · exact .pure _
    · exact .ofFault _

theorem begins_databases {role : Role} {link : Link} (hlink : s.memory.linkOf role = some link)
    (pattern : String) :
    Begins (.query link (desk.likeStatement pattern s) false) s
      (desk.perform (.databases (some pattern) false {} role) s).2 := by
  have hknown : databaseColumns.contains ({} : DatabaseView).sortBy = true := by decide
  have horder : Order.direction ({} : DatabaseView).order = .ok "ASC" := by rfl
  have hsort (all : List DatabaseStats) : desk.Routine .linkless (do
      let sorted ← ofFault (Order.sortDatabases all "SCHEMA_NAME" "ASC" desk.settings.naturalOrder)
      return Order.page sorted 0 0) := (Routine.ofFault _).andThen fun sorted => .pure _
  show Begins _ s ((Reply.databases <$> desk.databases (some pattern) false {} role) s).2
  rw [snd_map, desk.databases_of_known _ _ _ hknown, horder, run_bind, run_ofExcept]
  exact (desk.begins_allDatabases hlink pattern).bind desk hsort

end First

/-! ## Own literals -/

variable (desk : Desk σ)

/-- What a request does depends on the escaping of no link but that of the role as which it runs its
statements. -/
def OwnLiterals (r : Request) (s : DeskState σ) : Prop :=
  ∀ escape, desk.EscapesLike ((desk.perform r s).2.memory.linkOf r.sender) escape →
    (desk.withEscape escape).perform r s = desk.perform r s

theorem ownLiterals_of_quoter {r : Request} (h : ∀ role, r.quoter = some role → role = r.sender)
    (s : DeskState σ) : desk.OwnLiterals r s := by
  intro escape he
  refine perform_withEscape fun role hrole => ?_
  rw [h role hrole]
  exact he

/-- The escaping of a driver, with a quote too many on the user's link. -/
def misquoted (s : DeskState σ) (x : σ) (link : Option Link) (text : String) : String :=
  if link = s.memory.linkOf .user then desk.driver.escape x link text ++ "'"
  else desk.driver.escape x link text

theorem literalIn_misquoted (s : DeskState σ) (text : String) :
    (desk.withEscape (desk.misquoted s)).literalIn .user s text ≠ desk.literalIn .user s text := by
  show "'" ++ desk.misquoted s _ (s.memory.linkOf .user) text ++ "'" ≠ _
  unfold misquoted literalIn
  rw [if_pos rfl]
  intro h
  have hlength := congrArg String.length h
  simp only [String.length_append] at hlength
  have hquote : "'".length = 1 := rfl
  omega

theorem likeStatement_misquoted (pattern : String) (s : DeskState σ) :
    (desk.withEscape (desk.misquoted s)).likeStatement pattern s ≠
      desk.likeStatement pattern s := by
  obtain ⟨start, hends⟩ := likeStatement_ends (σ := σ) desk.settings.server.disableCatalog
  rw [hends desk _ _ rfl, hends (desk.withEscape (desk.misquoted s)) _ _ rfl]
  exact fun h => desk.literalIn_misquoted s pattern ((String.append_right_inj start).mp h)

/-- A listing of databases is not run with own literals as a role that has another link than the
user. -/
theorem not_ownLiterals {role : Role} {link : Link} {s : DeskState σ}
    (hlink : s.memory.linkOf role = some link) (huser : s.memory.linkOf .user ≠ some link) :
    ¬ desk.OwnLiterals (.databases (some "") false {} role) s := by
  intro hown
  -- the role's link escapes as before, so nothing may change; but the first statement does
  have hsame := hown (desk.misquoted s) fun x text => by
    rw [desk.perform_linkOf rfl]
    exact if_neg fun h => huser (h.symm.trans hlink)
  obtain ⟨rest, hcalls⟩ := desk.begins_databases hlink ""
  obtain ⟨rest', hcalls'⟩ := (desk.withEscape (desk.misquoted s)).begins_databases hlink ""
  rw [hsame, hcalls] at hcalls'
  obtain ⟨hfirst, -⟩ := List.cons.inj (List.append_cancel_left hcalls')
  obtain ⟨-, hstatement, -⟩ := Call.query.inj hfirst
  exact desk.likeStatement_misquoted "" s hstatement.symm

/-- Literals are made with the link on which they are sent by all requests but the listings of
tables and of databases, and so are those of the statement that copies descriptions as the control
user. A listing may be run as any role: as one of which the link is not the user's own, not all
requests have own literals. -/
theorem literals_own_link_iff (s : DeskState σ) :
    (∀ r, (∀ role, r.quoter = some role → role = r.sender) → desk.OwnLiterals r s) ∧
    (∀ data columns view database escape, desk.EscapesLike (s.memory.linkOf .control) escape →
      (desk.withEscape escape).copyStatement data columns view database s =
        desk.copyStatement data columns view database s) ∧
    ∀ role link, s.memory.linkOf role = some link →
      ((∀ r, r.sender = role → desk.OwnLiterals r s) ↔ s.memory.linkOf .user = some link) := by
  refine ⟨fun r h => desk.ownLiterals_of_quoter h s, fun data columns view database escape he =>
    (copyStatement_sameAt he data columns view database s rfl).1, fun role link hlink => ?_⟩
  constructor
  · intro hown
    by_contra huser
    exact desk.not_ownLiterals hlink huser (hown _ rfl)
  · rintro huser r rfl
    -- only listings make literals as another role than they are run as, here with the same link
    have hlisting (hmoves : movesLinks r = false) (hquoter : r.quoter = some .user) :
        desk.OwnLiterals r s := by
      intro escape he
      refine perform_withEscape fun q hq => ?_
      obtain rfl : .user = q := Option.some.inj (hquoter.symm.trans hq)
      simp only [desk.perform_linkOf hmoves] at he ⊢
      rwa [huser, ← hlink]
    cases r with
    | tables | databases => exact hlisting rfl rfl
    | _ => exact desk.ownLiterals_of_quoter (by simp [Request.quoter, Request.sender]) s

/-- Roles that share the link of the user have own literals, and descriptions are asked for with
those of the control user if it has another link. -/
theorem shared_link_own_literals :
    let shared : DeskState Script :=
      ⟨{ links := [(.user, some ⟨"c1"⟩), (.control, some ⟨"c1"⟩)] }, { journal := { state := {} } }⟩
    let apart : DeskState Script :=
      ⟨{ links := [(.user, some ⟨"c1"⟩), (.control, some ⟨"c2"⟩)] }, { journal := { state := {} } }⟩
    (∀ r, r.sender = .control → scripted.OwnLiterals r shared) ∧
      (¬ ∀ r, r.sender = .control → scripted.OwnLiterals r apart) ∧
      scripted.OwnLiterals (.descriptions "shop") apart := by
  intro shared apart
  have hshared := (literals_own_link_iff scripted shared).2.2 .control ⟨"c1"⟩ rfl
  have hapart := literals_own_link_iff scripted apart
  refine ⟨hshared.mpr rfl, fun h => ?_, hapart.1 _ fun role hrole => (Option.some.inj hrole).symm⟩
  exact absurd ((hapart.2.2 .control ⟨"c2"⟩ rfl).mp h) (by decide)

/-- The scripted driver with a link on which backslashes stand for themselves, so that quotes are
doubled there. -/
def doublingDriver : Driver Script :=
  { Script.driver with
    escape := fun x link text =>
      if link = some ⟨"c2"⟩ then String.ofList (text.toList.flatMap fun c =>
        if c = '\'' then [c, c] else [c])
      else Script.driver.escape x link text }

/-- The statement of a request of the driver. -/
def sentOn : Call → Option (String × String)
  | .query link sql _ => some (link.name, sql)
  | _ => none

/-- A listing as the control user sends a literal that ends too early on its link, where the quote
would have to be doubled. -/
theorem control_listing_misquoted :
    let desk : Desk Script := { scripted with driver := doublingDriver }
    let s : DeskState Script :=
      ⟨{ links := [(.user, some ⟨"c1"⟩), (.control, some ⟨"c2"⟩)] }, { journal := { state := {} } }⟩
    let t := (desk.perform (.tables "it's" (.name "") {} .control) s).2
    desk.literalIn .control s "it's" = "'it''s'" ∧
      t.world.calls.filterMap sentOn =
        [("c2", "SELECT * FROM `information_schema`.`TABLES` WHERE `TABLE_SCHEMA` = 'it\\'s'" ++
            " ORDER BY `TABLE_NAME` ASC"),
          ("c2", "SHOW TABLE STATUS FROM `it's`")] ∧
      ¬ desk.OwnLiterals (.tables "it's" (.name "") {} .control) s := by
  intro desk s t
  have hliteral : desk.literalIn .control s "it's" = "'it''s'" := by decide +kernel
  have hsent : t.world.calls.filterMap sentOn =
      [("c2", "SELECT * FROM `information_schema`.`TABLES` WHERE `TABLE_SCHEMA` = 'it\\'s'" ++
          " ORDER BY `TABLE_NAME` ASC"),
        ("c2", "SHOW TABLE STATUS FROM `it's`")] := by decide +kernel
  refine ⟨hliteral, hsent, fun hown => ?_⟩
  have hsame := hown (desk.misquoted s) fun x text => by
    rw [desk.perform_linkOf rfl]
    rfl
  have hother : ((desk.withEscape (desk.misquoted s)).perform
      (.tables "it's" (.name "") {} .control) s).2.world.calls.filterMap sentOn ≠
        t.world.calls.filterMap sentOn := by decide +kernel
  rw [hsame] at hother
  exact hother rfl

end Desk

end SqlDesk
