import SqlDesk.Proofs.Desk.Pages
import SqlDesk.Proofs.Desk.Version
import SqlDesk.Proofs.Version

/-!
# The setup of a connection

A connection of the user is set up by up to four statements, each of which depends on what the
server has answered to those before it: the version decides on the character set and on whether the
language of messages can be set. The driver may fail any of them. So a setup is described by the
dialogue that it holds, statement by statement with what each of them came to, and by what the desk
remembers of these answers.
-/

namespace SqlDesk

/-! ## What an answer tells of the version -/

/-- The row that an outcome has to offer. -/
def Outcome.firstRow : Outcome → Option Row
  | .rows r => r.fetchMapping.1
  | .done | .failed => none

/-- The version that an answer to the question for it tells, if its row is usable. -/
def Outcome.version (o : Outcome) : Option ServerVersion :=
  match o.firstRow.map fun row => ServerVersion.ofRow (.map row) with
  | some (.ok version) => version
  | _ => none

/-- A memory after the version was asked for. -/
def Memory.told (m : Memory) (o : Outcome) : Memory :=
  { m with version := o.version.getD m.version }

/-- A memory after a character set and a collation were sent. -/
def Memory.named (m : Memory) (names : String × String) (o : Outcome) : Memory :=
  { m with
    charset := if Desk.fails (.ok o) then m.charset else names.1
    collation := if Desk.fails (.ok o) then m.collation else names.2 }

/-- The numbers with which a version text starts are short enough to be read. -/
def ServerVersion.Legible (text : String) : Prop :=
  ∀ major minor patch, versionGroups text.toList = some (major, minor, patch) →
    ∀ digits ∈ [major, minor, patch], digits.length ≤ Text.maxDigits

theorem ServerVersion.versionNumber_of_legible {text : String} (h : Legible text) :
    ∃ n, versionNumber text = .ok n := by
  rcases hgroups : versionGroups text.toList with _ | ⟨major, minor, patch⟩
  · unfold versionNumber
    rw [hgroups]
    exact ⟨0, rfl⟩
  · exact ⟨_, versionNumber_of_short hgroups (h major minor patch hgroups)⟩

/-- A row whose version text has short numbers is read, be it usable or not. -/
theorem ServerVersion.ofRow_of_legible {row : Row}
    (h : ∀ text, rowText (Row.column row "@@version") = some text → Legible text) :
    ∃ version, ofRow (.map row) = .ok version := by
  unfold ofRow
  dsimp only
  rcases htext : rowText (Row.column row "@@version") with _ | text
  · exact ⟨none, rfl⟩
  · dsimp only
    split
    · exact ⟨none, rfl⟩
    · obtain ⟨n, hn⟩ := versionNumber_of_legible (h text htext)
      unfold parse
      rw [hn]
      exact ⟨_, rfl⟩

/-! ## The statements of a setup -/

namespace Sql

/-- The statements that set the language of messages: one if there is a language and the server
knows how to change it. -/
def localeStatements (locale : Option String) (version : Int) : List String :=
  match locale with
  | none => []
  | some l => if l ≠ "" ∧ minimumVersion ≤ version then [setLocale l] else []

/-- The statements that set the time zone: one if there is a zone. -/
def zoneStatements (literal : String → String) (zone : String) : List String :=
  if zone ≠ "" then [setTimeZone (literal zone)] else []

end Sql

namespace Desk

open Act

variable {σ α β : Type} (desk : Desk σ)

/-! ## Dialogues -/

/-- The driver comes to an outcome with each statement on a link. -/
def Responds (link : Link) : Prop :=
  ∀ sql journal, ∃ o, (desk.driver.execute sql link false journal).1 = .ok o

/-- The version text in the answer to the question for the version, if there is one, is legible. -/
def VersionLegible (link : Link) (s : DeskState σ) : Prop :=
  ∀ o row text, (desk.outcome Sql.version link false s).1 = .ok o → o.firstRow = some row →
    ServerVersion.rowText (Row.column row "@@version") = some text → ServerVersion.Legible text

/-- Between two states the statements of a list, and nothing else, were sent on a link, one after
the other, and came to the outcomes that stand beside them. -/
inductive Dialogue (link : Link) :
    DeskState σ → List (String × Outcome) → DeskState σ → Prop where
  | nil (s : DeskState σ) : Dialogue link s [] s
  /-- Something happens of which the driver takes no notice. -/
  | aside {s t u : DeskState σ} {es : List (String × Outcome)}
      (hcalls : t.world.calls = s.world.calls)
      (hdriver : t.world.journal.state = s.world.journal.state) (h : Dialogue link t es u) :
      Dialogue link s es u
  | say {s t u : DeskState σ} {sql : String} {o : Outcome} {es : List (String × Outcome)}
      (ho : (desk.outcome sql link false s).1 = .ok o)
      (hcalls : t.world.calls = s.world.calls ++ [.query link sql false])
      (hdriver : t.world.journal.state = (desk.outcome sql link false s).2.state)
      (h : Dialogue link t es u) : Dialogue link s ((sql, o) :: es) u

variable {desk} {link : Link} {s t u : DeskState σ}

theorem Dialogue.append {es fs : List (String × Outcome)} (h : desk.Dialogue link s es t)
    (h' : desk.Dialogue link t fs u) : desk.Dialogue link s (es ++ fs) u := by
  induction h with
  | nil s => exact h'
  | aside hcalls hdriver _ ih => exact .aside hcalls hdriver (ih h')
  | say ho hcalls hdriver _ ih => exact .say ho hcalls hdriver (ih h')

/-- The requests that were made during a dialogue are its statements. -/
theorem Dialogue.calls_eq {es : List (String × Outcome)} (h : desk.Dialogue link s es t) :
    t.world.calls = s.world.calls ++ es.map fun e => .query link e.1 false := by
  induction h with
  | nil s => simp
  | aside hcalls _ _ ih => rw [ih, hcalls]
  | say _ hcalls _ _ ih => simp [ih, hcalls]

/-- What a desk remembers in a state, the statement log aside. -/
def Remembers (s : DeskState σ) (m : Memory) : Prop := ∃ log, s.memory = { m with log }

theorem remembers_memory (s : DeskState σ) : Remembers s s.memory := ⟨s.memory.log, rfl⟩

theorem Remembers.eq {m : Memory} (h : Remembers s m) :
    s.memory = { m with log := s.memory.log } := by
  obtain ⟨log, h⟩ := h
  rw [h]

theorem Remembers.version_eq {m : Memory} (h : Remembers s m) : s.memory.version = m.version := by
  rw [h.eq]

theorem Remembers.linkOf_eq {m : Memory} (h : Remembers s m) (role : Role) :
    s.memory.linkOf role = m.linkOf role := by
  rw [h.eq]
  rfl

variable (desk) in
/-- An operation returns after a dialogue with the server, and leaves a memory behind. -/
structure Converses (link : Link) (a : Act σ α) (s : DeskState σ) (x : α)
    (es : List (String × Outcome)) (m : Memory) : Prop where
  returns : (a s).1 = .ok x
  dialogue : desk.Dialogue link s es (a s).2
  memory : Remembers (a s).2 m

section Rules

variable {a : Act σ α} {f : α → Act σ β} {x : α} {y : β} {es fs : List (String × Outcome)}
  {m m' : Memory}

theorem Converses.run_bind (h : desk.Converses link a s x es m) :
    (a >>= f) s = f x (a s).2 := by
  have hreturns := h.returns
  rw [Act.run_bind]
  rcases hrun : a s with ⟨e | y, t⟩ <;> rw [hrun] at hreturns
  · cases hreturns
  · obtain rfl : y = x := Except.ok.inj hreturns
    rfl

theorem Converses.bind (ha : desk.Converses link a s x es m)
    (hf : Remembers (a s).2 m → desk.Converses link (f x) (a s).2 y fs m') :
    desk.Converses link (a >>= f) s y (es ++ fs) m' := by
  have hrest := hf ha.memory
  refine ⟨?_, ?_, ?_⟩ <;> rw [ha.run_bind]
  · exact hrest.returns
  · exact ha.dialogue.append hrest.dialogue
  · exact hrest.memory

/-- An operation that the driver takes no notice of. -/
theorem Converses.silent (hreturns : (a s).1 = .ok x)
    (hcalls : (a s).2.world.calls = s.world.calls)
    (hdriver : (a s).2.world.journal.state = s.world.journal.state)
    (hmemory : Remembers (a s).2 m) : desk.Converses link a s x [] m :=
  ⟨hreturns, .aside hcalls hdriver (.nil _), hmemory⟩

theorem converses_pure (hs : Remembers s m) (x : α) :
    desk.Converses link (pure x : Act σ α) s x [] m := .silent rfl rfl rfl hs

theorem converses_memory (hs : Remembers s m) :
    desk.Converses link (memory : Act σ Memory) s s.memory [] m := .silent rfl rfl rfl hs

theorem converses_literal (hs : Remembers s m) :
    desk.Converses link desk.literal s (desk.literalIn .user s) [] m := .silent rfl rfl rfl hs

theorem converses_errorText (hs : Remembers s m) :
    let e := desk.driver.lastError s.world.journal.state (s.memory.linkOf .user)
    desk.Converses link desk.errorText s (if e.number = 0 then "" else formatError e.number e.text)
      [] m := .silent rfl rfl rfl hs

theorem converses_ofFault (hs : Remembers s m) {r : Except Fault α} (h : r = .ok x) :
    desk.Converses link (ofFault r) s x [] m := by
  subst h
  exact converses_pure hs x

theorem converses_report (hs : Remembers s m) (severity : Log.Severity) (message : String)
    (fields : List (String × Value)) :
    desk.Converses link (Act.report severity message fields) s () [] m := .silent rfl rfl rfl hs

/-- To remember something that does not depend on the statement log. -/
theorem converses_remember (hs : Remembers s m) {f : Memory → Memory}
    (hf : ∀ m log, f { m with log } = { f m with log }) :
    desk.Converses link (remember f) s () [] (f m) := by
  obtain ⟨log, hs⟩ := hs
  refine .silent rfl rfl rfl ⟨log, ?_⟩
  rw [← hf, ← hs]
  rfl

end Rules

/-- The literals that are made with a link. -/
theorem literalIn_of_linkOf (desk : Desk σ) {role : Role}
    (h : s.memory.linkOf role = some link) : desk.literalIn role s = fun text =>
      "'" ++ desk.driver.escape s.world.journal.state (some link) text ++ "'" := by
  rw [← h]
  rfl

/-! ## The steps of a setup -/

/-- The result that a statement of a desk's own gives after an outcome. -/
inductive ResultOf : Outcome → Option ResultSet → Prop where
  | rows (r : ResultSet) : ResultOf (.rows r) (some r)
  | done (affected : Int) : ResultOf .done (some (.ofCount affected))
  | failed : ResultOf .failed none

/-- What a row is read from is the first row of the outcome. -/
theorem ResultOf.firstRow {o : Outcome} {r : Option ResultSet} (h : ResultOf o r) :
    (r.bind fun r => r.fetchMapping.1) = o.firstRow := by
  cases h <;> rfl

/-- A version row that can be read is taken over if it is usable. -/
theorem setVersion_converses {m : Memory} (hs : Remembers s m) {row : Value}
    {version : Option ServerVersion} (h : ServerVersion.ofRow row = .ok version) :
    desk.Converses link (setVersion row) s () []
      { m with version := version.getD m.version } := by
  unfold setVersion
  refine (converses_ofFault hs h).bind fun hs => ?_
  cases version with
  | none => exact converses_report hs _ _ _
  | some version =>
    refine (converses_remember hs fun _ _ => rfl).bind fun hs => ?_
    split
    · exact converses_report hs _ _ _
    · exact converses_pure hs ()

theorem resetDatabases_converses {m : Memory} (hs : Remembers s m) :
    desk.Converses link resetDatabases s () [] { m with databases := none } :=
  converses_remember hs fun _ _ => rfl

section Steps

variable (hclock : desk.CountsSeconds) (hdriver : desk.Responds link)

include hclock hdriver

theorem measured_converses (sql : String) {m : Memory} (hs : Remembers s m) :
    ∃ o, (desk.outcome sql link false s).1 = .ok o ∧
      desk.Converses link (desk.measured sql link .user false) s o [(sql, o)] m := by
  obtain ⟨o, ho⟩ := hdriver sql s.world.journal
  obtain ⟨span, hspan⟩ := hclock.measurement sql link .user false s
  refine ⟨o, ho, ?_, ?_, ?_⟩ <;> rw [measured_run]
  · rw [hspan]
    exact ho
  · exact .say ho rfl rfl (.nil _)
  · obtain ⟨log, hs⟩ := hs
    rw [hs]
    exact ⟨_, rfl⟩

variable {m : Memory} (hs : Remembers s m) (hlink : m.linkOf .user = some link)

include hs hlink

theorem ask_converses (sql : String) :
    ∃ o r, ResultOf o r ∧ (desk.outcome sql link false s).1 = .ok o ∧
      desk.Converses link (desk.ask sql) s r [(sql, o)] m := by
  obtain ⟨o, ho, hreturns, hdialogue, hmemory⟩ := measured_converses hclock hdriver sql hs
  have hrun : desk.ask sql .user s =
      desk.concluded link false (desk.measured sql link .user false s) := by
    unfold ask
    rw [run_tryQuery, hs.linkOf_eq, hlink]
  rcases hmeasured : desk.measured sql link .user false s with ⟨answer, t⟩
  rw [hmeasured] at hreturns hdialogue hmemory hrun
  obtain rfl : answer = .ok o := hreturns
  -- what the outcome is like decides on the result only
  cases o with
  | rows r => exact ⟨_, some r, .rows r, ho, by rw [hrun]; rfl, by rwa [hrun], by rwa [hrun]⟩
  | done => exact ⟨_, _, .done _, ho, by rw [hrun]; rfl, by rwa [hrun], by rwa [hrun]⟩
  | failed => exact ⟨_, none, .failed, ho, by rw [hrun]; rfl, by rwa [hrun], by rwa [hrun]⟩

/-- The version is asked for, and the answer decides on what is known of it. -/
theorem readVersion_converses (hlegible : desk.VersionLegible link s) :
    ∃ o, desk.Converses link desk.readVersion s () [(Sql.version, o)] (m.told o) := by
  obtain ⟨o, r, hr, ho, hask⟩ := ask_converses hclock hdriver hs hlink Sql.version
  have hfetch : desk.Converses link (desk.fetchMapping Sql.version) s o.firstRow
      [(Sql.version, o)] m := by
    rw [← hr.firstRow]
    exact hask.bind fun hs => converses_pure hs _
  unfold readVersion
  refine ⟨o, hfetch.bind fun hs => ?_⟩
  unfold Memory.told Outcome.version
  rcases hrow : o.firstRow with _ | row
  · exact converses_report hs _ _ _
  · obtain ⟨version, hversion⟩ := ServerVersion.ofRow_of_legible (hlegible o row · ho hrow)
    rw [Option.map_some, hversion]
    exact setVersion_converses hs hversion

/-- The character set is that of the known version, and is remembered with its collation unless the
statement fails. -/
theorem setCharset_converses :
    let names := defaultCharset m.version.number
    ∃ o, desk.Converses link desk.setCharset s () [(Sql.setNames names.1 names.2, o)]
      (m.named names o) := by
  intro names
  obtain ⟨o, r, hr, -, hask⟩ :=
    ask_converses hclock hdriver hs hlink (Sql.setNames names.1 names.2)
  refine ⟨o, ?_⟩
  unfold setCharset
  refine (converses_memory hs).bind fun _ => ?_
  rw [hs.version_eq]
  refine hask.bind fun hs => ?_
  cases hr with
  | rows r | done n => exact converses_remember hs fun _ _ => rfl
  | failed => exact converses_report hs _ _ _

/-- The language of messages is set if there is one and the known version is recent enough. -/
theorem setLocale_converses :
    ∃ es, es.map Prod.fst = Sql.localeStatements desk.settings.locale m.version.number ∧
      desk.Converses link desk.setLocale s () es m := by
  unfold setLocale Sql.localeStatements
  rcases desk.settings.locale with _ | locale
  · exact ⟨[], rfl, converses_pure hs ()⟩
  · have hguard : (!locale.isEmpty && decide (minimumVersion ≤ s.memory.version.number)) = true ↔
        locale ≠ "" ∧ minimumVersion ≤ m.version.number := by
      rw [hs.version_eq]
      simp
    by_cases hset : locale ≠ "" ∧ minimumVersion ≤ m.version.number
    · obtain ⟨o, r, -, -, hask⟩ := ask_converses hclock hdriver hs hlink (Sql.setLocale locale)
      refine ⟨[(Sql.setLocale locale, o)], (if_pos hset).symm, ?_⟩
      refine (converses_memory hs).bind fun _ => ?_
      rw [if_pos (hguard.mpr hset)]
      exact hask.bind fun hs => converses_pure hs ()
    · refine ⟨[], (if_neg hset).symm, ?_⟩
      refine (converses_memory hs).bind fun hs => ?_
      rw [if_neg (mt hguard.mp hset)]
      exact converses_pure hs ()

/-- The time zone is set if there is one, as a literal of the user. -/
theorem setTimeZone_converses (zone : String) :
    ∃ es, es.map Prod.fst = Sql.zoneStatements (desk.literalIn .user s) zone ∧
      desk.Converses link (desk.setTimeZone zone) s () es m := by
  unfold setTimeZone Sql.zoneStatements
  by_cases hzone : zone = ""
  · subst hzone
    exact ⟨[], rfl, converses_pure hs ()⟩
  · obtain ⟨o, r, hr, -, hask⟩ :=
      ask_converses hclock hdriver hs hlink (Sql.setTimeZone (desk.literalIn .user s zone))
    refine ⟨[(_, o)], (if_pos hzone).symm, ?_⟩
    rw [if_neg (by simpa using hzone)]
    refine (converses_literal hs).bind fun _ => hask.bind fun hs => ?_
    cases hr with
    | rows r | done n => exact converses_pure hs ()
    | failed => exact (converses_errorText hs).bind fun hs => converses_report hs _ _ _

end Steps

/-- A fresh connection of the user is set up by statements that are sent in order, whatever becomes
of those before: the question for the version; the character set for the version that is known then;
the language of messages, if there is one and that version is recent enough; and the time zone, if
there is one. Nothing else is sent, and nothing is raised. Afterwards the desk knows the version
that it was told, if any, and the character set and collation unless the server refused them, and
has forgotten the databases. -/
theorem postConnect_sends_setup (hclock : desk.CountsSeconds) (hdriver : desk.Responds link)
    (hlink : s.memory.linkOf .user = some link) (hlegible : desk.VersionLegible link s)
    (server : Option ServerSettings) :
    let zone := (server.getD desk.settings.server).sessionTimeZone
    let t := (desk.postConnect server s).2
    (desk.postConnect server s).1 = .ok () ∧
      ∃ (answer named : Outcome) (localed zoned : List (String × Outcome)) (u : DeskState σ),
        let version := answer.version.getD s.memory.version
        let names := defaultCharset version.number
        let opening := [(Sql.version, answer), (Sql.setNames names.1 names.2, named)] ++ localed
        let literal (text : String) : String :=
          "'" ++ desk.driver.escape u.world.journal.state (some link) text ++ "'"
        desk.Dialogue link s opening u ∧ desk.Dialogue link u zoned t ∧
        localed.map Prod.fst = Sql.localeStatements desk.settings.locale version.number ∧
        zoned.map Prod.fst = Sql.zoneStatements literal zone ∧
        t.world.calls =
          s.world.calls ++ (opening ++ zoned).map (fun e => .query link e.1 false) ∧
        t.memory =
          { s.memory with
            version
            charset := if fails (.ok named) then s.memory.charset else names.1
            collation := if fails (.ok named) then s.memory.collation else names.2
            databases := none
            log := t.memory.log } := by
  intro zone t
  -- one step after the other, each from the state and the memory that the last one has left
  obtain ⟨answer, hversion⟩ :=
    readVersion_converses hclock hdriver (remembers_memory s) hlink hlegible
  obtain ⟨named, hnames⟩ := setCharset_converses hclock hdriver hversion.memory hlink
  obtain ⟨localed, hlocaled, hlocale⟩ := setLocale_converses hclock hdriver hnames.memory hlink
  obtain ⟨zoned, hzoned, hzone⟩ := setTimeZone_converses hclock hdriver hlocale.memory hlink zone
  have hopening := hversion.dialogue.append (hnames.dialogue.append hlocale.dialogue)
  have hclosing := hzone.bind (f := fun _ => resetDatabases) resetDatabases_converses
  have hrun : desk.postConnect server s = (desk.setTimeZone zone >>= fun _ => resetDatabases)
      (desk.setLocale (desk.setCharset (desk.readVersion s).2).2).2 := by
    unfold postConnect
    rw [hversion.run_bind, hnames.run_bind, hlocale.run_bind]
  rw [desk.literalIn_of_linkOf (hlocale.memory.linkOf_eq .user |>.trans hlink)] at hzoned
  obtain ⟨hreturns, hrest, hmemory⟩ := hclosing
  rw [← hrun] at hreturns hrest hmemory
  rw [List.append_nil] at hrest
  exact ⟨hreturns, answer, named, localed, zoned, _, hopening, hrest, hlocaled, hzoned,
    (hopening.append hrest).calls_eq, hmemory.eq⟩

/-- A server that tells its version, refuses the character set and the time zone, and takes the
language. -/
theorem refused_connection_set_up :
    let answer (sql : String) : Outcome :=
      if sql = Sql.version then
        .rows { columns := ["@@version", "@@version_comment"]
                rows := [[.text "10.6.12-MariaDB", .text "Source distribution"]] }
      else if sql = Sql.setLocale "de_DE" then .done else .failed
    let desk : Desk Unit :=
      { driver := .answering answer, clock := fun _ => .float (.ofInt 0), scope := ""
        settings := { locale := some "de_DE", server := { sessionTimeZone := "UTC" } } }
    let link : Link := ⟨"c"⟩
    let s : DeskState Unit :=
      ⟨{ desk.newMemory with links := [(.user, some link)], databases := some ["shop"] },
        { journal := { state := () } }⟩
    let t := (desk.postConnect none s).2
    (desk.CountsSeconds ∧ desk.Responds link ∧ s.memory.linkOf .user = some link ∧
      desk.VersionLegible link s) ∧
      (desk.postConnect none s).1 = .ok () ∧
      (t.world.calls.map fun c => match c with | .query _ sql _ => sql | _ => "") =
        [Sql.version, "SET NAMES 'utf8mb4' COLLATE 'utf8mb4_general_ci';",
          "SET lc_messages = 'de_DE';", "SET `time_zone` = 'UTC';"] ∧
      t.memory.version.number = 100612 ∧ t.memory.charset = "" ∧ t.memory.collation = "" ∧
      t.memory.databases = none := by
  intro answer desk link s t
  have hclock : desk.CountsSeconds := fun _ => ⟨_, rfl⟩
  have hdriver : desk.Responds link := fun sql _ => ⟨answer sql, rfl⟩
  have hlink : s.memory.linkOf .user = some link := rfl
  have hlegible : desk.VersionLegible link s := by
    intro o row text ho hrow htext major minor patch hgroups
    obtain rfl : answer Sql.version = o := Except.ok.inj ho
    have htold : ((answer Sql.version).firstRow.map fun row =>
        ServerVersion.rowText (Row.column row "@@version")) = some (some "10.6.12-MariaDB") := by
      decide +kernel
    rw [hrow, Option.map_some, htext] at htold
    obtain rfl : text = "10.6.12-MariaDB" := Option.some.inj (Option.some.inj htold)
    have hread : versionGroups "10.6.12-MariaDB".toList =
        some (['1', '0'], ['6'], ['1', '2']) := by decide +kernel
    obtain ⟨rfl, rfl, rfl⟩ : ['1', '0'] = major ∧ ['6'] = minor ∧ ['1', '2'] = patch := by
      rw [hread] at hgroups
      simpa using hgroups
    decide
  exact ⟨⟨hclock, hdriver, hlink, hlegible⟩,
    (postConnect_sends_setup hclock hdriver hlink hlegible none).1, by decide +kernel,
    by decide +kernel, by decide +kernel, by decide +kernel, by decide +kernel⟩

end Desk

end SqlDesk
