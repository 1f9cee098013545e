import SqlDesk.Proofs.Desk.Run
import SqlDesk.Proofs.Driver.Unheeding
import SqlDesk.Proofs.Log.Tally

/-!
# What the statement log of a desk tells

A desk that logs its statements counts each request of its driver that is a statement once, under
the role that it is run as. So at any time the log tells of the statements that were run since it
was cleared: those that the desk recorded as made of its driver, which failed if the driver, led
through the recorded requests, fails them.
-/

namespace SqlDesk

variable {σ : Type}

/-! ## Executions -/

/-- The state of a driver after a request of a desk. -/
def Call.after (d : Driver σ) (x : σ) (c : Call) : σ := (c.effect d { state := x }).state

/-- What the statement log is to tell of a request of a driver in a state: of a statement, its text,
its role and whether it fails. -/
def Call.execution (d : Driver σ) (roleOf : String → Role) (x : σ) : Call → Option Log.Execution
  | .query link sql unbuffered =>
    let failed := Desk.fails (d.execute sql link unbuffered { state := x }).1
    some { query := sql, role := (roleOf sql).tag, failed }
  | _ => none

/-- The executions among requests that are made one after the other. -/
def Driver.executions (d : Driver σ) (roleOf : String → Role) : σ → List Call → List Log.Execution
  | _, [] => []
  | x, c :: cs => (c.execution d roleOf x).toList ++ executions d roleOf (c.after d x) cs

theorem Driver.executions_append (d : Driver σ) (roleOf : String → Role) (x : σ)
    (cs ds : List Call) :
    d.executions roleOf x (cs ++ ds) =
      d.executions roleOf x cs ++ d.executions roleOf (cs.foldl (Call.after d) x) ds := by
  induction cs generalizing x with
  | nil => rfl
  | cons c cs ih =>
    rw [List.cons_append, executions, ih, executions, List.append_assoc, List.foldl_cons]

theorem Driver.Unheeding.effect_state {d : Driver σ} (hd : d.Unheeding) (c : Call)
    (j : Journal σ) : (c.effect d j).state = c.after d j.state := by
  cases c with
  | connect params => exact ((hd.connect params).unreported j).2
  | selectDb link database => exact ((hd.selectDb database link).unreported j).2
  | query link sql unbuffered => exact ((hd.execute sql link unbuffered).unreported j).2
  | prepare link sql => exact ((hd.prepare link sql).unreported j).2
  | close link => exact ((hd.close link).unreported j).2

/-- Whether a request clears the statement log. -/
def Request.clearsLog : Request → Bool
  | .clearStatements => true
  | _ => false

namespace Desk

open Act

variable (desk : Desk σ)

/-- The executions of which the statement log is to tell after a move. -/
def noted (xs : List Log.Execution) (s : DeskState σ) : Move → List Log.Execution
  | .ask r =>
    let calls := (desk.perform r s).2.world.calls.drop s.world.calls.length
    if r.clearsLog then []
    else xs ++ desk.driver.executions r.roleOf s.world.journal.state calls
  | .drive _ => xs

/-- The executions of which the statement log is to tell after a run. -/
def executions (xs : List Log.Execution) : List Move → DeskState σ → List Log.Execution
  | [], _ => xs
  | m :: ms, s => executions (desk.noted xs s m) ms (desk.move s m).2

/-! ## What is counted -/

/-- Between two states, requests were made and those that are statements were counted. -/
def Counts (roleOf : String → Role) (s t : DeskState σ) : Prop :=
  ∃ calls, t.world.calls = s.world.calls ++ calls ∧
    t.world.journal.state = calls.foldl (Call.after desk.driver) s.world.journal.state ∧
    t.memory.log.enabled = s.memory.log.enabled ∧
    t.memory.log.tally =
      if s.memory.log.enabled then
        (desk.driver.executions roleOf s.world.journal.state calls).foldl Log.Tally.counting
          s.memory.log.tally
      else s.memory.log.tally

variable {desk}

theorem Counts.of_eq {roleOf : String → Role} {s t : DeskState σ}
    (hcalls : t.world.calls = s.world.calls)
    (hstate : t.world.journal.state = s.world.journal.state) (hlog : t.memory.log = s.memory.log) :
    desk.Counts roleOf s t := by
  refine ⟨[], by rw [hcalls, List.append_nil], hstate, by rw [hlog], ?_⟩
  rw [hlog]
  split <;> rfl

theorem Counts.trans {roleOf : String → Role} {s t u : DeskState σ}
    (h : desk.Counts roleOf s t) (h' : desk.Counts roleOf t u) : desk.Counts roleOf s u := by
  obtain ⟨cs, hcalls, hstate, henabled, htally⟩ := h
  obtain ⟨ds, hcalls', hstate', henabled', htally'⟩ := h'
  -- the later requests are replayed from the state to which the earlier ones have led the driver
  refine ⟨cs ++ ds, by rw [hcalls', hcalls, List.append_assoc], ?_, henabled'.trans henabled, ?_⟩
  · rw [hstate', hstate, List.foldl_append]
  · rw [htally', htally, henabled, hstate, Driver.executions_append, List.foldl_append]
    split <;> rfl

/-- A statement is counted once. -/
theorem counts_of_measured (hclock : desk.CountsSeconds) (hdriver : desk.driver.Unheeding)
    {roleOf : String → Role} {sql : String} {role : Role} (hrole : role = roleOf sql) (link : Link)
    (unbuffered : Bool) (s : DeskState σ) :
    desk.Counts roleOf s (desk.measured sql link role unbuffered s).2 := by
  obtain ⟨start, hstart⟩ := hclock s.world.readings
  obtain ⟨stop, hstop⟩ := hclock (s.world.readings + 1)
  obtain ⟨hanswer, hstate⟩ := (hdriver.execute sql link unbuffered).unreported s.world.journal
  rw [measured_run]
  unfold measurement outcome
  rw [hstart, hstop, hanswer, hrole]
  refine ⟨[.query link sql unbuffered], rfl, hstate, ?_⟩
  dsimp only
  rcases henabled : s.memory.log.enabled with _ | _
  · rw [Log.StatementLog.measure_disabled henabled]
    exact ⟨henabled, rfl⟩
  · obtain ⟨hstill, htally⟩ := Log.StatementLog.measure_enabled henabled
      ⟨sql, (roleOf sql).tag, fails (desk.driver.execute sql link unbuffered
        { state := s.world.journal.state }).1⟩ start stop
    exact ⟨hstill.trans henabled, htally⟩

theorem counts_steady (hclock : desk.CountsSeconds) (hdriver : desk.driver.Unheeding)
    {roleOf : String → Role} {l : Licence} (hrole : ∀ sql role, l.asks sql role → role = roleOf sql)
    (hlog : ¬ l.changes .log) : desk.Steady l (desk.Counts roleOf) where
  refl _ := .of_eq rfl rfl rfl
  trans h h' := h.trans h'
  post _ _ := .of_eq rfl rfl rfl
  statement unbuffered s hask _ := counts_of_measured hclock hdriver (hrole _ _ hask) _ unbuffered s
  request {c} s hc _ := by
    have hnone : desk.driver.executions roleOf s.world.journal.state [c] = [] := by
      cases c with
      | query => cases hc
      | _ => rfl
    refine ⟨[c], rfl, hdriver.effect_state c s.world.journal, rfl, ?_⟩
    rw [hnone]
    split <;> rfl
  change s h hpart := by
    cases h with
    | clearLog => exact absurd hpart hlog
    | _ => exact .of_eq rfl rfl rfl
  storage _ _ _ := .of_eq rfl rfl rfl

theorem log_notMem_parts {r : Request} (h : r.clearsLog = false) : .log ∉ parts r := by
  cases r with
  | clearStatements => cases h
  | _ => simp [parts]

/-! ## Runs -/

/-- The log tells of executions if it is enabled, and of none if it is not. -/
def Tells (log : Log.StatementLog) (xs : List Log.Execution) : Prop :=
  log.tally = if log.enabled then Log.Tally.ofList xs else []

theorem tells_of_move (hclock : desk.CountsSeconds) (hdriver : desk.driver.Unheeding)
    {xs : List Log.Execution} {s : DeskState σ} (h : Tells s.memory.log xs) (m : Move) :
    Tells (desk.move s m).2.memory.log (desk.noted xs s m) ∧
      (desk.move s m).2.memory.log.enabled = s.memory.log.enabled := by
  cases m with
  | drive r => exact ⟨h, rfl⟩
  | ask r =>
    unfold move noted
    dsimp only
    rcases hclear : r.clearsLog with _ | _
    · obtain ⟨calls, hcalls, -, henabled, htally⟩ :=
        perform_within (counts_steady hclock hdriver (l := licence r) (fun _ _ hask => hask.1)
          (log_notMem_parts hclear)) s
      refine ⟨?_, henabled⟩
      rw [hcalls, List.drop_left]
      unfold Tells at h ⊢
      rw [htally, henabled, h]
      split
      · exact (List.foldl_append ..).symm
      · rfl
    · cases r with
      | clearStatements =>
        refine ⟨?_, rfl⟩
        -- a cleared log tells of no execution, be it enabled or not
        show [] = _
        split <;> rfl
      | _ => cases hclear

theorem tells_of_run (hclock : desk.CountsSeconds) (hdriver : desk.driver.Unheeding)
    {xs : List Log.Execution} {s : DeskState σ} (h : Tells s.memory.log xs) (ms : List Move) :
    Tells (desk.run ms s).2.memory.log (desk.executions xs ms s) ∧
      (desk.run ms s).2.memory.log.enabled = s.memory.log.enabled := by
  induction ms generalizing xs s with
  | nil => exact ⟨h, rfl⟩
  | cons m ms ih =>
    obtain ⟨htells, henabled⟩ := tells_of_move hclock hdriver h m
    obtain ⟨hrun, hstill⟩ := ih htells
    exact ⟨hrun, hstill.trans henabled⟩

/-- A desk that logs its statements tells at any time of those it has made of its driver since the
log was cleared: how many there were, how many of them failed and how many texts they had, and of
each text, in order of first execution, how often it was executed, how often it failed and as which
role it ran last. A statement without a connection is not made of the driver and not counted. A desk
that does not log its statements tells of none. -/
theorem statements_tell_executions (desk : Desk σ) (hclock : desk.CountsSeconds)
    (hdriver : desk.driver.Unheeding) (ms : List Move) (w : World σ) :
    let start : DeskState σ := ⟨desk.newMemory, w⟩
    let s := (desk.run ms start).2
    let xs := desk.executions [] ms start
    (desk.settings.debug.sql = true → Log.ToldApart xs →
        (∃ time, (desk.perform .statementTotals s).1 = .ok (.value (.map (Row.ofFacts
          [("count", .int xs.length), ("distinct", .int (Log.texts xs).length), ("time", time),
            ("errors", .int (xs.countP (·.failed)))])))) ∧
        ∃ entries, (desk.perform .statements s).1 = .ok (.entries entries) ∧
          entries.map Log.StatementEntry.untimed = (Log.texts xs).map (Log.told xs)) ∧
    (∀ sql role unbuffered keep, s.memory.linkOf role = none →
      let t := (desk.tryQuery sql role unbuffered keep s).2
      t.world.calls = s.world.calls ∧ t.memory.log = s.memory.log) ∧
    (desk.settings.debug.sql = false → (desk.perform .statements s).1 = .ok (.entries [])) := by
  intro start s xs
  have hstart : Tells start.memory.log [] := by
    show [] = _
    split <;> rfl
  -- the log is a tally of the executions after every move
  obtain ⟨htells, hstill⟩ := tells_of_run hclock hdriver hstart ms
  have henabled : s.memory.log.enabled = desk.settings.debug.sql := hstill
  have hentries : (desk.perform .statements s).1 = .ok (.entries s.memory.log.list) := rfl
  have htotals : (desk.perform .statementTotals s).1 = .ok (.value (.map s.memory.log.summary)) :=
    rfl
  refine ⟨fun hon happart => ?_, fun sql role unbuffered keep hnone => ?_, fun hoff => ?_⟩
  · have htally : s.memory.log.tally = Log.Tally.ofList xs := by
      unfold Tells at htells
      rwa [if_pos (henabled.trans hon)] at htells
    obtain ⟨time, hsummary⟩ := Log.StatementLog.summary_of_tally htally happart
    exact ⟨⟨time, by rw [htotals, hsummary]⟩, _, hentries,
      Log.StatementLog.list_of_tally htally happart⟩
  · rw [run_tryQuery, hnone]
    exact ⟨rfl, rfl⟩
  · have htally : s.memory.log.tally = [] := by
      unfold Tells at htells
      have hdisabled : (desk.run ms start).2.memory.log.enabled = false := henabled.trans hoff
      rwa [hdisabled, if_neg Bool.false_ne_true] at htells
    rw [hentries, Log.StatementLog.list_of_tally_nil htally]

/-- After the log was cleared, a statement that succeeds as the user and fails as the control user
is one text that was executed twice, and one that is raised is a failure. A statement without a
connection is not counted. -/
theorem repeated_statement_told :
    let desk := scripted { debug := { sql := true } }
    let answers : List ScriptedAnswer := [.count 0, .count 3, .raises "OSError" "gone"]
    let moves : List Move :=
      [.ask (.setLink .user (some ⟨"u"⟩)), .ask (.setLink .control (some ⟨"c"⟩)),
        .ask (.query "SELECT 0" .user false true), .ask .clearStatements,
        .ask (.query "SELECT 1" .user false true), .ask (.fetchList "SELECT 2" none .user),
        .ask (.tryQueryAsControlUser "SELECT 1" false),
        .ask (.tryQuery "SELECT 3" .auxiliary false true)]
    let start : DeskState Script := ⟨desk.newMemory, { journal := { state := { answers } } }⟩
    let s := (desk.run moves start).2
    (desk.CountsSeconds ∧ desk.driver.Unheeding ∧ desk.settings.debug.sql = true ∧
      Log.ToldApart (desk.executions [] moves start)) ∧
    (∃ time, (desk.perform .statementTotals s).1 = .ok (.value (.map (Row.ofFacts
      [("count", .int 3), ("distinct", .int 2), ("time", time), ("errors", .int 2)])))) ∧
    ∃ entries, (desk.perform .statements s).1 = .ok (.entries entries) ∧
      entries.map Log.StatementEntry.untimed =
        [{ query := "SELECT 1", role := "control_user", count := 2, errors := 1 },
          { query := "SELECT 2", role := "user", count := 1, errors := 1 }] := by
  intro desk answers moves start s
  let told : List Log.Execution :=
    [⟨"SELECT 1", "user", false⟩, ⟨"SELECT 2", "user", true⟩, ⟨"SELECT 1", "control_user", true⟩]
  have hexecutions : desk.executions [] moves start = told := by decide +kernel
  have happart : Log.ToldApart told := by
    unfold Log.ToldApart
    decide +kernel
  have hclock : desk.CountsSeconds := scripted_countsSeconds _
  have htells := statements_tell_executions desk hclock Script.driver_unheeding moves start.world
  dsimp only at htells
  rw [hexecutions] at htells ⊢
  obtain ⟨htotals, entries, hentries, hlist⟩ := htells.1 rfl happart
  refine ⟨⟨hclock, Script.driver_unheeding, rfl, happart⟩, htotals, entries, hentries,
    hlist.trans ?_⟩
  have htexts : Log.texts told = ["SELECT 1", "SELECT 2"] := by decide
  rw [htexts]
  rfl

end Desk

end SqlDesk
