import SqlDesk.Proofs.Desk.Run
import SqlDesk.Proofs.Driver.Unheeding

/-!
# What logging its statements changes about a desk

A desk that logs its statements works as one that does not. Two states are alike if they differ at
most in the statement log and in the reports of executed statements. Whatever is put together from
the deeds of a desk answers alike in such states, makes the same requests of the driver and leaves
states that are alike, and so does every step at a workbench.
-/

namespace SqlDesk

open Act

variable {σ α β : Type}

/-- The desk with the logging of its statements switched on or off. -/
def Desk.debugging (desk : Desk σ) (on : Bool) : Desk σ :=
  { desk with settings := { desk.settings with debug := { desk.settings.debug with sql := on } } }

theorem Call.Served.unheeding {d : Driver σ} {c : Call} {a : Action (Journal σ) α}
    (h : c.Served d a) (hd : d.Unheeding) : a.Unheeding := by
  cases h with
  | connect params => exact hd.connect params
  | selectDb link database => exact hd.selectDb database link
  | prepare link sql => exact hd.prepare link sql
  | close link => exact hd.close link

namespace Desk

/-! ## States that are alike -/

/-- The reports other than those of executed statements. -/
def quiet (events : List Log.Event) : List Log.Event :=
  events.filter (·.message != "SQL executed")

theorem quiet_append (es fs : List Log.Event) : quiet (es ++ fs) = quiet es ++ quiet fs :=
  List.filter_append ..

theorem quiet_measure (log : Log.StatementLog) (query role : String) (start stop : Log.Time)
    (failed : Bool) : quiet (log.measure query role start stop failed).2.2.toList = [] := by
  unfold Log.StatementLog.measure
  rcases stop.since start with f | span
  · rfl
  · dsimp only
    split
    · rcases log.record query span role failed with ⟨log', _ | f⟩ <;> rfl
    · rfl

/-- Two states that differ at most in the statement log and the reports of executed statements. -/
def Alike (s t : DeskState σ) : Prop :=
  ∃ log events, t = s.logging log events ∧ quiet events = quiet s.world.journal.events

/-- An operation answers alike in states that are alike, makes the same requests in them and leaves
states that are alike. -/
def Blind (a : Act σ α) : Prop := ∀ s t, Alike s t → (a t).1 = (a s).1 ∧ Alike (a s).2 (a t).2

theorem Blind.bind {a : Act σ α} {f : α → Act σ β} (ha : Blind a)
    (hf : ∀ x, (∃ s, (a s).1 = .ok x) → Blind (f x)) : Blind (a >>= f) := by
  intro s t h
  obtain ⟨hanswer, hstate⟩ := ha s t h
  rw [run_bind, run_bind]
  -- the answers are equal, so both runs fail or both go on with the same
  rcases hs : a s with ⟨e | x, s'⟩ <;> rcases ht : a t with ⟨e' | y, t'⟩ <;>
    rw [hs, ht] at hanswer hstate <;> cases hanswer
  · exact ⟨rfl, hstate⟩
  · exact hf x ⟨s, congrArg Prod.fst hs⟩ s' t' hstate

theorem post_blind (e : Log.Event) : Blind (post e : Act σ Unit) := by
  rintro s t ⟨log, events, rfl, hquiet⟩
  refine ⟨rfl, log, events ++ [e], rfl, ?_⟩
  rw [quiet_append, hquiet]
  exact (quiet_append ..).symm

/-- What a driver does that does not heed reports, with the request recorded or not. -/
theorem driven_blind {a : Action (Journal σ) α} (ha : a.Unheeding) (f : List Call → List Call) :
    Blind (fun s => ((a s.world.journal).1, { s with world := { s.world with
      journal := (a s.world.journal).2, calls := f s.world.calls } }) : Act σ α) := by
  obtain ⟨g, hg⟩ := ha
  rintro s t ⟨log, events, rfl, hquiet⟩
  dsimp only
  rw [hg, hg]
  refine ⟨rfl, log, events ++ (g s.world.journal.state).2.2, rfl, ?_⟩
  rw [quiet_append, hquiet]
  exact (quiet_append ..).symm

variable {desk : Desk σ}

theorem measured_blind (hclock : desk.CountsSeconds) (hdriver : desk.driver.Unheeding)
    (sql : String) (link : Link) (role : Role) (unbuffered : Bool) :
    Blind (desk.measured sql link role unbuffered) := by
  rintro s t ⟨log, events, rfl, hquiet⟩
  obtain ⟨f, hf⟩ := hdriver.execute sql link unbuffered
  obtain ⟨span, hspan⟩ := hclock.measurement sql link role unbuffered s
  obtain ⟨span', hspan'⟩ := hclock.measurement sql link role unbuffered (s.logging log events)
  -- the logs may differ, but no span in seconds makes the measuring fail
  rw [measured_run, measured_run, hspan, hspan']
  unfold outcome
  rw [hf, hf]
  refine ⟨rfl, _, _, rfl, ?_⟩
  unfold measurement
  simp only [quiet_append, quiet_measure, List.append_nil]
  rw [← hquiet]
  rfl

theorem tryQuery_blind (hclock : desk.CountsSeconds) (hdriver : desk.driver.Unheeding)
    (sql : String) (role : Role) (unbuffered keep : Bool) :
    Blind (desk.tryQuery sql role unbuffered keep) := by
  intro s t h
  have hlink : t.memory.linkOf role = s.memory.linkOf role := by
    obtain ⟨log, events, rfl, -⟩ := h
    rfl
  rw [run_tryQuery, run_tryQuery, hlink]
  rcases s.memory.linkOf role with _ | link
  · exact ⟨rfl, (post_blind _ s t h).2⟩
  · obtain ⟨hanswer, hstate⟩ := measured_blind hclock hdriver sql link role unbuffered s t h
    dsimp only
    rcases hs : desk.measured sql link role unbuffered s with ⟨r, s'⟩
    rcases ht : desk.measured sql link role unbuffered t with ⟨r', t'⟩
    rw [hs, ht] at hanswer hstate
    obtain rfl : r' = r := hanswer
    obtain ⟨log, events, rfl, hquiet⟩ := hstate
    rcases r' with e | r | _ | _ <;> cases keep <;> exact ⟨rfl, log, events, rfl, hquiet⟩

/-- A change of what is remembered does not look at the statement log. -/
theorem Change.blind {part : Part} {f : Memory → Memory} (h : desk.Change part f) :
    Blind (remember f : Act σ Unit) := by
  rintro s t ⟨log, events, rfl, hquiet⟩
  refine ⟨rfl, ?_⟩
  cases h with
  | clearLog => exact ⟨log.clear, events, rfl, hquiet⟩
  | _ => exact ⟨log, events, rfl, hquiet⟩

/-- Whatever is put together from the deeds of a desk is blind to the statement log. -/
theorem Routine.blind (hclock : desk.CountsSeconds) (hdriver : desk.driver.Unheeding) {l : Licence}
    {a : Act σ α} (h : desk.Routine l a) : Blind a := by
  induction h with
  | ofExcept r =>
    intro s t h
    rw [run_ofExcept, run_ofExcept]
    exact ⟨rfl, h⟩
  | bind _ _ iha ihf => exact iha.bind ihf
  | read hf =>
    rintro s t ⟨log, events, rfl, hquiet⟩
    exact ⟨congrArg Except.ok (hf s log events), log, events, rfl, hquiet⟩
  | post e => exact post_blind e
  | statement => exact tryQuery_blind hclock hdriver _ _ _ _
  | request h _ => exact driven_blind (h.unheeding hdriver) (· ++ [_])
  | remember h => exact h.blind
  | putStorage st =>
    rintro s t ⟨log, events, rfl, hquiet⟩
    refine ⟨rfl, ?_⟩
    show Alike (if desk.alone then _ else _) (if desk.alone then _ else _)
    split <;> exact ⟨log, events, rfl, hquiet⟩

theorem perform_blind (hclock : desk.CountsSeconds) (hdriver : desk.driver.Unheeding)
    {r : Request} (h : readsLog r = false) : Blind (desk.perform r) :=
  (perform_routine r h).blind hclock hdriver

theorem perform_debugging (desk : Desk σ) (on : Bool) (r : Request) :
    (desk.debugging on).perform r = desk.perform r := by
  cases r <;> rfl

end Desk

namespace Bench

open Desk

/-! ## Workbenches -/

/-- Whether a step is a look at the statement log. -/
def looksAtLog : Step → Bool
  | .ask r => readsLog r
  | _ => false

variable (desk : Desk σ)

/-- Two workbenches at a desk, with its statements logged or not, that differ at most in what states
that are alike may differ in. -/
def Alike (b c : Bench σ) : Prop :=
  ∃ off on state, b.desk = desk.debugging off ∧ c = { b with desk := desk.debugging on, state } ∧
    Desk.Alike b.state state

/-- Two turns that come to the same and leave workbenches that are alike. -/
def SameTurn (x y : Turn σ) : Prop := y.1 = x.1 ∧ y.2.1 = x.2.1 ∧ Alike desk x.2.2 y.2.2

variable {desk} {b c : Bench σ}

/-- What workbenches that are alike have in common. -/
theorem Alike.same (h : Alike desk b c) :
    let s := b.state
    let t := c.state
    { t.memory with log := s.memory.log } = s.memory ∧
      t.world.calls = s.world.calls ∧
      t.world.journal.state = s.world.journal.state ∧
      t.world.storage = s.world.storage ∧
      t.world.readings = s.world.readings ∧
      quiet t.world.journal.events = quiet s.world.journal.events ∧
      c.results = b.results ∧ c.kept = b.kept ∧ c.statements = b.statements := by
  obtain ⟨off, on, state, -, rfl, log, events, rfl, hquiet⟩ := h
  exact ⟨rfl, rfl, rfl, rfl, rfl, hquiet, rfl, rfl, rfl⟩

theorem Alike.keep (h : Alike desk b c) (name : String) (k : Kept) :
    Alike desk (b.keep name k) (c.keep name k) := by
  obtain ⟨off, on, state, hdesk, rfl, hstate⟩ := h
  exact ⟨off, on, state, hdesk, rfl, hstate⟩

/-- A turn that is taken with what was put aside alone. -/
def Aside (t : Bench σ → Turn σ) : Prop :=
  ∀ b desk state, t { b with desk, state } = ((t b).1, (t b).2.1, { (t b).2.2 with desk, state })

theorem Aside.same {t : Bench σ → Turn σ} (ht : Aside t) (h : Alike desk b c) :
    SameTurn desk (t b) (t c) := by
  obtain ⟨off, on, state, hdesk, rfl, hstate⟩ := h
  -- the turn leaves the desk and the state as they are
  have hown : (t b).2.2.desk = b.desk := congrArg (·.2.2.desk) (ht b b.desk b.state)
  have hstill : (t b).2.2.state = b.state := congrArg (·.2.2.state) (ht b b.desk b.state)
  rw [ht b (desk.debugging on) state]
  exact ⟨rfl, rfl, off, on, state, hown.trans hdesk, rfl, hstill.symm ▸ hstate⟩

theorem answered_aside (r : Reply) : Aside fun b : Bench σ => b.answered r := by
  intro b desk state
  unfold answered
  split <;> rfl

theorem keepOutcome_aside (name : String) (p : Prepared) (o : Outcome) :
    Aside fun b : Bench σ => keepOutcome name p b o := by
  intro b desk state
  cases o <;> rfl

/-- An operation of the desk, of which its statements being logged is no part. -/
theorem act_same (h : Alike desk b c) (f : Desk σ → Act σ α)
    (hf : ∀ on, f (desk.debugging on) = f desk) (hblind : Blind (f desk))
    {next : Bench σ → α → Turn σ}
    (hnext : ∀ {b c} x, Alike desk b c → SameTurn desk (next b x) (next c x)) :
    SameTurn desk (b.act (f b.desk) next) (c.act (f c.desk) next) := by
  obtain ⟨off, on, state, hdesk, rfl, hstate⟩ := h
  obtain ⟨hanswer, hafter⟩ := hblind _ _ hstate
  have hown : f b.desk = f desk := by rw [hdesk, hf]
  unfold act
  dsimp only
  rw [hown, hf]
  rcases hs : f desk b.state with ⟨e | x, s⟩ <;> rcases ht : f desk state with ⟨e' | y, t⟩ <;>
    rw [hs, ht] at hanswer hafter <;> cases hanswer
  · exact ⟨rfl, rfl, off, on, t, hdesk, rfl, hafter⟩
  · exact hnext x ⟨off, on, t, hdesk, rfl, hafter⟩

/-- An operation on a result that both workbenches have. -/
theorem withResult_same (h : Alike desk b c) (source : Source) (lack : Fault)
    {next : Bench σ → Nat → ResultSet → Turn σ}
    (hnext : ∀ {b c} i r, Alike desk b c → SameTurn desk (next b i r) (next c i r)) :
    SameTurn desk (b.withResult source lack next) (c.withResult source lack next) := by
  obtain ⟨off, on, state, hdesk, rfl, hstate⟩ := h
  have h : Alike desk b { b with desk := desk.debugging on, state } :=
    ⟨off, on, state, hdesk, rfl, hstate⟩
  have hfailed (e : Error) : Aside fun b : Bench σ => b.failed e := fun _ _ _ => rfl
  unfold withResult
  cases source with
  | given r => exact hnext _ r ⟨off, on, state, hdesk, rfl, hstate⟩
  | named name =>
    dsimp only
    split
    · exact (hfailed _).same h
    · exact (hfailed _).same h
    · split
      · exact hnext _ _ h
      · exact (hfailed _).same h

/-- An operation on a prepared statement that both workbenches have. -/
theorem withStatement_same (h : Alike desk b c) (name : String)
    {next next' : Prepared → Option Nat → Turn σ}
    (hnext : ∀ p i, SameTurn desk (next p i) (next' p i)) :
    SameTurn desk (b.withStatement name next) (c.withStatement name next') := by
  have hfailed (e : Error) : Aside fun b : Bench σ => b.failed e := fun _ _ _ => rfl
  obtain ⟨-, -, -, -, -, -, -, -, hstatements⟩ := h.same
  unfold withStatement
  rw [hstatements]
  split
  · exact (hfailed _).same h
  · exact (hfailed _).same h
  · exact hnext _ _

/-- A step comes to the same at workbenches that are alike, unless it looks at the statement log. -/
theorem step_same (hclock : desk.CountsSeconds) (hdriver : desk.driver.Unheeding)
    (h : Alike desk b c) {step : Step} (hlook : looksAtLog step = false) :
    SameTurn desk (b.step step) (c.step step) := by
  have hdriven {α : Type} {a : Action (Journal σ) α} (ha : a.Unheeding) : Blind (onDriver a) :=
    driven_blind ha id
  have hroutine {α : Type} {a : Act σ α} (ha : desk.Routine .none a) : Blind a :=
    ha.blind hclock hdriver
  have hdone (i : Nat) (r : ResultSet) (answer : Reply) :
      Aside fun b : Bench σ => (b.update i r).done answer := fun _ _ _ => rfl
  have hfailed (i : Nat) (r : ResultSet) (e : Error) :
      Aside fun b : Bench σ => (b.update i r).failed e := fun _ _ _ => rfl
  have hkeep (name : String) (p : Option Prepared) :
      Aside fun b : Bench σ => keepStatement name b p := fun _ _ _ => rfl
  cases step with
  | ask r =>
    exact act_same h (·.perform r) (fun on => perform_debugging desk on r)
      (perform_blind hclock hdriver hlook) fun r h => (answered_aside r).same h
  | drive r =>
    exact act_same h (fun d => onDriver (d.driver.perform r)) (fun _ => rfl)
      (hdriven (hdriver.perform r)) fun r h => (answered_aside r).same h
  | read source r =>
    refine withResult_same h source _ fun i rs h => ?_
    rcases rs.read r with ⟨f | v, rs⟩
    · exact (hfailed i rs _).same h
    · exact (hdone i rs _).same h
  | fields source =>
    have hfields (rs : ResultSet) : Aside fun b : Bench σ => b.done (.fields rs.fieldsMeta) :=
      fun _ _ _ => rfl
    exact withResult_same h source _ fun _ rs h => (hfields rs).same h
  | copy source columns view database =>
    have hlacks : c.lacks source = b.lacks source ∧
        c.desk.descriptionTable = b.desk.descriptionTable := by
      obtain ⟨off, on, state, hdesk, rfl, -⟩ := h
      rw [hdesk]
      exact ⟨rfl, rfl⟩
    have hnothing : Aside fun b : Bench σ => b.done (.text "") := fun _ _ _ => rfl
    unfold Bench.step
    dsimp only
    -- without a table of descriptions, a source that is no result is not looked at
    rw [hlacks.1, hlacks.2]
    split
    · exact hnothing.same h
    · refine withResult_same h source _ fun i rs h => ?_
      refine act_same h (·.copyStatement rs columns view database) (fun _ => rfl)
        (hroutine (copyStatement_routine rs columns view database)) fun answer h => ?_
      rcases answer with ⟨e | text, rs⟩
      · exact (hfailed i rs e).same h
      · exact (hdone i rs _).same h
  | prepare name sql role =>
    exact act_same h (·.prepare sql role) (fun _ => rfl)
      (hroutine (prepare_routine (fun _ _ => trivial) sql role)) fun p h => (hkeep name p).same h
  | prepareOn name link sql =>
    exact act_same h (fun d => onDriver (d.driver.prepare link sql)) (fun _ => rfl)
      (hdriven (hdriver.prepare link sql)) fun p h => (hkeep name p).same h
  | execute name params =>
    exact withStatement_same h name fun p _ =>
      act_same h (fun d => onDriver (d.driver.runPrepared p params)) (fun _ => rfl)
        (hdriven (hdriver.runPrepared p params)) fun o h => (keepOutcome_aside name p o).same h
  | outcome name => exact withStatement_same h name fun p i => ⟨rfl, rfl, h⟩

/-- A look at the statement log leaves the workbench as it is. -/
theorem step_of_looksAtLog (b : Bench σ) {step : Step} (hlook : looksAtLog step = true) :
    ∃ r, b.step step = (.ok r, .other, b) := by
  cases step with
  | ask r =>
    cases r with
    | statements | statementTotals => exact ⟨_, rfl⟩
    | _ => cases hlook
  | _ => cases hlook

/-! ## Work -/

/-- What is seen of a step: its answer, unless that is the statement log, and the requests that the
desk makes of its driver. -/
def seen (b : Bench σ) (step : Step) : Option (Except Error Reply) × List Call :=
  let turn := b.step step
  (if looksAtLog step then none else some turn.1,
    turn.2.2.state.world.calls.drop b.state.world.calls.length)

/-- The workbench after a step, with what it came to put aside under a name, if there is one. -/
def after (b : Bench σ) (step : Step) (name : Option String) : Bench σ :=
  match b.step step, name with
  | (.ok _, kept, c), some name => c.keep name kept
  | (_, _, c), _ => c

/-- What is seen of steps, one after the other, and the workbench after them. -/
def work (b : Bench σ) :
    List (Step × Option String) → List (Option (Except Error Reply) × List Call) × Bench σ
  | [] => ([], b)
  | (step, name) :: rest =>
    let later := (b.after step name).work rest
    (b.seen step :: later.1, later.2)

theorem seen_after_same (hclock : desk.CountsSeconds) (hdriver : desk.driver.Unheeding)
    (h : Alike desk b c) (step : Step) (name : Option String) :
    c.seen step = b.seen step ∧ Alike desk (b.after step name) (c.after step name) := by
  unfold seen after
  rcases hlook : looksAtLog step with _ | _
  · obtain ⟨hanswer, hkept, hafter⟩ := step_same hclock hdriver h hlook
    rcases hb : b.step step with ⟨r, kept, b'⟩
    rcases hc : c.step step with ⟨r', kept', c'⟩
    rw [hb, hc] at hanswer hkept hafter
    obtain rfl : r' = r := hanswer
    obtain rfl : kept' = kept := hkept
    obtain ⟨-, hcalls, -⟩ := h.same
    obtain ⟨-, hcalls', -⟩ := hafter.same
    dsimp only at hcalls' ⊢
    rw [hcalls', hcalls]
    refine ⟨rfl, ?_⟩
    rcases r' with e | r <;> cases name
    · exact hafter
    · exact hafter
    · exact hafter
    · exact hafter.keep _ _
  · obtain ⟨r, hb⟩ := b.step_of_looksAtLog hlook
    obtain ⟨r', hc⟩ := c.step_of_looksAtLog hlook
    obtain ⟨-, hcalls, -⟩ := h.same
    rw [hb, hc]
    dsimp only
    rw [hcalls]
    refine ⟨rfl, ?_⟩
    cases name
    · exact h
    · exact h.keep _ _

theorem work_same (hclock : desk.CountsSeconds) (hdriver : desk.driver.Unheeding)
    (h : Alike desk b c) (steps : List (Step × Option String)) :
    (c.work steps).1 = (b.work steps).1 ∧ Alike desk (b.work steps).2 (c.work steps).2 := by
  induction steps generalizing b c with
  | nil => exact ⟨rfl, h⟩
  | cons step steps ih =>
    obtain ⟨hseen, hafter⟩ := seen_after_same hclock hdriver h step.1 step.2
    obtain ⟨hrest, hlast⟩ := ih hafter
    exact ⟨congrArg₂ List.cons hseen hrest, hlast⟩

/-- Two desks that differ in the logging of their statements alone: whatever is done with them, step
by step the answers and the requests that are made of the driver are the same. In the end the desks
remember the same apart from the statement log, driver, storage and clock are in the same state, the
same was put aside, and the same was reported apart from the executed statements. -/
theorem debugging_unobservable (desk : Desk σ) (hclock : desk.CountsSeconds)
    (hdriver : desk.driver.Unheeding) (off on : Bool) (w : World σ)
    (steps : List (Step × Option String)) :
    let start (logs : Bool) : Bench σ :=
      { desk := desk.debugging logs, state := ⟨(desk.debugging logs).newMemory, w⟩ }
    let x := (start off).work steps
    let y := (start on).work steps
    let s := x.2.state
    let t := y.2.state
    y.1 = x.1 ∧
      { t.memory with log := s.memory.log } = s.memory ∧
      t.world.calls = s.world.calls ∧
      t.world.journal.state = s.world.journal.state ∧
      t.world.storage = s.world.storage ∧
      t.world.readings = s.world.readings ∧
      quiet t.world.journal.events = quiet s.world.journal.events ∧
      y.2.results = x.2.results ∧ y.2.kept = x.2.kept ∧ y.2.statements = x.2.statements := by
  intro start x y s t
  have hstart : Alike desk (start off) (start on) :=
    ⟨off, on, _, rfl, rfl, { enabled := on }, w.journal.events, rfl, rfl⟩
  obtain ⟨hseen, hlast⟩ := work_same hclock hdriver hstart steps
  exact ⟨hseen, hlast.same⟩

/-- A statement whose rows are read, one that is raised, one that is refused and one that is
prepared come to the same, and one of the desks alone logs those it runs itself. -/
theorem refused_statements_unobservable :
    let desk : Desk (Connector ClientScript) :=
      { driver := Connector.driver ClientScript.client, clock := fun _ => .float (.ofInt 0)
        scope := "" }
    let answers : List (Response ClientAnswer) :=
      [.ok (.rows [] [[.text "n", .int 3, .null, .int 11]] [[.int 1]]), .raised "OSError" "gone",
        .refused [.int 1142, .text "command denied"], .ok (.count 2)]
    let steps : List (Step × Option String) :=
      [(.ask (.setLink .user (some ⟨"c"⟩)), none),
        (.ask (.query "SELECT n FROM t" .user false true), some "rows"),
        (.read (.named "rows") .row, none), (.ask (.tryQuery "DO 1" .user false true), none),
        (.ask (.query "DO 2" .user false true), none),
        (.prepare "s" "UPDATE t SET n = ?" .user, none), (.execute "s" [.int 5], none),
        (.ask .statements, none)]
    let start (logs : Bool) : Bench (Connector ClientScript) :=
      { desk := desk.debugging logs
        state := ⟨(desk.debugging logs).newMemory,
          { journal := { state := { client := { answers } } } }⟩ }
    (desk.CountsSeconds ∧ desk.driver.Unheeding) ∧
      ((start true).work steps).1 = ((start false).work steps).1 ∧
      ((start false).work steps).2.state.memory.log.list.length = 0 ∧
      ((start true).work steps).2.state.memory.log.list.length = 3 := by
  intro desk answers steps start
  have hclock : desk.CountsSeconds := fun _ => ⟨_, rfl⟩
  have hdriver : desk.driver.Unheeding := Connector.driver_unheeding ClientScript.client
  have hsame := debugging_unobservable desk hclock hdriver false true
    { journal := { state := { client := { answers } } } } steps
  exact ⟨⟨hclock, hdriver⟩, hsame.1, by decide +kernel, by decide +kernel⟩

end Bench

end SqlDesk
