import SqlDesk.Proofs.Desk.Affected
import SqlDesk.Proofs.Desk.Connection

/-!
# What failures leave behind

A desk changes what it remembers only once a request has succeeded. So a request that fails, be it
because the driver refuses it or because the desk does not even ask the driver, leaves what is
remembered and stored as it is. Only the statement log tells of a statement that failed.
-/

namespace SqlDesk.Desk

open Act

variable {σ : Type} (desk : Desk σ)

/-- The statement on which the success of a request depends. -/
def statementOf (s : DeskState σ) : Request → Option (String × Bool)
  | .query sql _ unbuffered _ | .tryQuery sql _ unbuffered _ | .queryAsControlUser sql unbuffered
  | .tryQueryAsControlUser sql unbuffered => some (sql, unbuffered)
  | .setCollation collation =>
    let collation := resolveCollation collation s.memory.version.number
    some (Sql.setCollation (desk.literalIn .user s collation), false)
  | _ => none

/-- A request fails in a state: at a request of the driver, or before there is one. -/
inductive Fails (s : DeskState σ) : Request → Option Call → Prop where
  | unconfigured {role server} (h : desk.Unconfigured role server) :
      Fails s (.connect role server) none
  | unreachable {role server} (hconfigured : ¬ desk.Unconfigured role server)
      (h : ∀ link, desk.answerTo role server s ≠ .ok (some link)) :
      Fails s (.connect role server) (some (.connect (desk.paramsOf role server)))
  | unlinked {r sql unbuffered} (hr : desk.statementOf s r = some (sql, unbuffered))
      (hlink : s.memory.linkOf (r.roleOf sql) = none) : Fails s r none
  | statement {r sql unbuffered link} (hr : desk.statementOf s r = some (sql, unbuffered))
      (hlink : s.memory.linkOf (r.roleOf sql) = some link)
      (h : fails (desk.outcome sql link unbuffered s).1 = true) :
      Fails s r (some (.query link sql unbuffered))
  | version {row} (h : ∀ version, ServerVersion.ofRow row ≠ .ok (some version)) :
      Fails s (.setVersion row) none
  | tables {database filter view role} (h : view.Unsortable) :
      Fails s (.tables database filter view role) none
  | databases {like totals view role} (h : view.Unsortable) :
      Fails s (.databases like totals view role) none

/-- What the statement log tells after a request of the driver. -/
def logAfter (r : Request) (s : DeskState σ) : Option Call → Log.StatementLog
  | some (.query link sql unbuffered) =>
    (desk.measurement sql link (r.roleOf sql) unbuffered s).2.1
  | _ => s.memory.log

/-- What a failure leaves of a state. -/
structure Spared (r : Request) (c : Option Call) (s t : DeskState σ) : Prop where
  /-- All that is remembered stays as it is, the statement log aside. -/
  memory : t.memory = { s.memory with log := desk.logAfter r s c }
  storage : t.world.storage = s.world.storage
  /-- Nothing else is asked of the driver. -/
  calls : t.world.calls = s.world.calls ++ c.toList
  driver : t.world.journal.state =
    (c.elim s.world.journal fun c => c.effect desk.driver s.world.journal).state

variable {desk} {r : Request} {c : Option Call} {s t : DeskState σ}

/-- Reports change nothing. -/
theorem spared_of_reporting {events : List Log.Event} (h : t = s.reporting events) :
    desk.Spared r none s t := by
  subst h
  exact ⟨rfl, rfl, (List.append_nil _).symm, rfl⟩

/-! ## Statements -/

section Statements

variable {sql : String} {role : Role} {unbuffered : Bool}

variable (desk) in
/-- A statement of a role gives no result in a state, be its number of rows remembered or not, and
leaves another state. -/
def GivesNone (sql : String) (role : Role) (unbuffered : Bool) (s t : DeskState σ) : Prop :=
  ∀ keep, ∃ answer, desk.tryQuery sql role unbuffered keep s = (answer, t) ∧
    ∀ result, answer ≠ .ok (some result)

theorem givesNone_of_unlinked (hlink : s.memory.linkOf role = none) :
    desk.GivesNone sql role unbuffered s (s.reporting [unconnected sql role]) := by
  intro keep
  rw [run_tryQuery, hlink]
  exact ⟨.ok none, rfl, nofun⟩

theorem givesNone_of_fails {link : Link} (hlink : s.memory.linkOf role = some link)
    (h : fails (desk.outcome sql link unbuffered s).1 = true) :
    desk.GivesNone sql role unbuffered s (desk.measured sql link role unbuffered s).2 := by
  -- measuring a statement may raise a fault of its own, but makes no result of a failure
  have hfailed : ∀ o, (desk.measured sql link role unbuffered s).1 = .ok o → o = .failed := by
    rw [measured_run]
    intro o ho
    obtain ⟨-, -, ho⟩ := Except.bind_eq_ok.mp ho
    rw [ho] at h
    cases o with
    | failed => rfl
    | rows | done => cases h
  intro keep
  rw [run_tryQuery, hlink]
  dsimp only
  rcases hran : desk.measured sql link role unbuffered s with ⟨e | o, t⟩ <;> rw [hran] at hfailed
  · exact ⟨.error e, rfl, nofun⟩
  · obtain rfl := hfailed o rfl
    exact ⟨.ok none, rfl, nofun⟩

theorem setCollation_of_givesNone {collation : String}
    (h : desk.GivesNone (Sql.setCollation
      (desk.literalIn .user s (resolveCollation collation s.memory.version.number)))
      .user false s t) :
    ∃ events, (desk.setCollation collation s).2 = t.reporting events := by
  obtain ⟨answer, hrun, hanswer⟩ := h false
  unfold setCollation ask
  rw [run_bind, run_memory]
  dsimp only
  rw [run_bind, run_literal]
  dsimp only
  rw [run_bind, hrun]
  rcases answer with e | _ | result
  · exact ⟨[], by rw [DeskState.reporting_nil]⟩
  · exact ⟨[_], rfl⟩
  · exact absurd rfl (hanswer result)

/-- A request whose statement gives no result leaves what the statement leaves, up to reports. -/
theorem perform_of_givesNone (hr : desk.statementOf s r = some (sql, unbuffered))
    (h : desk.GivesNone sql (r.roleOf sql) unbuffered s t) :
    ∃ events, (desk.perform r s).2 = t.reporting events := by
  have hquery {role : Role} (h : desk.GivesNone sql role unbuffered s t) (keep : Bool) :
      (desk.query sql role unbuffered keep s).2 = t.reporting [] := by
    obtain ⟨answer, hrun, -⟩ := h keep
    rw [query_state, hrun, DeskState.reporting_nil]
  have htry {role : Role} (h : desk.GivesNone sql role unbuffered s t) (keep : Bool) :
      (desk.tryQuery sql role unbuffered keep s).2 = t.reporting [] := by
    obtain ⟨answer, hrun, -⟩ := h keep
    rw [hrun, DeskState.reporting_nil]
  cases r with
  | query sql' role unbuffered' keep =>
    obtain ⟨rfl, rfl⟩ := Prod.mk.inj (Option.some.inj hr)
    exact ⟨[], (snd_bind_pure _ _ s).trans (hquery h keep)⟩
  | queryAsControlUser =>
    obtain ⟨rfl, rfl⟩ := Prod.mk.inj (Option.some.inj hr)
    exact ⟨[], (snd_bind_pure _ _ s).trans (hquery h false)⟩
  | tryQuery sql' role unbuffered' keep =>
    obtain ⟨rfl, rfl⟩ := Prod.mk.inj (Option.some.inj hr)
    exact ⟨[], (snd_map _ _ s).trans (htry h keep)⟩
  | tryQueryAsControlUser =>
    obtain ⟨rfl, rfl⟩ := Prod.mk.inj (Option.some.inj hr)
    exact ⟨[], (snd_map _ _ s).trans (htry h false)⟩
  | setCollation collation =>
    obtain ⟨rfl, rfl⟩ := Prod.mk.inj (Option.some.inj hr)
    obtain ⟨events, hrun⟩ := setCollation_of_givesNone h
    exact ⟨events, (snd_bind_pure _ _ s).trans hrun⟩
  | _ => cases hr

end Statements

/-- A request that fails leaves all that is remembered and stored as it is, and the driver is asked
for nothing but what failed. -/
theorem perform_spares (desk : Desk σ) {s : DeskState σ} {r : Request} {c : Option Call}
    (h : desk.Fails s r c) : desk.Spared r c s (desk.perform r s).2 := by
  -- one case for each way to fail; only an attempt to connect and a statement make a call
  cases h with
  | unconfigured h =>
    obtain ⟨e, hrun⟩ := desk.connect_of_unconfigured (s := s) h
    exact spared_of_reporting ((snd_map _ _ s).trans (congrArg Prod.snd hrun))
  | @unreachable role server hconfigured h =>
    obtain ⟨answer, events, hrun⟩ := desk.connect_of_unreachable hconfigured h
    have hstate : (desk.perform (.connect role server) s).2 =
        (desk.attempted role server s).reporting events :=
      (snd_map _ _ s).trans (congrArg Prod.snd hrun)
    rw [hstate]
    exact ⟨rfl, rfl, rfl, rfl⟩
  | unlinked hr hlink =>
    obtain ⟨events, hstate⟩ := perform_of_givesNone hr (givesNone_of_unlinked hlink)
    exact spared_of_reporting (hstate.trans (s.reporting_append _ events).symm)
  | statement hr hlink h =>
    obtain ⟨events, hstate⟩ := perform_of_givesNone hr (givesNone_of_fails hlink h)
    rw [hstate, measured_run]
    exact ⟨rfl, rfl, rfl, rfl⟩
  | version h =>
    obtain ⟨answer, events, hrun⟩ := setVersion_of_unreadable h s
    exact spared_of_reporting ((snd_bind_pure _ _ s).trans (congrArg Prod.snd hrun))
  | @tables database filter view role h =>
    obtain ⟨e, hrun⟩ := desk.tables_of_unsortable database filter role h s
    have hstate := (snd_map Reply.tables _ s).trans (congrArg Prod.snd hrun)
    exact spared_of_reporting (hstate.trans s.reporting_nil.symm)
  | @databases like totals view role h =>
    obtain ⟨e, hrun⟩ := desk.databases_of_unsortable like totals role h s
    have hstate := (snd_map Reply.databases _ s).trans (congrArg Prod.snd hrun)
    exact spared_of_reporting (hstate.trans s.reporting_nil.symm)

/-- A connection outlives an attempt to replace it that fails, and so does the number of rows of the
last statement when another one fails on the connection. -/
theorem failed_attempts_spare :
    let answers : List ScriptedAnswer := [.count 3, .fails noAnswer]
    let connects : List (Option LinkError) := [none, some ⟨2003, "no route"⟩]
    let moves : List Move :=
      [.ask (.connect .auxiliary none), .ask (.query "DELETE FROM t" .auxiliary false true)]
    let start : DeskState Script :=
      ⟨scripted.newMemory, { journal := { state := { answers, connects } } }⟩
    let s := (scripted.run moves start).2
    let attempt : Request := .connect .auxiliary none
    let statement : Request := .tryQuery "DELETE FROM u" .auxiliary false true
    let t := (scripted.perform attempt s).2
    let u := (scripted.perform statement t).2
    t.memory = s.memory ∧ t.memory.linkOf .auxiliary = some ⟨"c1"⟩ ∧
      u.memory.affected = 3 ∧ u.memory.links = s.memory.links ∧
      u.world.calls = t.world.calls ++ [.query ⟨"c1"⟩ "DELETE FROM u" false] := by
  intro answers connects moves start s attempt statement t u
  have hlink : t.memory.linkOf .auxiliary = some ⟨"c1"⟩ := by decide +kernel
  have hunreachable :
      scripted.Fails s attempt (some (.connect (scripted.paramsOf .auxiliary none))) :=
    .unreachable (by decide) (by intro link h; cases h)
  have hattempt := perform_spares scripted hunreachable
  have hkept : t.memory = s.memory := hattempt.memory
  have hstatement := perform_spares scripted (s := t)
    (.statement (r := statement) rfl hlink (by decide +kernel))
  have haffected : u.memory.affected = t.memory.affected :=
    congrArg Memory.affected hstatement.memory
  have hlinks : u.memory.links = t.memory.links := congrArg Memory.links hstatement.memory
  refine ⟨hkept, hlink, haffected.trans (by decide +kernel), ?_, hstatement.calls⟩
  rw [hlinks, hkept]

end SqlDesk.Desk
