import SqlDesk.Proofs.Desk.Run

/-!
# Which number of rows a desk remembers

A desk remembers the number of rows that one of its statements concerned, as the driver reported it
right after it. Which statement that is does not depend on the order of the requests between: it is
the last one that succeeded among those that were asked for with their number of rows. Whatever a
desk asks on its own account, on the same connections, leaves the number as it is.
-/

namespace SqlDesk

/-- The statement of a request whose number of rows is remembered, with the role it is run as. -/
def Request.countedStatement : Request → Option (String × Role × Bool)
  | .query sql role unbuffered true | .tryQuery sql role unbuffered true =>
    some (sql, role, unbuffered)
  | .columnMap sql _ => some (sql, .user, false)
  | _ => none

namespace Desk

open Act

variable {σ : Type} (desk : Desk σ)

/-- The number of rows that the driver reports right after a statement on the connection of a role,
if there is one and the statement succeeds on it. -/
def reported (sql : String) (role : Role) (unbuffered : Bool) (s : DeskState σ) : Option Int :=
  (s.memory.linkOf role).bind fun link =>
    let ran := desk.outcome sql link unbuffered s
    if fails ran.1 then none else some (desk.driver.affected ran.2.state link)

/-- The number of rows that is reported for the statement of a move whose number is remembered. -/
def report (m : Move) (s : DeskState σ) : Option Int :=
  match m with
  | .ask r => r.countedStatement.bind fun (sql, role, unbuffered) =>
    desk.reported sql role unbuffered s
  | .drive _ => none

/-- The numbers of rows that are reported in a run, in order. -/
def reports : List Move → DeskState σ → List Int
  | [], _ => []
  | m :: ms, s => (desk.report m s).toList ++ reports ms (desk.move s m).2

variable {desk}

/-- What is remembered of the number of rows stays as it is. -/
def KeepsAffected (s t : DeskState σ) : Prop := t.memory.affected = s.memory.affected

theorem keepsAffected_steady {l : Licence} (hl : ¬ l.changes .affected) :
    desk.Steady l KeepsAffected := by
  refine keeps_steady (fun _ _ => rfl) (fun m h hne => ?_) hl
  cases h with
  | affected n => exact absurd rfl hne
  | _ => rfl

theorem affected_of_tryQuery (hclock : desk.CountsSeconds) (sql : String) (role : Role)
    (unbuffered : Bool) (s : DeskState σ) :
    (desk.tryQuery sql role unbuffered true s).2.memory.affected =
      (desk.reported sql role unbuffered s).getD s.memory.affected := by
  rw [run_tryQuery]
  unfold reported
  rcases hlink : s.memory.linkOf role with _ | link
  · rfl
  · obtain ⟨span, hspan⟩ := hclock.measurement sql link role unbuffered s
    dsimp only [Option.bind_some]
    rw [measured_run, hspan]
    rcases desk.outcome sql link unbuffered s with ⟨e | r | _ | _, j⟩ <;> rfl

/-- A statement that must not fail leaves the state that it leaves otherwise. -/
theorem query_state (sql : String) (role : Role) (unbuffered keep : Bool) (s : DeskState σ) :
    (desk.query sql role unbuffered keep s).2 = (desk.tryQuery sql role unbuffered keep s).2 := by
  unfold query
  rw [run_bind]
  rcases desk.tryQuery sql role unbuffered keep s with ⟨e | _ | r, t⟩
  · rfl
  · dsimp only
    rw [run_bind, run_memory]
    dsimp only
    rcases t.memory.linkOf role with _ | link <;> rfl
  · rfl

theorem columnMap_state (sql : String) (names : List String) (s : DeskState σ) :
    (desk.columnMap sql names s).2 = (desk.tryQuery sql .user false true s).2 := by
  unfold columnMap
  rw [run_bind]
  rcases desk.tryQuery sql .user false true s with ⟨e | _ | r, t⟩
  · rfl
  · rfl
  · dsimp only
    split
    · rfl
    · split <;> rfl

/-- A request whose statement counts leaves the state that the statement leaves. -/
theorem perform_of_countedStatement {r : Request} {sql : String} {role : Role} {unbuffered : Bool}
    (h : r.countedStatement = some (sql, role, unbuffered)) (s : DeskState σ) :
    (desk.perform r s).2 = (desk.tryQuery sql role unbuffered true s).2 := by
  cases r with
  | query sql' role' unbuffered' keep =>
    cases keep with
    | false => cases h
    | true =>
      obtain ⟨rfl, rfl, rfl⟩ : sql' = sql ∧ role' = role ∧ unbuffered' = unbuffered := by
        simpa [Request.countedStatement] using h
      exact (snd_bind_pure _ _ s).trans (query_state ..)
  | tryQuery sql' role' unbuffered' keep =>
    cases keep with
    | false => cases h
    | true =>
      obtain ⟨rfl, rfl, rfl⟩ : sql' = sql ∧ role' = role ∧ unbuffered' = unbuffered := by
        simpa [Request.countedStatement] using h
      exact congrArg Prod.snd (run_map _ _ s)
  | columnMap sql' names =>
    obtain ⟨rfl, rfl, rfl⟩ : sql' = sql ∧ .user = role ∧ false = unbuffered := by
      simpa [Request.countedStatement] using h
    exact (snd_bind_pure _ _ s).trans (columnMap_state ..)
  | _ => cases h

/-- A request without such a statement may not change the number of rows. -/
theorem affected_notMem_parts {r : Request} (h : r.countedStatement = none) :
    .affected ∉ parts r := by
  cases r with
  | query sql role unbuffered keep | tryQuery sql role unbuffered keep =>
    cases keep with
    | false => simp [parts]
    | true => cases h
  | columnMap sql names => cases h
  | _ => simp [parts]

/-- What is remembered after a move is the number that was reported for it, if there is one, and
else what was remembered before. -/
theorem affected_of_move (hclock : desk.CountsSeconds) (m : Move) (s : DeskState σ) :
    (desk.move s m).2.memory.affected = (desk.report m s).getD s.memory.affected := by
  cases m with
  | drive r => rfl
  | ask r =>
    show (desk.perform r s).2.memory.affected = _
    rcases h : r.countedStatement with _ | ⟨sql, role, unbuffered⟩
    · have hreport : desk.report (.ask r) s = none := by simp only [report, h, Option.bind_none]
      rw [hreport]
      exact perform_within (keepsAffected_steady (affected_notMem_parts h)) s
    · have hreport : desk.report (.ask r) s = desk.reported sql role unbuffered s := by
        simp only [report, h, Option.bind_some]
      rw [perform_of_countedStatement h, affected_of_tryQuery hclock, hreport]

theorem affected_of_run (hclock : desk.CountsSeconds) (ms : List Move) (s : DeskState σ) :
    (desk.run ms s).2.memory.affected = (desk.reports ms s).getLast?.getD s.memory.affected := by
  induction ms generalizing s with
  | nil => rfl
  | cons m ms ih =>
    unfold run reports
    dsimp only
    -- a report of the later moves goes before that of the first one
    rw [ih, affected_of_move hclock, List.getLast?_append]
    rcases (desk.reports ms (desk.move s m).2).getLast? with _ | n
    · cases desk.report m s <;> rfl
    · rfl

/-- The remembered number of rows is the one that was reported last in the run, zero before any. -/
theorem affectedRows_eq_reported (desk : Desk σ) (hclock : desk.CountsSeconds) (ms : List Move)
    (w : World σ) (role : Role) :
    let start : DeskState σ := ⟨desk.newMemory, w⟩
    (desk.perform (.affectedRows role true) (desk.run ms start).2).1 =
      .ok (.number ((desk.reports ms start).getLast?.getD 0)) := by
  intro start
  have hread (s : DeskState σ) :
      (desk.perform (.affectedRows role true) s).1 = .ok (.number s.memory.affected) := rfl
  rw [hread, affected_of_run hclock]
  rfl

/-- A count that was kept is left alone by a fetch, a failure, a statement that is not to count, a
statement without a connection, and the closing of the connection. -/
theorem kept_count_survives :
    let answers : List ScriptedAnswer :=
      [.count 3, .rows { columns := ["n"], rows := [[.int 1], [.int 2]] }, .fails noAnswer,
        .count 5]
    let moves : List Move :=
      [.ask (.setLink .user (some ⟨"c"⟩)), .ask (.tryQuery "UPDATE t SET n = 0" .user false true),
        .ask (.fetchValue "SELECT n FROM t" (.index 0) .user),
        .ask (.query "UPDATE u SET n = 0" .user false true),
        .ask (.tryQuery "DELETE FROM t" .user false false),
        .ask (.queryAsControlUser "DELETE FROM u" false), .ask (.close .user)]
    let start : DeskState Script := ⟨scripted.newMemory, { journal := { state := { answers } } }⟩
    scripted.CountsSeconds ∧
      (scripted.perform (.affectedRows .user true) (scripted.run moves start).2).1 =
        .ok (.number 3) := by
  intro answers moves start
  have hreports : scripted.reports moves start = [3] := by rfl
  have hclock := scripted_countsSeconds {}
  have hrows := affectedRows_eq_reported scripted hclock moves start.world .user
  dsimp only at hrows
  exact ⟨hclock, hrows.trans (by rw [hreports]; rfl)⟩

end Desk

end SqlDesk
