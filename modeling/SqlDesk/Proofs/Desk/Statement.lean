import SqlDesk.Desk.Statement
import SqlDesk.Proofs.Act

/-!
# What a statement does

A statement is one request of the driver. Beside what the driver makes of it, it reads the clock
twice and may write the statement log and report an event; whether it returns depends on the driver
and on the clock, whose readings must have a span.
-/

namespace SqlDesk.Desk

open Act

variable {σ : Type} (desk : Desk σ)

/-- How a text becomes a literal in a state. -/
def literalIn (role : Role) (s : DeskState σ) (text : String) : String :=
  "'" ++ desk.driver.escape s.world.journal.state (s.memory.linkOf role) text ++ "'"

@[simp] theorem run_literal (role : Role) (s : DeskState σ) :
    desk.literal role s = (.ok (desk.literalIn role s), s) := rfl

@[simp] theorem run_affectedOf (link : Link) (s : DeskState σ) :
    desk.affectedOf link s = (.ok (desk.driver.affected s.world.journal.state link), s) := rfl

theorem lastError_of_linkOf {role : Role} {link : Link} {s : DeskState σ}
    (h : s.memory.linkOf role = some link) :
    desk.lastError role s =
      (.ok (desk.driver.lastError s.world.journal.state (some link)), s) := by
  rw [← h]
  rfl

/-- What the driver makes of a statement in a state. -/
def outcome (sql : String) (link : Link) (unbuffered : Bool) (s : DeskState σ) :
    Except Error Outcome × Journal σ := desk.driver.execute sql link unbuffered s.world.journal

/-- Whether an outcome counts as a failure. -/
def fails : Except Error Outcome → Bool
  | .ok .failed | .error _ => true
  | .ok _ => false

/-- What the statement log makes of a statement in a state. -/
def measurement (sql : String) (link : Link) (role : Role) (unbuffered : Bool) (s : DeskState σ) :
    Except Fault Log.Time × Log.StatementLog × Option Log.Event :=
  s.memory.log.measure sql role.tag (desk.clock s.world.readings)
    (desk.clock (s.world.readings + 1)) (fails (desk.outcome sql link unbuffered s).1)

theorem measured_run (sql : String) (link : Link) (role : Role) (unbuffered : Bool)
    (s : DeskState σ) :
    desk.measured sql link role unbuffered s =
      (Error.ofFault (desk.measurement sql link role unbuffered s).1 >>= fun _ =>
          (desk.outcome sql link unbuffered s).1,
        { s with
          memory := { s.memory with log := (desk.measurement sql link role unbuffered s).2.1 }
          world := { s.world with
            journal := { (desk.outcome sql link unbuffered s).2 with
              events := (desk.outcome sql link unbuffered s).2.events ++
                (desk.measurement sql link role unbuffered s).2.2.toList }
            calls := s.world.calls ++ [.query link sql unbuffered]
            readings := s.world.readings + 2 } }) := by
  rcases ho : desk.outcome sql link unbuffered s with ⟨r, j⟩
  rcases hm : desk.measurement sql link role unbuffered s with ⟨span, log, event⟩
  unfold outcome at ho
  rw [measurement, outcome, ho] at hm
  -- the cases of the outcome are what `fails` looks at
  rcases r with e | (r | _ | _) <;> rw [fails] at hm <;> cases event <;> cases span <;>
    simp [measured, run_bind, ho, hm]

theorem run_resultOf (link : Link) (o : Outcome) (s : DeskState σ) :
    (desk.resultOf link o s).2 = s := by
  cases o <;> simp [resultOf, run_bind]

/-- The state of a desk once the number of rows that the last statement of a link concerned is
remembered. -/
def counted (link : Link) (s : DeskState σ) : DeskState σ :=
  { s with memory := { s.memory with affected := desk.driver.affected s.world.journal.state link } }

/-- What a statement that was run on a link comes to. -/
def concluded (link : Link) (keep : Bool) :
    Except Error Outcome × DeskState σ → Except Error (Option ResultSet) × DeskState σ
  | (.error e, s) => (.error e, s)
  | (.ok .failed, s) => (.ok none, s)
  | (.ok .done, s) => (.ok (some (.ofCount (desk.driver.affected s.world.journal.state link))),
      if keep then desk.counted link s else s)
  | (.ok (.rows r), s) => (.ok (some r), if keep then desk.counted link s else s)

/-- The report of a statement for which there is no connection. -/
def unconnected (sql : String) (role : Role) : Log.Event :=
  .of .debug "No connection for role" [("role", .text role.label), ("query", .text sql)]

theorem run_tryQuery (sql : String) (role : Role) (unbuffered keep : Bool) (s : DeskState σ) :
    desk.tryQuery sql role unbuffered keep s =
      match s.memory.linkOf role with
      | none => (.ok none, (post (unconnected sql role) s).2)
      | some link => desk.concluded link keep (desk.measured sql link role unbuffered s) := by
  unfold tryQuery
  rw [run_bind, run_memory]
  dsimp only
  rcases s.memory.linkOf role with _ | link
  · rfl
  · dsimp only
    rw [run_bind]
    rcases desk.measured sql link role unbuffered s with ⟨e | _ | _ | _, t⟩ <;> cases keep <;> rfl

/-- A statement gives no result if there is no connection for it, where nothing but a report comes of
it, or if the driver fails to run it on the connection. -/
theorem tryQuery_eq_none {sql : String} {role : Role} {unbuffered keep : Bool}
    {s s' : DeskState σ} (h : desk.tryQuery sql role unbuffered keep s = (.ok none, s')) :
    s.memory.linkOf role = none ∧ s'.memory = s.memory ∧ s'.world.calls = s.world.calls ∧
        s'.world.journal.state = s.world.journal.state ∨
      ∃ link, s.memory.linkOf role = some link ∧ s'.memory.linkOf role = some link ∧
        (desk.outcome sql link unbuffered s).1 = .ok .failed ∧
        s'.world.journal.state = (desk.outcome sql link unbuffered s).2.state := by
  unfold tryQuery at h
  rw [run_bind, run_memory] at h
  dsimp only at h
  rcases hlink : s.memory.linkOf role with _ | link <;> rw [hlink] at h
  · obtain ⟨-, rfl⟩ := Prod.mk.inj h
    exact .inl ⟨rfl, rfl, rfl, rfl⟩
  · refine .inr ⟨link, rfl, ?_⟩
    dsimp only at h
    rw [run_bind, measured_run] at h
    rcases hspan : (desk.measurement sql link role unbuffered s).1 with f | span <;>
      rw [hspan] at h
    · cases h
    · rw [Error.ofFault_ok, Except.ok_bind] at h
      rcases ho : (desk.outcome sql link unbuffered s).1 with e | o <;> rw [ho] at h
      · cases h
      · cases o with
        | failed =>
          obtain ⟨-, rfl⟩ := Prod.mk.inj h
          exact ⟨hlink, rfl, rfl⟩
        | rows r | done => cases keep <;> cases (Prod.mk.inj h).1

/-- A statement of the desk's own changes no more of what is remembered than the statement log. -/
theorem ask_memory (sql : String) (role : Role) (s : DeskState σ) :
    (desk.ask sql role s).2.memory =
      { s.memory with log := (desk.ask sql role s).2.memory.log } := by
  unfold ask
  rw [run_tryQuery]
  rcases s.memory.linkOf role with _ | link
  · rfl
  · dsimp only
    rw [measured_run]
    rcases Error.ofFault (desk.measurement sql link role false s).1 >>= fun _ =>
      (desk.outcome sql link false s).1 with e | r | _ | _ <;> rfl

/-- A statement of the desk's own is one request of the driver, if there is a connection for it. -/
theorem ask_calls (sql : String) (role : Role) (s : DeskState σ) :
    (desk.ask sql role s).2.world.calls =
      s.world.calls ++ ((s.memory.linkOf role).map fun link => .query link sql false).toList := by
  unfold ask
  rw [run_tryQuery]
  rcases s.memory.linkOf role with _ | link
  · exact (List.append_nil _).symm
  · dsimp only
    rw [measured_run]
    rcases Error.ofFault (desk.measurement sql link role false s).1 >>= fun _ =>
      (desk.outcome sql link false s).1 with e | r | _ | _ <;> rfl

/-! ## Answers -/

/-- The clock counts seconds as floating point numbers. -/
def CountsSeconds : Prop := ∀ n, ∃ x, desk.clock n = .float x

section Answers

variable {desk}

/-- Spans in seconds can always be added up. -/
theorem CountsSeconds.measurement (h : desk.CountsSeconds) (sql : String) (link : Link)
    (role : Role) (unbuffered : Bool) (s : DeskState σ) :
    ∃ span, (desk.measurement sql link role unbuffered s).1 = .ok span := by
  obtain ⟨x, hx⟩ := h s.world.readings
  obtain ⟨y, hy⟩ := h (s.world.readings + 1)
  refine ⟨.float (y.add x.neg), ?_⟩
  have hspan : Log.Time.since (.float y) (.float x) = .ok (.float (y.add x.neg)) := rfl
  unfold Desk.measurement Log.StatementLog.measure
  rw [hx, hy, hspan]
  dsimp only
  split <;> rfl

/-- A statement gives a result if there is a connection for it, on which the driver does not fail. -/
theorem ask_succeeds_iff (hclock : desk.CountsSeconds) {sql : String} {role : Role}
    {s : DeskState σ} : (∃ r, (desk.ask sql role s).1 = .ok (some r)) ↔
      ∃ link, s.memory.linkOf role = some link ∧ fails (desk.outcome sql link false s).1 = false := by
  unfold Desk.ask
  rw [run_tryQuery]
  rcases s.memory.linkOf role with _ | link
  · simp
  · obtain ⟨span, hspan⟩ := hclock.measurement sql link role false s
    simp only [measured_run, hspan, Option.some.injEq, exists_eq_left']
    rcases desk.outcome sql link false s with ⟨e | r | _ | _, j⟩ <;> simp [concluded, fails]

variable (desk) in
/-- The driver answers a statement on the connection of a role with rows. -/
def Answers (sql : String) (role : Role) (s : DeskState σ) (r : ResultSet) : Prop :=
  ∃ link, s.memory.linkOf role = some link ∧ (desk.outcome sql link false s).1 = .ok (.rows r)

theorem Answers.ask (hclock : desk.CountsSeconds) {sql : String} {role : Role} {s : DeskState σ}
    {r : ResultSet} (h : desk.Answers sql role s r) : (desk.ask sql role s).1 = .ok (some r) := by
  obtain ⟨link, hlink, houtcome⟩ := h
  obtain ⟨span, hspan⟩ := hclock.measurement sql link role false s
  simp [Desk.ask, tryQuery, run_bind, hlink, measured_run, houtcome, hspan, resultOf]

/-- A result comes from the driver's answer, unless the statement has no rows at all. -/
theorem answers_of_ask {sql : String} {role : Role} {s : DeskState σ} {r : ResultSet}
    (h : (desk.ask sql role s).1 = .ok (some r)) : desk.Answers sql role s r ∨ r.rows = [] := by
  unfold Desk.ask tryQuery at h
  rw [fst_bind, run_memory, Except.ok_bind] at h
  rcases hlink : s.memory.linkOf role with _ | link <;> rw [hlink] at h
  · rw [fst_bind] at h
    obtain ⟨-, -, h⟩ := Except.bind_eq_ok.mp h
    cases h
  · rw [fst_bind] at h
    obtain ⟨o, ho, h⟩ := Except.bind_eq_ok.mp h
    rw [measured_run] at ho
    obtain ⟨span, -, ho⟩ := Except.bind_eq_ok.mp ho
    rw [fst_bind] at h
    obtain ⟨result, hresult, h⟩ := Except.bind_eq_ok.mp h
    rw [Bool.and_false, if_neg Bool.false_ne_true] at h
    obtain rfl : result = some r := Except.ok.inj h
    cases o with
    | rows r' =>
      obtain rfl : r' = r := Option.some.inj (Except.ok.inj hresult)
      exact .inl ⟨link, hlink, ho⟩
    | done =>
      obtain rfl := Option.some.inj (Except.ok.inj hresult)
      exact .inr rfl
    | failed => cases hresult

end Answers

section Moves

/-- An operation with literals starts with those of its state. -/
theorem literal_moves {α : Type} {R : DeskState σ → DeskState σ → Prop} {role : Role}
    {f : (String → String) → Act σ α} {s : DeskState σ}
    (h : Moves R (f (desk.literalIn role s)) s) : Moves R (desk.literal role >>= f) s := by
  unfold Moves at h ⊢
  rwa [run_bind, run_literal]

variable {P : Call → Prop} {R : DeskState σ → DeskState σ → Prop}
  (hR : Frame desk.driver P R)

include hR

theorem measured_moves {sql : String} {link : Link} {unbuffered : Bool}
    (hP : P (.query link sql unbuffered)) (role : Role) (s : DeskState σ) :
    Moves R (desk.measured sql link role unbuffered) s := by
  unfold Moves
  rw [measured_run]
  exact hR.trans (hR.request s _ _ _ hP) (hR.events _ _)

/-- A statement stays within a frame that its request does not leave, and that keeps the number of
rows it concerned if that is remembered. -/
theorem tryQuery_moves {sql : String} {role : Role} {unbuffered keep : Bool} {s : DeskState σ}
    (hP : ∀ link, s.memory.linkOf role = some link → P (.query link sql unbuffered))
    (hkeep : keep = true → ∀ s affected, R s { s with memory := { s.memory with affected } }) :
    Moves R (desk.tryQuery sql role unbuffered keep) s := by
  unfold tryQuery
  refine hR.bind (hR.quiet rfl) fun m hm => ?_
  obtain rfl : s.memory = m := by simpa using hm
  split
  · exact hR.bind (hR.report _ _ _ _) fun _ _ => hR.quiet rfl
  · rename_i link hlink
    refine hR.bind (desk.measured_moves hR (hP link hlink) role s) fun o _ => ?_
    refine hR.bind (hR.quiet (desk.run_resultOf link o _)) fun r _ => ?_
    split
    · rename_i hr
      have hk : keep = true := (Bool.and_eq_true_iff.mp hr).2
      refine hR.bind (hR.quiet rfl) fun affected _ => ?_
      exact hR.bind (hkeep hk _ _) fun _ _ => hR.quiet rfl
    · exact hR.quiet rfl

/-- A statement of the desk's own leaves the remembered number of rows alone. -/
theorem ask_moves {sql : String} {role : Role} {s : DeskState σ}
    (hP : ∀ link, s.memory.linkOf role = some link → P (.query link sql false)) :
    Moves R (desk.ask sql role) s :=
  desk.tryQuery_moves hR hP fun h => absurd h Bool.false_ne_true

theorem fetchValue_moves {sql : String} {column : ColumnRef} {role : Role} {s : DeskState σ}
    (hP : ∀ link, s.memory.linkOf role = some link → P (.query link sql false)) :
    Moves R (desk.fetchValue sql column role) s := by
  unfold fetchValue
  refine hR.bind (desk.ask_moves hR hP) fun r _ => ?_
  rcases r with _ | r
  · exact hR.quiet rfl
  · exact hR.quiet (by simp)

theorem selectDb_moves {database : String} {role : Role} {s : DeskState σ}
    (hP : ∀ link, P (.selectDb link database)) :
    Moves R (desk.selectDb database role) s := by
  unfold selectDb
  refine hR.bind (hR.quiet rfl) fun m _ => ?_
  split
  · exact hR.quiet rfl
  · exact hR.ask (hP _) rfl

end Moves

end SqlDesk.Desk
