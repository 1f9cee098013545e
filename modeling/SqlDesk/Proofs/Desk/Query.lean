import SqlDesk.Proofs.Desk.Statement
import SqlDesk.Proofs.Driver.History

/-!
# Statements that must not fail

A statement that must not fail is run as any other. Where that gives no result it is refused: without
a connection at once, otherwise with the error that the driver keeps of the connection, which is the
one that this very statement came to.
-/

namespace SqlDesk.Desk

open Act

/-! ## Any driver -/

section Driver

variable {σ : Type} (desk : Desk σ) {sql : String} {role : Role} {unbuffered keep : Bool}
  {s s' : DeskState σ}

theorem query_of_error {e : Error}
    (h : desk.tryQuery sql role unbuffered keep s = (.error e, s')) :
    desk.query sql role unbuffered keep s = (.error e, s') := by
  unfold query
  rw [run_bind, h]

theorem query_of_result {r : ResultSet}
    (h : desk.tryQuery sql role unbuffered keep s = (.ok (some r), s')) :
    desk.query sql role unbuffered keep s = (.ok r, s') := by
  unfold query
  rw [run_bind, h]
  rfl

theorem query_of_unconnected (h : desk.tryQuery sql role unbuffered keep s = (.ok none, s'))
    (hlink : s'.memory.linkOf role = none) :
    desk.query sql role unbuffered keep s = (.error (.refused (notConnected sql role)), s') := by
  unfold query
  rw [run_bind, h]
  dsimp only
  rw [run_bind, run_memory]
  dsimp only
  rw [hlink]
  rfl

theorem query_of_failed (h : desk.tryQuery sql role unbuffered keep s = (.ok none, s'))
    {link : Link} (hlink : s'.memory.linkOf role = some link) :
    desk.query sql role unbuffered keep s = (.error (.refused (statementFailed
      (desk.driver.lastError s'.world.journal.state (some link)) sql role)), s') := by
  unfold query
  rw [run_bind, h]
  dsimp only
  rw [run_bind, run_memory]
  dsimp only
  rw [hlink]
  dsimp only
  rw [run_bind, desk.lastError_of_linkOf hlink]
  rfl

end Driver

/-! ## The driver over a client library -/

variable {τ : Type}

/-- A desk with the driver over a client library. -/
def withClient (client : Client τ) (desk : Desk (Connector τ)) : Desk (Connector τ) :=
  { desk with driver := Connector.driver client }

/-- A statement that must not fail comes to what it comes to otherwise, and leaves the same state.
Only where that is no result it is refused: if the role has no connection, for which nothing was asked
of the client library; else for the reason that the client library gave for this statement on the
connection of the role. -/
theorem query_eq_tryQuery_or_refused (client : Client τ) (desk : Desk (Connector τ)) (sql : String)
    (role : Role) (unbuffered keep : Bool) (s : DeskState (Connector τ)) :
    let query := (desk.withClient client).query sql role unbuffered keep s
    (∃ e s', (desk.withClient client).tryQuery sql role unbuffered keep s = (.error e, s') ∧
        query = (.error e, s')) ∨
      (∃ r s', (desk.withClient client).tryQuery sql role unbuffered keep s = (.ok (some r), s') ∧
        query = (.ok r, s')) ∨
      (∃ s', (desk.withClient client).tryQuery sql role unbuffered keep s = (.ok none, s') ∧
        s.memory.linkOf role = none ∧ s'.world.calls = s.world.calls ∧
        s'.world.journal.state = s.world.journal.state ∧
        query = (.error (.refused
          { kind := .query
            message := "Not connected as " ++ role.label
            code := "CONNECTION_MISSING"
            context := .ofFacts [("query", .text sql), ("role", .text role.label)] }), s')) ∨
      ∃ s' link args, (desk.withClient client).tryQuery sql role unbuffered keep s = (.ok none, s') ∧
        s.memory.linkOf role = some link ∧
        (client.execute sql none link unbuffered s.world.journal.state.client).1 = .refused args ∧
        s'.world.journal.state.calls =
          s.world.journal.state.calls ++ [.execute sql none link unbuffered] ∧
        let e := LinkError.ofArgs args
        query = (.error (.refused
          { kind := .query
            message := formatError e.number e.text
            code := "QUERY_EXECUTION_FAILED"
            context := .ofFacts [("errno", .int e.number), ("error", .text e.text),
              ("query", .text sql), ("role", .text role.label)] }), s') := by
  intro query
  rcases htry : (desk.withClient client).tryQuery sql role unbuffered keep s with ⟨e | _ | r, s'⟩
  · exact .inl ⟨e, s', rfl, query_of_error _ htry⟩
  · refine .inr (.inr ?_)
    rcases tryQuery_eq_none _ htry with ⟨hlink, hmemory, hcalls, hstate⟩ |
      ⟨link, hlink, hlink', hfailed, hstate⟩
    · exact .inl ⟨s', rfl, hlink, hcalls, hstate, query_of_unconnected _ htry (hmemory ▸ hlink)⟩
    · obtain ⟨args, hargs, hput⟩ := Connector.state_of_run_failed hfailed
      have hjournal := hstate.trans hput
      have hregister : (desk.withClient client).driver.lastError s'.world.journal.state (some link) =
          .ofArgs args := by
        rw [hjournal]
        exact (Connector.lastError_putError _ link link _).trans (if_pos rfl)
      have hsent : s'.world.journal.state.calls =
          s.world.journal.state.calls ++ [.execute sql none link unbuffered] := by
        rw [hjournal]
        rfl
      have hrefused := query_of_failed _ htry hlink'
      rw [hregister] at hrefused
      exact .inr ⟨s', link, args, rfl, hlink, hargs, hsent, hrefused⟩
  · exact .inr (.inl ⟨r, s', rfl, query_of_result _ htry⟩)

end SqlDesk.Desk
