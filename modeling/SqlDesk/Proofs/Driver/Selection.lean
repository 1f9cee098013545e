import Mathlib.Logic.Function.Basic
import SqlDesk.Proofs.Driver.History
import SqlDesk.Sql.Metadata
import SqlDesk.Sql.Setup

/-!
# Servers with a selected database

On every link of a server one database is the selected one, or none is. A selection replaces it or
is refused and leaves it, statements that only read leave it, and the question for the collation of
the selected database is answered with just that, unless it is refused. The driver over a client
library hands this on: whatever it keeps in its registers, the selected databases are those of the
server behind it.
-/

namespace SqlDesk

/-- A statement that only reads, by its first word. -/
def Sql.OnlyReads (sql : String) : Prop :=
  "SELECT ".toList <+: sql.toList ∨ "SHOW ".toList <+: sql.toList

variable {σ τ : Type}

/-- A driver for a server where `selected` is the database that is selected on a link and `collation`
that of a database, or the server's own where none is selected. -/
structure Driver.Selecting (d : Driver σ) (selected : σ → Link → Option String)
    (collation : Option String → String) : Prop where
  selectDb : ∀ database link j,
    (d.selectDb database link j).1 = .ok true ∧
        selected (d.selectDb database link j).2.state =
          Function.update (selected j.state) link (some database) ∨
      (d.selectDb database link j).1 = .ok false ∧
        selected (d.selectDb database link j).2.state = selected j.state
  execute : ∀ sql link unbuffered j, Sql.OnlyReads sql →
    selected (d.execute sql link unbuffered j).2.state = selected j.state
  question : ∀ link unbuffered j,
    (d.execute Sql.databaseCollation link unbuffered j).1 = .ok .failed ∨
      ∃ r, (d.execute Sql.databaseCollation link unbuffered j).1 = .ok (.rows r) ∧
        (r.fetchValue (.index 0)).1 = .ok (.text (collation (selected j.state link)))

/-- A client library for such a server. -/
structure Client.Selecting (client : Client τ) (selected : τ → Link → Option String)
    (collation : Option String → String) : Prop where
  selectDb : ∀ database link t,
    (client.selectDb database link t).1 = .ok () ∧
        selected (client.selectDb database link t).2 =
          Function.update (selected t) link (some database) ∨
      (∃ args, (client.selectDb database link t).1 = .refused args) ∧
        selected (client.selectDb database link t).2 = selected t
  execute : ∀ sql params link unbuffered t, Sql.OnlyReads sql →
    selected (client.execute sql params link unbuffered t).2 = selected t
  question : ∀ params link unbuffered t,
    (∃ args, (client.execute Sql.databaseCollation params link unbuffered t).1 = .refused args) ∨
      ∃ fields columns ms, FieldMeta.ofAnswer fields columns = .ok ms ∧
        (client.execute Sql.databaseCollation params link unbuffered t).1 =
          .ok (.rows fields columns [[.text (collation (selected t link))]])

/-! ## The driver over a client library -/

namespace Connector

theorem client_record (c : Connector τ) (e : Event) : (c.record e).client = c.client := by
  cases e with
  | selected l r | executed l r => cases r <;> rfl
  | _ => rfl

variable {client : Client τ} {selected : τ → Link → Option String}
  {collation : Option String → String}

theorem client_selectDb (database : String) (l : Link) (j : Journal (Connector τ)) :
    (selectDb client database l j).2.state.client =
      (client.selectDb database l j.state.client).2 := by
  rw [selectDb_state, client_record]
  rfl

theorem client_run (sql : String) (params : Option (List Value)) (l : Link) (unbuffered : Bool)
    (j : Journal (Connector τ)) : (run client sql params l unbuffered j).2.state.client =
      (client.execute sql params l unbuffered j.state.client).2 := by
  rw [run_state, client_record]
  rfl

/-- The driver selects what the server selects, and refuses what the server refuses. -/
theorem selecting (h : client.Selecting selected collation) :
    (driver client).Selecting (fun c => selected c.client) collation where
  selectDb database l j := by
    show (selectDb client database l j).1 = _ ∧
        selected (selectDb client database l j).2.state.client = _ ∨
      (selectDb client database l j).1 = _ ∧
        selected (selectDb client database l j).2.state.client = _
    rw [client_selectDb]
    unfold selectDb
    rw [Action.run_bind, run_call]
    rcases h.selectDb database l j.state.client with ⟨hdone, hselected⟩ | ⟨⟨args, hrefused⟩, hkept⟩
    · rw [hdone]
      exact .inl ⟨rfl, hselected⟩
    · rw [hrefused]
      exact .inr ⟨rfl, hkept⟩
  execute sql l unbuffered j hsql := by
    show selected (run client sql none l unbuffered j).2.state.client = _
    rw [client_run]
    exact h.execute sql none l unbuffered j.state.client hsql
  question l unbuffered j := by
    show (run client Sql.databaseCollation none l unbuffered j).1 = _ ∨
      ∃ r, (run client Sql.databaseCollation none l unbuffered j).1 = _ ∧ _
    unfold run
    rw [Action.run_bind, run_call]
    rcases h.question none l unbuffered j.state.client with ⟨args, hrefused⟩ |
      ⟨fields, columns, ms, hmeta, hrows⟩
    · rw [hrefused]
      exact .inl rfl
    · rw [hrows]
      dsimp only
      rw [hmeta]
      exact .inr ⟨_, rfl, rfl⟩

end Connector

/-! ## A small server -/

/-- A server with a few databases. -/
structure SmallServer where
  /-- The databases with their collations. -/
  collations : Assoc String String
  /-- The databases that may not be selected. -/
  denied : List String := []

namespace SmallServer

/-- What changes about the server: the selected databases, and whether the statements to come are
refused. -/
structure State where
  selected : Link → Option String := fun _ => none
  refusals : List Bool := []

variable (server : SmallServer)

/-- The collation of a database, or the server's own. -/
def collation : Option String → String
  | none => "utf8mb4_general_ci"
  | some database => (Assoc.get? server.collations database).getD ""

/-- Select a database. -/
def selectDb (database : String) (link : Link) (t : State) : Response Unit × State :=
  if (Assoc.get? server.collations database).isSome && !server.denied.contains database then
    (.ok (), { t with selected := Function.update t.selected link (some database) })
  else (.refused [.int 1044, .text "Access denied"], t)

/-- A result of one column of texts. -/
def texts (column : String) (rows : List String) : Response ClientAnswer :=
  .ok (.rows [] [[.text column, .int 253, .null, .int 256]] (rows.map fun s => [.text s]))

/-- Answer a statement, if it is one of the two that the server knows. -/
def answer (sql : String) (link : Link) (t : State) : Response ClientAnswer :=
  if sql = Sql.databaseCollation then
    texts "@@collation_database" [server.collation (t.selected link)]
  else if sql = Sql.databaseNames then texts "Database" (Assoc.keys server.collations)
  else .refused [.int 1064, .text "Syntax error"]

/-- Run a statement, unless it is to be refused. -/
def execute (sql : String) (link : Link) (t : State) : Response ClientAnswer × State :=
  let (refused, refusals) := nextAnswer false t.refusals
  (if refused then .refused [.int 2013, .text "Lost connection"] else server.answer sql link t,
    { t with refusals })

/-- The client library of the server. -/
def client : Client State where
  connect _ t := (.refused [], t)
  selectDb := server.selectDb
  execute sql _ link _ := server.execute sql link
  close _ t := (.ok (), t)
  isOpen _ _ := true
  escape _ _ text := text

theorem client_selecting : server.client.Selecting State.selected server.collation where
  selectDb database link t := by
    show (server.selectDb database link t).1 = _ ∧
        (server.selectDb database link t).2.selected = _ ∨
      (∃ args, (server.selectDb database link t).1 = _) ∧
        (server.selectDb database link t).2.selected = _
    unfold selectDb
    split
    · exact .inl ⟨rfl, rfl⟩
    · exact .inr ⟨⟨_, rfl⟩, rfl⟩
  execute _ _ _ _ _ _ := rfl
  question params link unbuffered t := by
    show (∃ args, (server.execute Sql.databaseCollation link t).1 = _) ∨
      ∃ fields columns ms, _ ∧ (server.execute Sql.databaseCollation link t).1 = _
    unfold execute
    dsimp only
    split
    · exact .inl ⟨_, rfl⟩
    · exact .inr ⟨_, _, _, rfl, rfl⟩

end SmallServer

end SqlDesk
