import SqlDesk.Desk.Bench
import SqlDesk.Driver.Script
import SqlDesk.Proofs.Desk.Request

/-!
# Runs of a desk

A run of a desk is a list of moves: requests of the desk, and requests that are made of its driver
directly, as when a prepared statement is executed. What every move keeps, a run keeps.
-/

namespace SqlDesk

/-- A request of a desk as one of its driver. -/
def Call.request : Call → DriverRequest
  | .connect params => .connect params
  | .selectDb link database => .selectDb (some link) database
  | .query link sql unbuffered => .execute (some link) sql unbuffered
  | .prepare link sql => .prepare link sql
  | .close link => .close (some link)

namespace Desk

/-- Something that is done with a desk. -/
inductive Move where
  | ask (r : Request)
  /-- A request is made of the driver itself. -/
  | drive (r : DriverRequest)

variable {σ : Type} (desk : Desk σ)

/-- The requests that a move makes of the driver, and the state after it. -/
def move (s : DeskState σ) : Move → List DriverRequest × DeskState σ
  | .ask r =>
    let s' := (desk.perform r s).2
    ((s'.world.calls.drop s.world.calls.length).map Call.request, s')
  | .drive r => ([r], (Bench.onDriver (desk.driver.perform r) s).2)

/-- The requests that moves make of the driver, and the state after them. -/
def run : List Move → DeskState σ → List DriverRequest × DeskState σ
  | [], s => ([], s)
  | m :: ms, s =>
    let made := desk.move s m
    let rest := run ms made.2
    (made.1 ++ rest.1, rest.2)

theorem run_append (ms ns : List Move) (s : DeskState σ) :
    (desk.run (ms ++ ns) s).2 = (desk.run ns (desk.run ms s).2).2 := by
  induction ms generalizing s with
  | nil => rfl
  | cons m ms ih => exact ih _

variable {desk} in
/-- What every move of a run keeps, the run keeps. -/
theorem run_keeps {I : DeskState σ → Prop} {ms : List Move}
    (hmove : ∀ m ∈ ms, ∀ s, I s → I (desk.move s m).2) {s : DeskState σ} (hs : I s) :
    I (desk.run ms s).2 := by
  induction ms generalizing s with
  | nil => exact hs
  | cons m ms ih =>
    exact ih (fun m hm => hmove m (List.mem_cons_of_mem _ hm)) (hmove m List.mem_cons_self s hs)

variable {desk} in
/-- A run stays within a relation that is kept by its requests and by whatever happens to the driver
and the reports. -/
theorem run_within {R : DeskState σ → DeskState σ → Prop} (hrefl : ∀ s, R s s)
    (htrans : ∀ {s t u}, R s t → R t u → R s u)
    (hdriver : ∀ s journal, R s { s with world := { s.world with journal } }) {ms : List Move}
    (hask : ∀ r, .ask r ∈ ms → ∀ s, R s (desk.perform r s).2) (s : DeskState σ) :
    R s (desk.run ms s).2 := by
  refine run_keeps (I := R s) (fun m hm t ht => htrans ht ?_) (hrefl s)
  cases m with
  | ask r => exact hask r hm t
  | drive r => exact hdriver t _

/-- A desk whose driver follows a script and whose clock stands still. -/
def scripted (settings : DeskSettings := {}) : Desk Script where
  driver := Script.driver
  clock _ := .float (.ofInt 0)
  settings
  scope := ""

theorem scripted_countsSeconds (settings : DeskSettings) : (scripted settings).CountsSeconds :=
  fun _ => ⟨_, rfl⟩

end Desk

end SqlDesk
