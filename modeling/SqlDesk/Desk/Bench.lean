import SqlDesk.Desk.Request
import SqlDesk.Driver.Request
import SqlDesk.ResultSet.Reading
import SqlDesk.Text.Quoted

/-!
# Workbenches

A desk together with the results and prepared statements that its user has put aside under names. A
result under two names has one cursor.
-/

namespace SqlDesk

/-- What was put aside. -/
inductive Kept where
  /-- A result by its number. -/
  | result (i : Nat)
  /-- Something that nothing can be read from. -/
  | other
deriving DecidableEq, Repr

/-- A prepared statement that was put aside, and the result it last came to. -/
structure KeptStatement where
  statement : Option Prepared
  result : Option Nat := none

/-- A desk with what was put aside. -/
structure Bench (σ : Type) where
  desk : Desk σ
  state : DeskState σ
  results : Array ResultSet := #[]
  kept : Assoc String Kept := []
  statements : Assoc String KeptStatement := []

/-- A result that a step works on: one put aside, or another one. -/
inductive Source where
  | named (name : String)
  | given (r : ResultSet)

/-- A step at a workbench. -/
inductive Step where
  | ask (r : Request)
  /-- Ask the driver itself. -/
  | drive (r : DriverRequest)
  | read (source : Source) (r : ResultSet.Reading)
  | fields (source : Source)
  /-- Make the statement that copies descriptions to the columns of a view. -/
  | copy (source : Source) (columns : List Row) (view database : String)
  /-- Prepare a statement on the connection of a role and put it aside. -/
  | prepare (name sql : String) (role : Role)
  /-- Prepare a statement on a link and put it aside. -/
  | prepareOn (name : String) (link : Option Link) (sql : String)
  | execute (name : String) (params : List Value)
  | outcome (name : String)

namespace Bench

variable {σ : Type} (b : Bench σ)

/-- What a step comes to: its answer, what of it can be put aside, and the workbench after it. -/
abbrev Turn (σ : Type) := Except Error Reply × Kept × Bench σ

def failed (e : Error) : Turn σ := (.error e, .other, b)

/-- A step with an answer from which nothing can be read. -/
def done (r : Reply) : Turn σ := (.ok r, .other, b)

/-- A result under a new number. -/
def add (r : ResultSet) : Nat × Bench σ :=
  (b.results.size, { b with results := b.results.push r })

def answered (r : Reply) : Turn σ :=
  match r with
  | .outcome (.rows rs) => let (i, b) := b.add rs; (.ok r, .result i, b)
  | r => b.done r

/-- Carry out an operation of the desk and go on with its outcome. -/
def act {α : Type} (a : Act σ α) (next : Bench σ → α → Turn σ) : Turn σ :=
  match a b.state with
  | (.error e, state) => failed { b with state } e
  | (.ok x, state) => next { b with state } x

/-- An operation of the driver as one of the desk. -/
def onDriver {α : Type} (a : Action (Journal σ) α) : Act σ α := fun s =>
  let (r, journal) := a s.world.journal
  (r, { s with world := { s.world with journal } })

def unknownName (name : String) : Error := .fault (.noSuchKey (Text.quoted name))

/-- Go on with the result that a source means; `lack` tells what is wrong if it is none. -/
def withResult (source : Source) (lack : Fault) (next : Bench σ → Nat → ResultSet → Turn σ) :
    Turn σ :=
  match source with
  | .given r => let (i, b) := b.add r; next b i r
  | .named name =>
    match b.kept.get? name with
    | none => b.failed (unknownName name)
    | some .other => b.failed (.fault lack)
    | some (.result i) =>
      match b.results[i]? with
      | some r => next b i r
      | none => b.failed (.fault lack)

/-- The workbench after a result was read. -/
def update (i : Nat) (r : ResultSet) : Bench σ := { b with results := b.results.setIfInBounds i r }

def keepStatement (name : String) (b : Bench σ) (p : Option Prepared) : Turn σ :=
  done { b with statements := b.statements.put name ⟨p, none⟩ } (.statement p)

/-- Whether a statement did not fail. -/
def succeeded : Outcome → Bool
  | .failed => false
  | _ => true

def keepOutcome (name : String) (p : Prepared) (b : Bench σ) (o : Outcome) : Turn σ :=
  let (result, b) := match o with
    | .rows r => let (i, b) := b.add r; (some i, b)
    | _ => (none, b)
  done { b with statements := b.statements.put name ⟨some { p with outcome := o }, result⟩ }
    (.truth (succeeded o))

def withStatement (name : String) (next : Prepared → Option Nat → Turn σ) : Turn σ :=
  match b.statements.get? name with
  | none => b.failed (unknownName name)
  | some ⟨none, _⟩ => b.failed (.fault .unknownMember)
  | some ⟨some p, i⟩ => next p i

/-- Whether a source is known to be no result. -/
def lacks : Source → Bool
  | .given _ => false
  | .named name => b.kept.get? name == some .other

def step : Step → Turn σ
  | .ask r => b.act (b.desk.perform r) answered
  | .drive r => b.act (onDriver (b.desk.driver.perform r)) answered
  | .read source r => b.withResult source .unknownMember fun b i rs =>
    match rs.read r with
    | (.ok v, rs) => (b.update i rs).done (.value v)
    | (.error f, rs) => (b.update i rs).failed (.fault f)
  | .fields source => b.withResult source .unknownMember fun b _ rs => b.done (.fields rs.fieldsMeta)
  | .copy source columns view database =>
    if b.lacks source && b.desk.descriptionTable.isNone then b.done (.text "")
    else b.withResult source .unfitOperands fun b i rs =>
      b.act (b.desk.copyStatement rs columns view database) fun b (text, rs) =>
        match text with
        | .ok text => (b.update i rs).done (.text text)
        | .error e => (b.update i rs).failed e
  | .prepare name sql role => b.act (b.desk.prepare sql role) (keepStatement name)
  | .prepareOn name link sql => b.act (onDriver (b.desk.driver.prepare link sql)) (keepStatement name)
  | .execute name params => b.withStatement name fun p _ =>
    b.act (onDriver (b.desk.driver.runPrepared p params)) (keepOutcome name p)
  | .outcome name => b.withStatement name fun p i =>
    (.ok (.outcome p.outcome), i.elim .other .result, b)

/-- Put the outcome of a step aside. -/
def keep (name : String) (k : Kept) : Bench σ := { b with kept := b.kept.put name k }

end Bench

end SqlDesk
