import SqlDesk.Driver.Client

/-!
# Scripted drivers and clients

A driver and a client library that answer from a script, so that a desk can be tried without a
server. Each kind of call takes the next of its answers; a statement without an answer fails, every
other call succeeds. New links are named by their number.
-/

namespace SqlDesk

def nextAnswer {α : Type} (default : α) : List α → α × List α
  | [] => (default, [])
  | a :: as => (a, as)

/-- The name of the `n`-th new link. -/
def newLink (n : Nat) : Link := ⟨"c" ++ toString n⟩

/-- The error of a statement without an answer. -/
def noAnswer : LinkError := ⟨1064, "no scripted answer"⟩

inductive ScriptedAnswer where
  | fails (e : LinkError)
  | raises (kind text : String)
  | count (n : Int)
  | rows (r : ResultSet)

/-- A script for a driver, with what the driver keeps of each link. -/
structure Script where
  answers : List ScriptedAnswer := []
  /-- The answers to selections of a database: an error if they fail. -/
  selects : List (Option LinkError) := []
  /-- The answers to attempts to connect: an error if they fail. -/
  connects : List (Option LinkError) := []
  opened : Nat := 0
  errors : Assoc Link LinkError := []
  affected : Assoc Link Int := []
  connectError : LinkError := {}

namespace Script

def connect (s : Script) : Option Link × Script :=
  match nextAnswer none s.connects with
  | (none, connects) =>
    (some (newLink (s.opened + 1)), { s with connects, opened := s.opened + 1 })
  | (some e, connects) => (none, { s with connects, connectError := e })

/-- Select a database. A success leaves the error of the link as it is. -/
def selectDb (l : Link) (s : Script) : Bool × Script :=
  match nextAnswer none s.selects with
  | (none, selects) => (true, { s with selects })
  | (some e, selects) => (false, { s with selects, errors := Assoc.put s.errors l e })

/-- The state after a statement that succeeds. -/
def succeed (l : Link) (n : Int) (s : Script) : Script :=
  { s with errors := Assoc.erase s.errors l, affected := Assoc.put s.affected l n }

def execute (l : Link) (s : Script) : Except Error Outcome × Script :=
  let (a, answers) := nextAnswer (.fails noAnswer) s.answers
  let s := { s with answers }
  match a with
  | .fails e => (.ok .failed, { s with errors := Assoc.put s.errors l e })
  | .raises kind text => (.error (.raised kind text), s)
  | .count n => (.ok .done, s.succeed l n)
  | .rows r => (.ok (.rows r), s.succeed l r.rows.length)

/-- One character inside a string literal. -/
def escapeChar (c : Char) : List Char :=
  if c = '\\' ∨ c = '\'' then ['\\', c] else [c]

/-- Do something with the state of a script. -/
def act {α : Type} (f : Script → α × Script) : Action (Journal Script) α :=
  modifyGet fun j => let (a, state) := f j.state; (a, { j with state })

/-- The driver that follows a script. It prepares no statements. -/
def driver : Driver Script where
  connect _ := act connect
  selectDb _ l := act (selectDb l)
  execute _ l _ := do MonadExcept.ofExcept (← act (execute l))
  prepare _ _ := return none
  runPrepared _ _ := return .failed
  lastError s
    | none => s.connectError
    | some l => (Assoc.get? s.errors l).getD {}
  affected s l := (Assoc.get? s.affected l).getD 0
  escape _ _ text := String.ofList (text.toList.flatMap escapeChar)
  close _ := return

end Script

/-- A script for a client library. -/
structure ClientScript where
  answers : List (Response ClientAnswer) := []
  selects : List (Response Unit) := []
  connects : List (Response Unit) := []
  closes : List (Response Unit) := []
  opened : Nat := 0
  closed : List Link := []

namespace ClientScript

def connect (s : ClientScript) : Response Link × ClientScript :=
  let (a, connects) := nextAnswer (.ok ()) s.connects
  let s := { s with connects }
  match a with
  | .ok _ => (.ok (newLink (s.opened + 1)), { s with opened := s.opened + 1 })
  | .refused args => (.refused args, s)
  | .raised kind text => (.raised kind text, s)

def selectDb (s : ClientScript) : Response Unit × ClientScript :=
  let (a, selects) := nextAnswer (.ok ()) s.selects
  (a, { s with selects })

def execute (s : ClientScript) : Response ClientAnswer × ClientScript :=
  let (a, answers) := nextAnswer (.refused [.int noAnswer.number, .text noAnswer.text]) s.answers
  (a, { s with answers })

/-- Close a connection, which is closed even if that fails. -/
def close (l : Link) (s : ClientScript) : Response Unit × ClientScript :=
  let (a, closes) := nextAnswer (.ok ()) s.closes
  (a, { s with closes, closed := l :: s.closed })

/-- One character inside a string literal. -/
def escapeChar (c : Char) : List Char :=
  if c.toNat = 0 then ['\\', '0']
  else if c = '\n' then ['\\', 'n']
  else if c = '\r' then ['\\', 'r']
  else if c.toNat = 0x1a then ['\\', 'Z']
  else if c = '"' ∨ c = '\'' ∨ c = '\\' then ['\\', c]
  else [c]

/-- The client library that follows a script. -/
def client : Client ClientScript where
  connect _ := connect
  selectDb _ _ := selectDb
  execute _ _ _ _ := execute
  close := close
  isOpen s l := !s.closed.contains l
  escape _ _ text := String.ofList (text.toList.flatMap escapeChar)

end ClientScript

end SqlDesk
