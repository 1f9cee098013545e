import SqlDesk.Log.Logger

/-!
# Groups of loggers

Several loggers that share one table of levels, and what can be asked of them.
-/

namespace SqlDesk.Log

/-- Loggers in the order in which they were made. -/
structure Group where
  levels : Levels := {}
  loggers : List Logger := []

/-- What can be asked of a logger of a group. -/
inductive Request where
  /-- Make another logger. -/
  | make (name : String) (level : Option String) (context : Row)
  /-- Make another logger with more context. -/
  | bind (more : Row)
  | enter (more : Row)
  | leave
  | report (severity : Severity) (message : String) (fields : Row)
  | reportError (message : String) (fields : Row)
  | setLevel (level : Option String)
  | level
  | context
  | describe

/-- Whether the facts of a request can be given by name. -/
def Request.fits (l : Logger) : Request → Bool
  | .bind more | .enter more => fitBeside ["self"] more
  | .report _ _ fields => l.takes [] fields
  | .reportError _ fields => l.takes ["exc_info"] fields
  | _ => true

namespace Group

variable (g : Group)

def put (i : Nat) (l : Logger) : Group := { g with loggers := g.loggers.set i l }

def add (l : Logger) : Group := { g with loggers := g.loggers ++ [l] }

/-- Carry out a request, whose facts fit, of the logger in the `i`-th place: the answer, the group
after it and the events. -/
def carryOut (i : Nat) (l : Logger) : Request → Except Error Value × Group × List Event
  | .make name level context =>
    match g.levels.makeLogger name level context with
    | .error e => (.error e, g, [])
    | .ok (l, levels) => (.ok (.text l.name), { g with levels }.add l, [])
  | .bind more => let l := l.bind more; (.ok (.map l.context), g.add l, [])
  | .enter more => (.ok .null, g.put i (l.enter more), [])
  | .leave => (.ok (.bool false), g.put i l.leave, [])
  | .report severity message fields => (.ok .null, g, [l.report severity message fields])
  | .reportError message fields => (.ok .null, g, [l.reportError message fields])
  | .setLevel level =>
    match readLevelName level with
    | .error e => (.error e, g, [])
    | .ok n => (.ok .null, { g with levels := g.levels.set l.name n }, [])
  | .level => (.ok (.text (levelName (g.levels.effective l.name))), g, [])
  | .context => (.ok (.map l.context), g, [])
  | .describe => (.ok (.text l.describe), g, [])

/-- Ask the `i`-th logger: the answer, the group after it and the events. -/
def perform (i : Nat) (r : Request) : Except Error Value × Group × List Event :=
  let l := g.loggers.getD i { name := "" }
  if r.fits l then g.carryOut i l r else (.error (.fault .unfitOperands), g, [])

end Group

end SqlDesk.Log
