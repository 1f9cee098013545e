import SqlDesk.Digest
import SqlDesk.Error
import SqlDesk.Log.Event
import SqlDesk.Value.Number

/-!
# Statement log

The statements that were run, with their times. Executions of one statement text are one entry,
found by the digest of the text; the entries keep the order of first execution.
-/

namespace SqlDesk.Log

open Number

/-- What is known of a statement text. -/
structure StatementEntry where
  query : String
  /-- The tag of the connection it last ran on. -/
  role : String
  count : Nat := 0
  time : Binary64 := .ofInt 0
  errors : Nat := 0

/-- The mean time of an execution. -/
def StatementEntry.average (e : StatementEntry) : Binary64 :=
  if e.count = 0 then .ofInt 0 else e.time.divNat e.count

/-- What is known of a statement text, by name. -/
def StatementEntry.record (e : StatementEntry) : Row :=
  .ofFacts
    [("query", .text e.query), ("role", .text e.role), ("count", .int e.count),
      ("time", .float e.time), ("errors", .int e.errors), ("average", .float e.average)]

structure StatementLog where
  enabled : Bool := false
  entries : Assoc String StatementEntry := []

/-- A time or a time span. -/
abbrev Time := Num

/-- The span between two readings of a clock. -/
def Time.since (stop start : Time) : Except Fault Time :=
  match stop, start with
  | .int m, .int n => .ok (.int (m - n))
  | .float x, .float y => .ok (.float (x.add y.neg))
  | .float x, .int n => do return .float (x.add (← Value.floatOfInt n).neg)
  | .int m, .float y => do return .float ((← Value.floatOfInt m).add y.neg)

/-- A span in milliseconds with three decimals. -/
def Time.milliseconds : Time → Value
  | .int n => .int (n * 1000)
  | .float x => .float ((x.scale 1000).roundPlaces 3)

/-- A float with a span added to it. -/
def addTime (total : Binary64) : Time → Except Fault Binary64
  | .float x => .ok (total.add x)
  | .int n => do return total.add (← Value.floatOfInt n)

namespace StatementLog

variable (log : StatementLog)

/-- Record an execution. A span that cannot be added leaves the entry counted and without it. -/
def record (query : String) (span : Time) (role : String) (failed : Bool) :
    StatementLog × Option Fault :=
  let key := Digest.ofText query
  let old := (Assoc.get? log.entries key).getD { query, role }
  let counted := { old with role, count := old.count + 1 }
  let put (e : StatementEntry) : StatementLog :=
    { log with entries := Assoc.put log.entries key e }
  match addTime counted.time span with
  | .error e => (put counted, some e)
  | .ok time =>
    (put { counted with time, errors := if failed then old.errors + 1 else old.errors }, none)

/-- The event of an execution. -/
def executed (query : String) (span : Time) (role : String) (failed : Bool) : Event :=
  Event.of .debug "SQL executed"
    [("query", .text query), ("role", .text role), ("duration_ms", span.milliseconds),
      ("failed", .bool failed)]

/-- The outcome of a measured execution: its span, the log and the event that reports it. Only an
enabled log records it. -/
def measure (query role : String) (start stop : Time) (failed : Bool) :
    Except Fault Time × StatementLog × Option Event :=
  match stop.since start with
  | .error e => (.error e, log, none)
  | .ok span =>
    if log.enabled then
      match log.record query span role failed with
      | (log, some e) => (.error e, log, none)
      | (log, none) => (.ok span, log, some (executed query span role failed))
    else (.ok span, log, none)

/-- The entries in order of first execution. -/
def list : List StatementEntry := Assoc.values log.entries

/-- The total time: an integer zero without entries. -/
def totalTime : List StatementEntry → Value
  | [] => .int 0
  | es => .float (es.foldl (fun t e => t.add e.time) (.ofInt 0))

def summary : Row :=
  .ofFacts
    [("count", .int ((log.list.map (·.count)).sum : Nat)), ("distinct", .int log.list.length),
      ("time", totalTime log.list), ("errors", .int ((log.list.map (·.errors)).sum : Nat))]

def clear : StatementLog := { log with entries := [] }

end StatementLog

end SqlDesk.Log
