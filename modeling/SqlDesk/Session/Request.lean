import SqlDesk.Error
import SqlDesk.Session

/-!
# Requests of a session cache

The caches of several logins may share one storage. A value that is missing can be computed; the
computation is an operation of the caller, which may fail and may ask the same caches on its way.
-/

namespace SqlDesk.Session

mutual

/-- What can be asked of the cache of a scope. -/
inductive Request where
  | has (key : Value)
  | get (key default : Value)
  | set (key value : Value)
  | remove (key : Value)
  | clear
  /-- The value of a key, which is computed and written if it is missing. -/
  | compute (key : Value) (computation : Computation)
  | describe

/-- The computation of a value, as far as it has to do with the storage. -/
inductive Computation where
  /-- It returns or fails. -/
  | done (outcome : Except Error Value)
  /-- It asks the cache of a scope and goes on by the answer. -/
  | ask (scope : String) (r : Request) (next : Except Error Value → Computation)

end

mutual

/-- The storage after a request, and the answer. -/
def perform (st : Storage) (scope : String) : Request → Storage × Except Error Value
  | .has key => (st, .bool <$> Error.ofFault (has st scope key))
  | .get key default => (st, Error.ofFault (get st scope key default))
  | .set key value =>
    let (st, r) := set st scope key value
    (st, (fun _ => .null) <$> Error.ofFault r)
  | .remove key =>
    let (st, r) := remove st scope key
    (st, (fun _ => .null) <$> Error.ofFault r)
  | .clear =>
    let (st, r) := clear st scope
    (st, (fun _ => .null) <$> Error.ofFault r)
  | .compute key computation =>
    match lookup st scope key with
    | .error f => (st, .error (.fault f))
    | .ok (some v) => (st, .ok v)
    | .ok none =>
      match computation.run st with
      | (st, .error e) => (st, .error e)
      | (st, .ok v) =>
        let (st, r) := set st scope key v
        (st, (fun _ => v) <$> Error.ofFault r)
  | .describe => (st, .ok (.text (describe scope)))

/-- The storage after a computation, and its outcome. -/
def Computation.run (st : Storage) : Computation → Storage × Except Error Value
  | .done outcome => (st, outcome)
  | .ask scope r next =>
    let (st, answer) := perform st scope r
    (next answer).run st

end

/-- Whether a request runs its computation. -/
def computes (st : Storage) (scope : String) : Request → Bool
  | .compute key _ =>
    match lookup st scope key with
    | .ok none => true
    | _ => false
  | _ => false

/-- What a request shows: its answer, and whether it ran its computation. -/
structure Shown where
  answer : Except Error Value
  computed : Bool

/-- Ask the cache of a login. -/
def step (st : Storage) (l : Login) (r : Request) : Storage × Shown :=
  let (st', answer) := perform st l.scope r
  (st', ⟨answer, computes st l.scope r⟩)

/-- Ask the caches of logins over one storage, one after the other. -/
def run (st : Storage) : List (Login × Request) → Storage × List Shown
  | [] => (st, [])
  | (l, r) :: steps =>
    let (st, shown) := step st l r
    let (st, rest) := run st steps
    (st, shown :: rest)

end SqlDesk.Session
