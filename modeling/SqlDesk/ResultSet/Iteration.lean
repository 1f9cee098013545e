import SqlDesk.ResultSet.Reading

/-!
# Iterators of a result set

An iterator gives one row as a mapping at each request, from the cursor that it shares with the
readings and with all other iterators. Once it has found no row it has ended, for good: putting the
cursor back does not bring it to life again.
-/

namespace SqlDesk

/-- A result set with the iterators over it that have ended. Iterators are told by numbers. -/
structure Walk where
  result : ResultSet
  ended : List Nat := []

namespace Walk

/-- A reading of the result set, or a request of an iterator. -/
inductive Step where
  | read (x : ResultSet.Reading)
  | next (iterator : Nat)

variable (w : Walk)

/-- Ask an iterator for a row. -/
def next (iterator : Nat) : Option Row × Walk :=
  if iterator ∈ w.ended then (none, w)
  else match w.result.fetchMapping with
    | (some row, result) => (some row, { w with result })
    | (none, result) => (none, { result, ended := iterator :: w.ended })

/-- The answer to a step, and what it leaves. -/
def step : Step → Except Fault Value × Walk
  | .read x =>
    let (answer, result) := w.result.read x
    (answer, { w with result })
  | .next iterator =>
    let (row, w) := w.next iterator
    (.ok (ResultSet.orNull .map row), w)

def run (xs : List Step) : Walk := xs.foldl (fun w x => (w.step x).2) w

end Walk

end SqlDesk
