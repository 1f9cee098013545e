/-!
# Sorting and pages

Lists are sorted stably, with a comparison that may fail, and a part of a sorted list can be asked
for. To sort, the list is cut at the end of its first run: the longest ascending start, or the
longest strictly descending one, which is reversed. Every later item is then inserted behind the
items that are not above it, at a position found by halving. The first comparison that fails ends
the sort. For a total preorder the result is the stable sorted list; the comparisons made, and so
which failure comes first, are those of this rule. In a page, a negative offset counts from the end.
-/

namespace SqlDesk.Order

variable {ε α : Type}

/-! ## Sorting -/

/-- The length of the run `prev, x, …` that goes on while `below x prev = want`. -/
def runLength (below : α → α → Except ε Bool) (want : Bool) : α → List α → Except ε Nat
  | _, [] => .ok 0
  | prev, x :: xs => do
    if (← below x prev) = want then return (← runLength below want x xs) + 1 else return 0

/-- The first run of a list in ascending order, and the rest of the list. -/
def firstRun (below : α → α → Except ε Bool) : List α → Except ε (List α × List α)
  | [] => .ok ([], [])
  | [x] => .ok ([x], [])
  | x :: y :: xs => do
    let down ← below y x
    let n ← runLength below down y xs
    let run := x :: y :: xs.take n
    return (if down then run.reverse else run, xs.drop n)

/-- The position behind the last item of the sorted part `xs` between `lo` and `hi` that is not
above `x`, found by halving. -/
def position (below : α → α → Except ε Bool) (x : α) (xs : Array α) (lo hi : Nat) : Except ε Nat :=
  if lo < hi then
    let mid := lo + (hi - lo) / 2
    match xs[mid]? with
    | none => .ok lo
    | some y =>
      match below x y with
      | .error e => .error e
      | .ok true => position below x xs lo mid
      | .ok false => position below x xs (mid + 1) hi
  else .ok lo
termination_by hi - lo

def insertInto (below : α → α → Except ε Bool) (xs : List α) (x : α) : Except ε (List α) := do
  let i ← position below x xs.toArray 0 xs.length
  return xs.take i ++ x :: xs.drop i

/-- Sort a list by a comparison that says whether its first argument is below its second. -/
def sortBy (below : α → α → Except ε Bool) (xs : List α) : Except ε (List α) := do
  let (run, rest) ← firstRun below xs
  rest.foldlM (insertInto below) run

/-- Sort a list by a comparison that gives a negative number for "below". -/
def sortWith (cmp : α → α → Except ε Int) (xs : List α) : Except ε (List α) :=
  sortBy (fun a b => (· < 0) <$> cmp a b) xs

/-! ## Pages -/

/-- The position that a bound means in a list of a length: a negative bound counts from the end, and
all bounds are moved into the list. -/
def bound (length : Nat) (i : Int) : Nat :=
  if 0 ≤ i then min i.toNat length else (length + i).toNat

/-- The part of a list from one bound up to another. -/
def slice (xs : List α) (start stop : Int) : List α :=
  (xs.take (bound xs.length stop)).drop (bound xs.length start)

/-- The part of a list from a bound on. -/
def sliceFrom (xs : List α) (start : Int) : List α := xs.drop (bound xs.length start)

/-- A page of a listing: at most `limit` entries, or all the rest without a positive limit. -/
def page (xs : List α) (offset limit : Int) : List α :=
  if 0 < limit then slice xs offset (offset + limit) else sliceFrom xs offset

end SqlDesk.Order
