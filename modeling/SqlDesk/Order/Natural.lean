import SqlDesk.Text.Case
import SqlDesk.Text.Numeral
import SqlDesk.Value.Show
import SqlDesk.Order.Sorting

/-!
# Natural order

Names as people sort them: runs of digits compare as numbers, everything else without regard to
case, so `t9` comes before `t10`. A key is a list of chunks; a number is below any text.
-/

namespace SqlDesk.Order

open Text

/-- A piece of a natural sort key. -/
inductive Chunk where
  | number (n : Nat)
  | text (cs : List Char)
deriving DecidableEq, Repr

/-- Minus one, zero or one by the order of code points. -/
def compareChars : List Char → List Char → Ordering
  | [], [] => .eq
  | [], _ :: _ => .lt
  | _ :: _, [] => .gt
  | a :: as, b :: bs =>
    if a.toNat < b.toNat then .lt else if b.toNat < a.toNat then .gt else compareChars as bs

/-- The order of chunks. -/
def Chunk.compare : Chunk → Chunk → Ordering
  | .number m, .number n => compareOfLessAndEq m n
  | .number _, .text _ => .lt
  | .text _, .number _ => .gt
  | .text a, .text b => compareChars a b

/-- The order of keys: that of their first chunks that differ. -/
def compareKeys : List Chunk → List Chunk → Ordering
  | [], [] => .eq
  | [], _ :: _ => .lt
  | _ :: _, [] => .gt
  | a :: as, b :: bs => (a.compare b).then (compareKeys as bs)

/-- A text cut into its longest runs of digits and of other characters. -/
def runs : List Char → List (List Char)
  | [] => []
  | c :: cs =>
    match runs cs with
    | (d :: ds) :: rest =>
      if isDigit c = isDigit d then (c :: d :: ds) :: rest else [c] :: (d :: ds) :: rest
    | rest => [c] :: rest

/-- The chunk of a run. A run that looks like digits all over must be a number. -/
def Chunk.ofRun (cs : List Char) : Except Fault Chunk :=
  if cs.all isDigitLike then
    if cs.all isDigit then .number <$> readDigits cs
    else .error (.notAnInteger (String.ofList cs))
  else .ok (.text cs)

def naturalKey (s : String) : Except Fault (List Chunk) :=
  (runs (lowerList s.toList)).mapM Chunk.ofRun

/-- The natural sort key of a value, that of its text. -/
def naturalKeyOf (v : Value) : Except Fault (List Chunk) := naturalKey v.plain

/-- An ordering as a number. -/
def signOf : Ordering → Int
  | .lt => -1
  | .eq => 0
  | .gt => 1

/-- Sort by natural keys, which are computed for all items before the first comparison. -/
def sortNaturally {α : Type} (text : α → String) (xs : List α) : Except Fault (List α) := do
  let keyed ← xs.mapM fun x => do return (← naturalKey (text x), x)
  let sorted ← sortWith (fun a b => .ok (signOf (compareKeys a.1 b.1))) keyed
  return sorted.map (·.2)

/-- The text by which a value is compared: nothing for null. -/
def comparedText : Value → String
  | .null => ""
  | v => v.plain

/-- Compare two values as texts, naturally or without regard to case. -/
def compareTexts (a b : Value) (natural : Bool) : Except Fault Int :=
  if natural then do
    let x ← naturalKey (comparedText a)
    let y ← naturalKey (comparedText b)
    return signOf (compareKeys x y)
  else
    .ok (signOf (compareChars (lowerList (comparedText a).toList)
      (lowerList (comparedText b).toList)))

end SqlDesk.Order
