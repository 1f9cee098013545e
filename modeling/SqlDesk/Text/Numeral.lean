import SqlDesk.Text.Class
import SqlDesk.Fault

/-!
# Numerals

Runs of decimal digits of any script and the integers they denote. A numeral of more than
`maxDigits` digits is refused.
-/

namespace SqlDesk.Text

/-- The longest numeral that is read. -/
def maxDigits : Nat := 4300

/-- The number that a run of digits denotes. -/
def digitsValue (cs : List Char) : Nat :=
  cs.foldl (fun n c => 10 * n + (digitValue? c).getD 0) 0

/-- The number that a run of digits denotes, unless the run is too long. -/
def readDigits (cs : List Char) : Except Fault Nat :=
  if maxDigits < cs.length then .error (.numeralTooLong cs.length) else .ok (digitsValue cs)

/-- The longest run of digits at the start of a text, and the rest. -/
def spanDigits (cs : List Char) : List Char × List Char := cs.span isDigit

/-- Digits with single underscores between them, underscores left out. The flag tells that an
underscore may come next. -/
def joinedDigits : Bool → List Char → Option (List Char)
  | mayJoin, [] => if mayJoin then some [] else none
  | mayJoin, c :: cs =>
    if isDigit c then (joinedDigits true cs).map (c :: ·)
    else if c = '_' ∧ mayJoin then joinedDigits false cs
    else none

/-- An optional sign: whether it is a minus, and the rest of the text. -/
def spanSign : List Char → Bool × List Char
  | '-' :: cs => (true, cs)
  | '+' :: cs => (false, cs)
  | cs => (false, cs)

/-- An integer with a sign. -/
def signedInt (neg : Bool) (n : Nat) : Int := if neg then -n else n

/-- The integer that a text denotes: white space around it, an optional sign, and digits with single
underscores between them. -/
def integer? (cs : List Char) : Option Int :=
  let (neg, body) := spanSign (strip cs)
  match joinedDigits false body with
  | some ds => if maxDigits < ds.length then none else some (signedInt neg (digitsValue ds))
  | none => none

end SqlDesk.Text
