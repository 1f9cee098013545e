import SqlDesk.Number.Decimal
import SqlDesk.Text.Numeral

/-!
# Reading decimals

The decimal that a text denotes: white space around it and underscores do not count, digits may be
of any script, and the exponent keeps its trailing zeros.
-/

namespace SqlDesk.Number.Decimal

open Text

/-- The value of an exponent part behind its mark. -/
def exponentOf? (cs : List Char) : Option Int :=
  let (neg, ds) := spanSign cs
  if ds ≠ [] ∧ ds.all isDigit then some (signedInt neg (digitsValue ds)) else none

/-- The exponent at the end of a numeral, zero if there is none. -/
def exponentPart? : List Char → Option Int
  | [] => some 0
  | c :: cs => if c = 'e' ∨ c = 'E' then exponentOf? cs else none

/-- A finite decimal without its sign. -/
def finite? (neg : Bool) (cs : List Char) : Option Decimal :=
  let (whole, rest) := spanDigits cs
  let (part, rest) := match rest with
    | '.' :: rest => spanDigits rest
    | rest => ([], rest)
  if whole = [] ∧ part = [] then none
  else (exponentPart? rest).map fun e => .finite neg (digitsValue (whole ++ part)) (e - part.length)

/-- The digits of a payload, leading zeros left out. -/
def payload? (cs : List Char) : Option (List Nat) :=
  (cs.mapM digitValue?).map fun ds => ds.dropWhile (· == 0)

/-- The decimal that a text denotes. -/
def ofText? (s : String) : Option Decimal :=
  let (neg, body) := spanSign ((strip s.toList).filter (· != '_'))
  let name := String.ofList (body.map Char.toLower)
  if name = "inf" ∨ name = "infinity" then some (.infinite neg)
  else if "nan".toList.isPrefixOf name.toList then (payload? (body.drop 3)).map (.nan neg)
  else if "snan".toList.isPrefixOf name.toList then (payload? (body.drop 4)).map (.signaling neg)
  else finite? neg body

end SqlDesk.Number.Decimal
