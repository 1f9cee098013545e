import SqlDesk.Assoc
import SqlDesk.Number.Decimal

/-!
# Server values

A value as it comes from the server or from a caller's mapping. Numbers of all four kinds are equal
when their exact values are, so `1`, `1.0`, a decimal one and `true` are one key of a mapping.
-/

namespace SqlDesk

open Number

/-- A value of a column, or of a mapping a caller hands in. -/
inductive Value where
  | null
  | bool (b : Bool)
  | int (n : Int)
  | float (x : Binary64)
  | decimal (d : Decimal)
  | text (s : String)
  | bytes (bs : List UInt8)
  | list (vs : List Value)
  | map (es : List (Value × Value))
  /-- A value that the library does not look into, such as a date, as it is shown in messages. -/
  | other (shown : String)
deriving Inhabited

/-- The exact value of a number. -/
inductive Exact where
  | finite (num : Int) (den : Nat)
  | infinite (neg : Bool)
  | undefined
deriving DecidableEq, Repr

namespace Exact

def ofFloat (x : Binary64) : Exact :=
  match x.view with
  | .nan => .undefined
  | .infinite neg => .infinite neg
  | .finite neg m q =>
    let n : Int := (m * 2 ^ q.toNat : Nat)
    .finite (if neg then -n else n) (2 ^ (-q).toNat)

def ofDecimal : Decimal → Exact
  | .finite neg coef exp => let r := Decimal.ratio neg coef exp; .finite r.1 r.2
  | .infinite neg => .infinite neg
  | .nan .. | .signaling .. => .undefined

/-- The order of two exact values; none with an undefined one. -/
def compare? : Exact → Exact → Option Ordering
  | .undefined, _ | _, .undefined => none
  | .infinite a, .infinite b => some (compare b a)
  | .infinite a, .finite .. => some (if a then .lt else .gt)
  | .finite .., .infinite b => some (if b then .gt else .lt)
  | .finite m p, .finite n q => some (compare (m * q) (n * p))

end Exact

namespace Value

/-- The exact value, if the value is a number or a truth value. -/
def exactOf? : Value → Option Exact
  | .bool b => some (.finite (if b then 1 else 0) 1)
  | .int n => some (.finite n 1)
  | .float x => some (.ofFloat x)
  | .decimal d => some (.ofDecimal d)
  | _ => none

/-- Equality of values that are not collections. -/
def sameScalar : Value → Value → Bool
  | .null, .null => true
  | .text a, .text b => a == b
  | .bytes a, .bytes b => a == b
  | .other a, .other b => a == b
  | a, b =>
    match a.exactOf?, b.exactOf? with
    | some x, some y => x.compare? y == some .eq
    | _, _ => false

mutual

def same : Value → Value → Bool
  | .list as, .list bs => sameList as bs
  | .map as, .map bs => as.length == bs.length && sameEntries as bs
  | a, b => sameScalar a b

def sameList : List Value → List Value → Bool
  | [], [] => true
  | a :: as, b :: bs => same a b && sameList as bs
  | _, _ => false

/-- Whether every entry of the first mapping is in the second. -/
def sameEntries : List (Value × Value) → List (Value × Value) → Bool
  | [], _ => true
  | (k, v) :: es, fs => fs.any (fun f => same k f.1 && same v f.2) && sameEntries es fs

end

instance : BEq Value := ⟨same⟩

/-- Whether the value counts as true: it is not null, false, a zero or empty. -/
def truthy : Value → Bool
  | .null => false
  | .bool b => b
  | .int n => n != 0
  | .float x => !x.isZero
  | .decimal d => !d.isZero
  | .text s => !s.isEmpty
  | .bytes bs => !bs.isEmpty
  | .list vs => !vs.isEmpty
  | .map es => !es.isEmpty
  | .other _ => true

/-- The value, or a default in place of one that does not count as true. -/
def orElse (v d : Value) : Value := if v.truthy then v else d

/-- Whether the value may be a key of a mapping. -/
def isKey : Value → Bool
  | .list _ | .map _ => false
  | .decimal (.signaling ..) => false
  | _ => true

end Value

/-- A row as a mapping from column names to values; a caller's mapping may have other keys too. -/
abbrev Row := Assoc Value Value

/-- A row of named facts. -/
def Row.ofFacts (facts : List (String × Value)) : Row := facts.map fun f => (.text f.1, f.2)

/-- The value of a column of a row. -/
def Row.column? (r : Row) (name : String) : Option Value := Assoc.get? r (.text name)

/-- The value of a column of a row, null if it is absent. -/
def Row.column (r : Row) (name : String) : Value := (r.column? name).getD .null

end SqlDesk
