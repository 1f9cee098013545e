import SqlDesk.Value
import SqlDesk.Text.Numeral

/-!
# Numbers in server values

Servers send numbers in many forms. `toNumber` reads each of them as an integer or a floating point
number, and `plus` and `below` are the sum and the order of values as they are.
-/

namespace SqlDesk

open Number Text

/-- A number as the library computes with it. -/
inductive Num where
  | int (n : Int)
  | float (x : Binary64)
deriving DecidableEq, Repr

def Num.toValue : Num → Value
  | .int n => .int n
  | .float x => .float x

def Num.exact : Num → Exact
  | .int n => .finite n 1
  | .float x => .ofFloat x

/-- Minus one, zero or one as the first of two numbers is below, beside or above the second. A float
that is not a number is beside every number. -/
def Num.compare (a b : Num) : Int :=
  match a.exact.compare? b.exact with
  | some .lt => -1
  | some .gt => 1
  | _ => 0

/-- An exponent part: a mark, an optional sign and at least one digit, up to the end. An empty text
is an exponent of zero. -/
def exponent? : List Char → Option Int
  | [] => some 0
  | c :: cs =>
    if c = 'e' ∨ c = 'E' then
      let (neg, ds) := spanSign cs
      if ds ≠ [] ∧ ds.all isDigit then some (signedInt neg (digitsValue ds)) else none
    else none

/-- The floating point number that an unsigned text denotes: digits around a point, with at least
one digit, and an optional exponent. -/
def fraction? (neg : Bool) (cs : List Char) : Option Binary64 :=
  let (whole, rest) := spanDigits cs
  match rest with
  | '.' :: rest =>
    let (part, rest) := spanDigits rest
    if whole = [] ∧ part = [] then none
    else (exponent? rest).map fun e =>
      Binary64.ofScientific neg (digitsValue (whole ++ part)) (e - part.length)
  | _ => none

/-- The number that a text denotes, white space around it left out. Plain digits are an integer,
digits with a point a floating point number; anything else is none. -/
def numberOfText (cs : List Char) : Except Fault (Option Num) :=
  let (neg, body) := spanSign (strip cs)
  if body ≠ [] ∧ body.all isDigit then do
    let n ← readDigits body
    return some (.int (signedInt neg n))
  else return (fraction? neg body).map .float

/-- The number that a decimal is: an integer if it is integral. -/
def numberOfDecimal : Decimal → Except Fault Num
  | .signaling .. => .error .undefinedDecimal
  | .infinite _ => .error .infiniteDecimal
  | d => .ok (match d.integer? with
    | some n => .int n
    | none => .float d.toBinary64)

namespace Value

/-- The number that a server value denotes, if it denotes one. -/
def toNumber : Value → Except Fault (Option Num)
  | .bool b => .ok (some (.int (if b then 1 else 0)))
  | .int n => .ok (some (.int n))
  | .float x => .ok (some (.float x))
  | .bytes bs => numberOfText (decodeLossy bs).toList
  | .text s => numberOfText s.toList
  | .decimal d => some <$> numberOfDecimal d
  | .null | .list _ | .map _ | .other _ => .ok none

/-- The whole number that a value stands for when one is demanded: integers, truth values, the
integer parts of numbers, and numerals. -/
def toInteger : Value → Except Fault Int
  | .bool b => .ok (if b then 1 else 0)
  | .int n => .ok n
  | .float x =>
    match x.view with
    | .infinite _ => .error .infiniteFloat
    | _ => x.truncate?.elim (.error .noIntegerPart) .ok
  | .decimal d =>
    match d with
    | .infinite _ => .error .infiniteDecimal
    | _ => d.truncate?.elim (.error .noIntegerPart) .ok
  | .text s => (integer? s.toList).elim (.error (.notAnInteger s)) .ok
  | .bytes bs =>
    let cs := bs.map fun b => Char.ofNat b.toNat
    if cs.all (·.toNat < 128) then
      (integer? cs).elim (.error (.notAnInteger (String.ofList cs))) .ok
    else .error (.notAnInteger (decodeLossy bs))
  | .null | .list _ | .map _ | .other _ => .error .unfitOperands

/-- An integer as a floating point number, unless it is beyond the largest one. -/
def floatOfInt (n : Int) : Except Fault Binary64 :=
  let x := Binary64.ofInt n
  match x.view with
  | .infinite _ => .error .integerTooLarge
  | _ => .ok x

/-- The integer behind a whole number or a truth value. -/
def whole? : Value → Option Int
  | .bool b => some (if b then 1 else 0)
  | .int n => some n
  | _ => none

/-- The sum of a decimal with another. -/
def plusDecimal (a b : Decimal) : Except Fault Value :=
  (a.add b).elim (.error .undefinedDecimal) fun d => .ok (.decimal d)

/-- The sum of two values: of numbers, except between floating point numbers and decimals, and the
concatenation of texts, byte strings and lists. -/
def plus : Value → Value → Except Fault Value
  | .float x, .float y => .ok (.float (x.add y))
  | .decimal a, .decimal b => plusDecimal a b
  | .text s, .text t => .ok (.text (s ++ t))
  | .bytes s, .bytes t => .ok (.bytes (s ++ t))
  | .list s, .list t => .ok (.list (s ++ t))
  | a, b =>
    match a.whole?, b.whole?, a, b with
    | some m, some n, _, _ => .ok (.int (m + n))
    | some m, none, _, .float y => do return .float ((← floatOfInt m).add y)
    | none, some n, .float x, _ => do return .float (x.add (← floatOfInt n))
    | some m, none, _, .decimal d => plusDecimal (.ofInt m) d
    | none, some n, .decimal d, _ => plusDecimal d (.ofInt n)
    | _, _, _, _ => .error .unfitOperands

def isDecimal : Value → Bool
  | .decimal _ => true
  | _ => false

/-- The order of two numbers by their exact values. A number that is undefined stands beside every
floating point number and has no order with a decimal. -/
def orderExact (a b : Value) (x y : Exact) : Except Fault (Option Ordering) :=
  if (a.isDecimal || b.isDecimal) && (x == .undefined || y == .undefined) then
    .error .undefinedDecimal
  else .ok (x.compare? y)

mutual

/-- The order of two values: of numbers by exact value, of texts and byte strings by code, of lists
item by item. `none` if they are equal or stand beside each other. -/
def order : Value → Value → Except Fault (Option Ordering)
  | .text a, .text b => .ok (some (compareText a b))
  | .bytes a, .bytes b => .ok (some (compareOfLessAndEq (a.map UInt8.toNat) (b.map UInt8.toNat)))
  | .list as, .list bs => orderList as bs
  | a, b =>
    match a.exactOf?, b.exactOf? with
    | some x, some y => orderExact a b x y
    | _, _ => .error .unfitOperands

/-- The order of two lists is that of their first items that differ. -/
def orderList : List Value → List Value → Except Fault (Option Ordering)
  | [], [] => .ok (some .eq)
  | [], _ :: _ => .ok (some .lt)
  | _ :: _, [] => .ok (some .gt)
  | a :: as, b :: bs => if same a b then orderList as bs else order a b

end

/-- Minus one, zero or one as the first of two values is below, beside or above the second. -/
def sign (a b : Value) : Except Fault Int := do
  match ← order a b with
  | some .lt => return -1
  | some .gt => return 1
  | _ => return 0

end Value

end SqlDesk
