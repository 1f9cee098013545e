import SqlDesk.Number.Binary64

/-!
# Decimal numbers

The exact decimals that a server sends for fixed point columns: `± coef · 10 ^ exp`, the infinities
and the two kinds of number that is none. Comparison and conversion are exact; a sum is rounded to
28 significant digits, half to even.
-/

namespace SqlDesk.Number

/-- A decimal number. Two decimals of one value may differ in their exponents, which their texts
show. -/
inductive Decimal where
  | finite (neg : Bool) (coef : Nat) (exp : Int)
  | infinite (neg : Bool)
  | nan (neg : Bool) (payload : List Nat)
  | signaling (neg : Bool) (payload : List Nat)
deriving DecidableEq, Repr, Inhabited

namespace Decimal

/-- The significant digits of a sum. -/
def precision : Nat := 28

def ofInt (n : Int) : Decimal := .finite (n < 0) n.natAbs 0

/-- The exact value of a finite decimal as a signed numerator and a denominator. -/
def ratio (neg : Bool) (coef : Nat) (exp : Int) : Int × Nat :=
  let n : Int := (coef * 10 ^ exp.toNat : Nat)
  (if neg then -n else n, 10 ^ (-exp).toNat)

/-- The integer that a finite decimal equals, if it is one. -/
def integer? : Decimal → Option Int
  | .finite neg coef exp =>
    if 0 ≤ exp then
      let n : Int := (coef * 10 ^ exp.toNat : Nat)
      some (if neg then -n else n)
    else
      let p := 10 ^ (-exp).toNat
      if coef % p = 0 then some (if neg then -((coef / p : Nat) : Int) else (coef / p : Nat)) else none
  | _ => none

/-- The integer part of a finite decimal. -/
def truncate? : Decimal → Option Int
  | .finite neg coef exp =>
    let n : Int := (coef * 10 ^ exp.toNat / 10 ^ (-exp).toNat : Nat)
    some (if neg then -n else n)
  | _ => none

def isZero : Decimal → Bool
  | .finite _ 0 _ => true
  | _ => false

/-- The nearest floating point number. -/
def toBinary64 : Decimal → Binary64
  | .finite neg coef exp => .ofScientific neg coef exp
  | .infinite neg => .infinity neg
  | .nan .. | .signaling .. => .nan

/-- A finite decimal with at most `precision` digits. -/
def round (neg : Bool) (coef : Nat) (exp : Int) : Decimal :=
  let extra := digitCount coef - precision
  if extra = 0 then .finite neg coef exp
  else
    let c := roundDiv coef (10 ^ extra)
    -- rounding up may have produced one digit more
    if digitCount c > precision then .finite neg (c / 10) (exp + extra + 1)
    else .finite neg c (exp + extra)

/-- The sum of two finite decimals. The exponent of the exact sum is the smaller one. -/
def addFinite (a : Bool) (m : Nat) (p : Int) (b : Bool) (n : Nat) (q : Int) : Decimal :=
  let e := min p q
  let x : Int := (m * 10 ^ (p - e).toNat : Nat)
  let y : Int := (n * 10 ^ (q - e).toNat : Nat)
  let s := (if a then -x else x) + (if b then -y else y)
  if s = 0 then .finite (a && b) 0 e else round (s < 0) s.natAbs e

/-- The sum of two decimals; `none` if it is undefined (opposite infinities, a signaling operand). -/
def add : Decimal → Decimal → Option Decimal
  | .signaling .., _ | _, .signaling .. => none
  | .nan a p, _ => some (.nan a p)
  | _, .nan b p => some (.nan b p)
  | .infinite a, .infinite b => if a = b then some (.infinite a) else none
  | .infinite a, _ => some (.infinite a)
  | _, .infinite b => some (.infinite b)
  | .finite a m p, .finite b n q => some (addFinite a m p b n q)

def digits (n : Nat) : List Char := Nat.toDigits 10 n

/-- How a magnitude is written: positional while the exponent is not positive and at most five
zeros follow the point, with an exponent otherwise. -/
def writeFinite (coef : Nat) (exp : Int) : List Char :=
  let ds := digits coef
  let left := exp + ds.length
  let dot := if exp ≤ 0 ∧ -6 < left then left else 1
  let body :=
    if dot ≤ 0 then '0' :: '.' :: (List.replicate (-dot).toNat '0' ++ ds)
    else if ds.length ≤ dot then ds ++ List.replicate (dot - ds.length).toNat '0'
    else ds.take dot.toNat ++ '.' :: ds.drop dot.toNat
  let e := left - dot
  if e = 0 then body
  else body ++ 'E' :: (if e < 0 then '-' else '+') :: digits e.natAbs

def text (d : Decimal) : String :=
  let signed (neg : Bool) (cs : List Char) : String := String.ofList (if neg then '-' :: cs else cs)
  match d with
  | .finite neg coef exp => signed neg (writeFinite coef exp)
  | .infinite neg => signed neg "Infinity".toList
  | .nan neg p => signed neg ("NaN".toList ++ p.map Nat.digitChar)
  | .signaling neg p => signed neg ("sNaN".toList ++ p.map Nat.digitChar)

end Decimal

end SqlDesk.Number
