import SqlDesk.Number.Rounding

/-!
# Binary floating point numbers

The 64 bit format as plain data: a number is its bit pattern, its value is `m · 2 ^ q` with natural
`m` and integer `q`, and every operation computes the exact rational result and rounds it once, to
the nearest pattern with ties to the even one. Nothing here relies on the machine's arithmetic.
-/

namespace SqlDesk.Number

/-- A floating point number by its bit pattern. -/
structure Binary64 where
  bits : UInt64
deriving DecidableEq, Repr, Inhabited

/-- What a bit pattern stands for. -/
inductive FloatView where
  | finite (neg : Bool) (mant : Nat) (exp : Int)
  | infinite (neg : Bool)
  | nan
deriving DecidableEq, Repr

namespace Binary64

/-- The pattern of every number that is not one. -/
def nan : Binary64 := ⟨0x7FF8000000000000⟩

/-- The sign bit as an offset. -/
def signOffset (neg : Bool) : Nat := if neg then 2 ^ 63 else 0

def infinity (neg : Bool) : Binary64 := ⟨UInt64.ofNat (signOffset neg + 0x7FF0000000000000)⟩

def zero (neg : Bool) : Binary64 := ⟨UInt64.ofNat (signOffset neg)⟩

/-- The value of a pattern. -/
def view (x : Binary64) : FloatView :=
  let n := x.bits.toNat
  let neg := n / 2 ^ 63 == 1
  let biased : Nat := n / 2 ^ 52 % 2048
  let frac : Nat := n % 2 ^ 52
  if biased = 2047 then if frac = 0 then .infinite neg else .nan
  else if biased = 0 then .finite neg frac (-1074)
  else .finite neg (2 ^ 52 + frac) ((biased : Int) - 1075)

/-- The exponent at which the quotient `num / den` has 53 binary digits, not below the smallest one
of the format. -/
def exponentFor (num den : Nat) : Int :=
  let k : Int := (Nat.log2 num : Int) - (Nat.log2 den : Int)
  let q := k - 53
  -- the quotient lies between 2 ^ 52 and 2 ^ 54 times 2 ^ q
  let q := if num * 2 ^ (-q).toNat < den * 2 ^ q.toNat * 2 ^ 53 then q else q + 1
  max q (-1074)

/-- The pattern nearest to `num / den`, which must have a positive denominator. -/
def ofRatio (neg : Bool) (num den : Nat) : Binary64 :=
  if num = 0 then zero neg
  else
    let q := exponentFor num den
    let m := roundDiv (num * 2 ^ (-q).toNat) (den * 2 ^ q.toNat)
    let magnitude := if m < 2 ^ 52 then m else (q + 1075).toNat * 2 ^ 52 + (m - 2 ^ 52)
    if 0x7FF0000000000000 ≤ magnitude then infinity neg
    else ⟨UInt64.ofNat (signOffset neg + magnitude)⟩

/-- The nearest pattern to `± mant · 10 ^ exp`. Exponents out of the format's reach are decided by
the number of digits, without computing the power. -/
def ofScientific (neg : Bool) (mant : Nat) (exp : Int) : Binary64 :=
  if mant = 0 then zero neg
  else if 400 < exp + digitCount mant then infinity neg
  else if exp + digitCount mant < -400 then zero neg
  else ofRatio neg (mant * 10 ^ exp.toNat) (10 ^ (-exp).toNat)

/-- The nearest pattern to an integer. -/
def ofInt (n : Int) : Binary64 := ofRatio (n < 0) n.natAbs 1

/-- The numerator over `2 ^ 1074` of a finite number. -/
def scaled (neg : Bool) (mant : Nat) (exp : Int) : Int :=
  let a : Int := (mant * 2 ^ (exp + 1074).toNat : Nat)
  if neg then -a else a

def add (x y : Binary64) : Binary64 :=
  match x.view, y.view with
  | .nan, _ | _, .nan => nan
  | .infinite a, .infinite b => if a = b then infinity a else nan
  | .infinite a, _ => infinity a
  | _, .infinite b => infinity b
  | .finite a m p, .finite b n q =>
    let s := scaled a m p + scaled b n q
    if s = 0 then zero (a && b && m == 0 && n == 0)
    else ofRatio (s < 0) s.natAbs (2 ^ 1074)

def neg (x : Binary64) : Binary64 :=
  match x.view with
  | .nan => nan
  | .infinite a => infinity !a
  | .finite a _ _ => ⟨if a then x.bits - 0x8000000000000000 else x.bits + 0x8000000000000000⟩

/-- The product of a number and a natural number. -/
def scale (x : Binary64) (k : Nat) : Binary64 :=
  match x.view with
  | .nan => nan
  | .infinite a => if k = 0 then nan else infinity a
  | .finite a m q => ofRatio a (m * k * 2 ^ q.toNat) (2 ^ (-q).toNat)

/-- The quotient of a number and a positive natural number. -/
def divNat (x : Binary64) (k : Nat) : Binary64 :=
  match x.view with
  | .nan => nan
  | .infinite a => infinity a
  | .finite a m q => ofRatio a (m * 2 ^ q.toNat) (k * 2 ^ (-q).toNat)

/-- A number rounded to `places` decimal places: the exact value is rounded half to even, and the
result is the pattern nearest to that decimal. -/
def roundPlaces (x : Binary64) (places : Nat) : Binary64 :=
  match x.view with
  | .nan => nan
  | .infinite a => infinity a
  | .finite a m q =>
    if 0 ≤ q then x
    else ofRatio a (roundDiv (m * 10 ^ places) (2 ^ (-q).toNat)) (10 ^ places)

/-- The integer part of a finite number. -/
def truncate? (x : Binary64) : Option Int :=
  match x.view with
  | .finite a m q =>
    let n : Int := (m * 2 ^ q.toNat / 2 ^ (-q).toNat : Nat)
    some (if a then -n else n)
  | _ => none

def isZero (x : Binary64) : Bool :=
  match x.view with
  | .finite _ 0 _ => true
  | _ => false

def isIntegral (x : Binary64) : Bool :=
  match x.view with
  | .finite _ m q => (m * 2 ^ q.toNat) % 2 ^ (-q).toNat == 0
  | _ => false

end Binary64

end SqlDesk.Number
