import SqlDesk.Number.Binary64

/-!
# The shortest decimal text of a floating point number

Of all decimals that read back as the number, the ones with the fewest digits, and of those the
nearest. The candidates on a grid of `n` digits are the two neighbours of the exact value.
-/

namespace SqlDesk.Number

/-- The decimal `0.d₁d₂… · 10 ^ point`. -/
structure Digits where
  digits : List Nat
  point : Int
deriving DecidableEq, Repr

/-- The digits of a positive number, most significant first. -/
def digitsOf (n : Nat) : List Nat := (Nat.toDigits 10 n).map fun c => c.toNat - 48

/-- A positive quotient together with the ends of the interval of the values that round to it:
`low`, `value` and `high` over the common denominator `den`, ends included if `closed`. -/
structure RoundingInterval where
  low : Nat
  value : Nat
  high : Nat
  den : Nat
  closed : Bool

/-- The interval of the values that round to `mant · 2 ^ exp`. Below a power of two the neighbours
are half as far away. -/
def RoundingInterval.of (mant : Nat) (exp : Int) : RoundingInterval :=
  let up := 2 ^ exp.toNat
  { low := (if mant = 2 ^ 52 ∧ exp ≠ -1074 then 4 * mant - 1 else 4 * mant - 2) * up
    value := 4 * mant * up
    high := (4 * mant + 2) * up
    den := 4 * 2 ^ (-exp).toNat
    closed := mant % 2 = 0 }

/-- Whether `num / scale` lies in the interval. -/
def RoundingInterval.holds (i : RoundingInterval) (num scale : Nat) : Bool :=
  let n := num * i.den
  if i.closed then i.low * scale ≤ n && n ≤ i.high * scale
  else i.low * scale < n && n < i.high * scale

/-- The position of the decimal point: the least `p` with `value < 10 ^ p`, searched from a first
guess that is too small by at most `fuel`. -/
def pointFrom (num den : Nat) : Nat → Int → Int
  | 0, p => p
  | fuel + 1, p =>
    if num * 10 ^ (-p).toNat < den * 10 ^ p.toNat then p else pointFrom num den fuel (p + 1)

/-- The position of the decimal point of a positive quotient. -/
def pointOf (num den : Nat) : Int :=
  -- 30102 / 100000 is just below the decimal logarithm of two
  let k : Int := (Nat.log2 num : Int) - (Nat.log2 den : Int) - 1
  pointFrom num den 8 (Int.fdiv (k * 30102) 100000 - 1)

/-- The neighbour of the exact value on the grid of `n` digits that lies in the interval, if any. -/
def RoundingInterval.onGrid (i : RoundingInterval) (point : Int) (n : Nat) : Option Nat :=
  let shift : Int := n - point
  let num := i.value * 10 ^ shift.toNat
  let den := i.den * 10 ^ (-shift).toNat
  let below := num / den
  let inside (k : Nat) : Bool := i.holds (k * 10 ^ (-shift).toNat) (10 ^ shift.toNat)
  match inside below && below ≠ 0, inside (below + 1) with
  | true, true => some (roundDiv num den)
  | true, false => some below
  | false, true => some (below + 1)
  | false, false => none

/-- The shortest digits of a positive number `mant · 2 ^ exp`. -/
def shortest (mant : Nat) (exp : Int) : Digits :=
  let i := RoundingInterval.of mant exp
  let point := pointOf i.value i.den
  match (List.range 18).findSome? fun n => (i.onGrid point (n + 1)).map fun k => (n + 1, k) with
  | some (n, k) =>
    let ds := digitsOf k
    -- rounding up may have produced one digit more
    { digits := (ds.reverse.dropWhile (· = 0)).reverse, point := point + ds.length - n }
  | none => { digits := [0], point := 1 }

def digitChars (ds : List Nat) : List Char := ds.map Nat.digitChar

/-- How a magnitude is written: positional with at least one decimal place while the point lies
between four zeros in front of the digits and the sixteenth digit, otherwise with an exponent of at
least two digits. -/
def Digits.write (d : Digits) : List Char :=
  let cs := digitChars d.digits
  let n : Int := cs.length
  if -4 < d.point ∧ d.point ≤ 16 then
    if d.point ≤ 0 then '0' :: '.' :: (List.replicate (-d.point).toNat '0' ++ cs)
    else if n ≤ d.point then cs ++ List.replicate (d.point - n).toNat '0' ++ ['.', '0']
    else cs.take d.point.toNat ++ '.' :: cs.drop d.point.toNat
  else
    let e := d.point - 1
    let es := (Nat.toDigits 10 e.natAbs)
    let es := if es.length < 2 then '0' :: es else es
    let mantissa := match cs with
      | [] => []
      | [c] => [c]
      | c :: rest => c :: '.' :: rest
    mantissa ++ 'e' :: (if e < 0 then '-' else '+') :: es

def Binary64.text (x : Binary64) : String :=
  match x.view with
  | .nan => "nan"
  | .infinite a => if a then "-inf" else "inf"
  | .finite a m q =>
    let body := if m = 0 then ['0', '.', '0'] else (shortest m q).write
    String.ofList (if a then '-' :: body else body)

end SqlDesk.Number
