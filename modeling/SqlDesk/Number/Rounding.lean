/-!
# Rounding a quotient

Division of natural numbers to the nearest integer, a half going to the even neighbour. All the
number formats of the library round through this one function.

Powers and zeros are those of the core library also in modules that know more about numbers, so a
definition means the same wherever it is read.
-/

attribute [default_instance 10000] instPowNat
attribute [instance (10000)] instPowNat Zero.ofOfNat0

namespace SqlDesk.Number

/-- The integer nearest to `num / den`, the even one of two equally near. -/
def roundDiv (num den : Nat) : Nat :=
  let q := num / den
  let r := num % den
  if 2 * r < den then q
  else if den < 2 * r then q + 1
  else q + q % 2

/-- The number of decimal digits of `n`, at least one. -/
def digitCount (n : Nat) : Nat := (Nat.toDigits 10 n).length

end SqlDesk.Number
