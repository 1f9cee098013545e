import SqlDesk.Text.Ranges

/-!
# Character classes

The predicates on characters that the rest of the library asks for. Each one decides ASCII by rule
and everything else by a Unicode 14 table. `digitValue?` and `isDigitLike` differ on purpose: a
superscript two is digit-like and has no decimal value.
-/

namespace SqlDesk.Text

/-- The value of a decimal digit of any script. -/
def digitValue? (c : Char) : Option Nat :=
  let n := c.toNat
  if n < 128 then
    if 48 ≤ n ∧ n ≤ 57 then some (n - 48) else none
  else
    (decimalDigits.find? fun r => r.1 ≤ n && n ≤ r.2).map fun r => (n - r.1) % 10

/-- A decimal digit of any script. -/
def isDigit (c : Char) : Bool := (digitValue? c).isSome

/-- A decimal digit, or a character that only looks like one: a superscript, a circled digit, …. -/
def isDigitLike (c : Char) : Bool := isDigit c || specialDigits.has c.toNat

/-- White space. -/
def isBlank (c : Char) : Bool := blanks.has c.toNat

/-- A letter, digit or other numeric character. -/
def isAlphanumeric (c : Char) : Bool :=
  if c.toNat < 128 then c.isAlphanum else wideAlphanumerics.has c.toNat

/-- A character that occurs in words: alphanumeric or an underscore. -/
def isWord (c : Char) : Bool := c == '_' || isAlphanumeric c

/-- A character that a quoted text shows as it is. -/
def isPrintable (c : Char) : Bool :=
  if c.toNat < 128 then 32 ≤ c.toNat && c.toNat < 127 else !wideUnprintables.has c.toNat

/-- A text without the white space around it. -/
def strip (cs : List Char) : List Char :=
  ((cs.dropWhile isBlank).reverse.dropWhile isBlank).reverse

/-- `strip` on strings. -/
def trimmed (s : String) : String := String.ofList (strip s.toList)

/-- Whether `p` occurs as a contiguous part of `s`. -/
def occursIn (p : List Char) : List Char → Bool
  | [] => p.isEmpty
  | c :: cs => p.isPrefixOf (c :: cs) || occursIn p cs

/-- Whether the string `p` occurs in `s`. -/
def contains (s p : String) : Bool := occursIn p.toList s.toList

/-- Lexicographic order by code point. -/
def compareText (a b : String) : Ordering := compareOfLessAndEq a b

end SqlDesk.Text
