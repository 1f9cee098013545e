import SqlDesk.Text.Class

/-!
# Quoted text

How a text or a byte string is shown inside a message: between single quotes, or between double
quotes when it holds a single quote and no double one, with escapes for everything that would not
show.
-/

namespace SqlDesk.Text

/-- The digit of a number below sixteen, in lower case. -/
def hexDigit (n : Nat) : Char := Nat.digitChar (n % 16)

/-- A number in exactly `width` hexadecimal digits. -/
def hexFixed : Nat → Nat → List Char
  | 0, _ => []
  | width + 1, n => hexFixed width (n / 16) ++ [hexDigit n]

/-- The quote that shows `cs` with the fewer escapes. -/
def quoteFor (cs : List Char) : Char :=
  if '\'' ∈ cs ∧ '"' ∉ cs then '"' else '\''

/-- One character between quotes `q`. -/
def showChar (q c : Char) : List Char :=
  if c = q ∨ c = '\\' then ['\\', c]
  else if c = '\n' then ['\\', 'n']
  else if c = '\r' then ['\\', 'r']
  else if c = '\t' then ['\\', 't']
  else if isPrintable c then [c]
  else if c.toNat < 0x100 then '\\' :: 'x' :: hexFixed 2 c.toNat
  else if c.toNat < 0x10000 then '\\' :: 'u' :: hexFixed 4 c.toNat
  else '\\' :: 'U' :: hexFixed 8 c.toNat

/-- A text between quotes. -/
def showChars (cs : List Char) : List Char :=
  let q := quoteFor cs
  q :: (cs.flatMap (showChar q) ++ [q])

/-- A string between quotes. -/
def quoted (s : String) : String := String.ofList (showChars s.toList)

/-- One byte between quotes `q`. -/
def showByte (q : Char) (b : UInt8) : List Char :=
  let c := Char.ofNat b.toNat
  if c = q ∨ c = '\\' then ['\\', c]
  else if c = '\n' then ['\\', 'n']
  else if c = '\r' then ['\\', 'r']
  else if c = '\t' then ['\\', 't']
  else if 32 ≤ b.toNat ∧ b.toNat < 127 then [c]
  else '\\' :: 'x' :: hexFixed 2 b.toNat

/-- A byte string between quotes, marked by a leading `b`. -/
def quotedBytes (bs : List UInt8) : String :=
  let q := quoteFor (bs.map fun b => Char.ofNat b.toNat)
  String.ofList ('b' :: q :: (bs.flatMap (showByte q) ++ [q]))

end SqlDesk.Text
