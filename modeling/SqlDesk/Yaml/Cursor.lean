import SqlDesk.Error

/-!
# Places in a document

A cursor stands in a document and knows the line and the column it is at. Reading is by a monad of
cursors; what a document cannot go on with is an error of its tokens.
-/

namespace SqlDesk.Yaml

/-- What is read behind the end of a document. It does not occur inside of one. -/
def endMark : Char := Char.ofNat 0

/-- The mark of byte order, which takes no column. -/
def orderMark : Char := Char.ofNat 0xFEFF

/-- Whether a character may occur in a document. -/
def isAllowed (c : Char) : Bool :=
  let n := c.toNat
  n == 0x9 || n == 0xA || n == 0xD || (0x20 ≤ n && n ≤ 0x7E) || n == 0x85 ||
    (0xA0 ≤ n && n ≤ 0xD7FF) || (0xE000 ≤ n && n ≤ 0xFFFD) || 0x10000 ≤ n

/-- A text with every line end as one character. -/
def unifyBreaks : List Char → List Char
  | [] => []
  | '\r' :: '\n' :: cs => '\n' :: unifyBreaks cs
  | '\r' :: cs => '\n' :: unifyBreaks cs
  | c :: cs => c :: unifyBreaks cs

/-- Whether a character ends a line. -/
def isBreak (c : Char) : Bool :=
  c == '\n' || c.toNat == 0x85 || c.toNat == 0x2028 || c.toNat == 0x2029

/-- Whether a character ends a line or the document. -/
def isStop (c : Char) : Bool := isBreak c || c == endMark

/-- Whether a character ends a line or the document, or is a space. -/
def isSpaceOrStop (c : Char) : Bool := isStop c || c == ' '

/-- Whether a character ends a line or the document, or is white. -/
def isGap (c : Char) : Bool := isSpaceOrStop c || c == '\t'

def isWhite (c : Char) : Bool := c == ' ' || c == '\t'

def isNameChar (c : Char) : Bool := c.isAlphanum || c == '-' || c == '_'

def isHex (c : Char) : Bool :=
  c.isDigit || ('a' ≤ c && c ≤ 'f') || ('A' ≤ c && c ≤ 'F')

/-- The value of a digit in a base of up to sixteen. -/
def digitOf (c : Char) : Nat :=
  if c.isDigit then c.toNat - 48 else c.toLower.toNat - 87

def numberIn (base : Nat) (cs : List Char) : Nat := cs.foldl (fun n c => base * n + digitOf c) 0

/-- A place in a document. -/
structure Cursor where
  rest : List Char
  index : Nat := 0
  line : Nat := 0
  column : Nat := 0

namespace Cursor

variable (c : Cursor)

/-- The character at a distance. -/
def look (n : Nat) : Char := c.rest.getD n endMark

def peek : Char := c.look 0

/-- The place behind the next character. -/
def next : Cursor :=
  match c.rest with
  | [] => c
  | x :: rest =>
    if isBreak x then { rest, index := c.index + 1, line := c.line + 1, column := 0 }
    else { c with rest, index := c.index + 1,
                  column := if x == orderMark then c.column else c.column + 1 }

/-- The place behind some characters. -/
def skip : Nat → Cursor → Cursor
  | 0, c => c
  | n + 1, c => skip n c.next

/-- Whether a line starts here with a marker of documents. -/
def atMarker (x : Char) : Bool :=
  c.look 0 == x && c.look 1 == x && c.look 2 == x && isGap (c.look 3)

/-- Whether one of the markers of documents is here. -/
def atSeparator : Bool := c.atMarker '-' || c.atMarker '.'

end Cursor

/-- A reader of a document. -/
abbrev Scan (α : Type) := StateT Cursor (Except Error) α

namespace Scan

/-- A document that cannot be cut into tokens. -/
def fail {α : Type} : Scan α := throw (.document .token)

def peek : Scan Char := return (← get).peek

/-- Go on by some characters. -/
def skip (n : Nat) : Scan Unit := modify (Cursor.skip n)

/-- The longest run of characters of a kind. -/
def run (p : Char → Bool) : Scan (List Char) := do
  let cs := (← get).rest.takeWhile p
  skip cs.length
  return cs

/-- Go on behind the longest run of characters of a kind. -/
def skipWhile (p : Char → Bool) : Scan Unit := discard (run p)

/-- Go on behind a line end, which is given in its normal form; nothing without one. -/
def lineBreak : Scan (List Char) := do
  let x ← peek
  if isBreak x then
    skip 1
    return if x.toNat == 0x85 then ['\n'] else [x]
  else return []

def skipComment : Scan Unit := do
  if (← peek) == '#' then skipWhile fun x => !isStop x

/-- Go on to the end of a line that has nothing more but a comment. -/
def finishLine : Scan Unit := do
  skipWhile (· == ' ')
  skipComment
  if isStop (← peek) then discard lineBreak else fail

end Scan

end SqlDesk.Yaml
