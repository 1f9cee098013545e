import SqlDesk.Yaml.Cursor

/-!
# Scalars of a document

A scalar is plain, quoted or a block. Line ends inside of it are folded: a single one is a space, and
of several the first is dropped. Only literal blocks keep them all.
-/

namespace SqlDesk.Yaml

open Scan

/-! ## Plain scalars -/

def isFlowMark (c : Char) : Bool := [',', '[', ']', '\x7b', '\x7d'].contains c

/-- The longest run that belongs to a plain scalar. -/
def plainRun (flow : Bool) : List Char → List Char
  | [] => []
  | c :: cs =>
    let after := cs.headD endMark
    if isGap c || (c == ':' && (isGap after || (flow && isFlowMark after))) ||
        (flow && (isFlowMark c || c == '?')) then []
    else c :: plainRun flow cs

/-- Go on behind empty lines and spaces, collecting line ends; none at a marker of documents. -/
def emptyLines : Nat → Scan (Option (List Char))
  | 0 => return some []
  | fuel + 1 => do
    if (← peek) == ' ' then
      skip 1
      emptyLines fuel
    else if isBreak (← peek) then
      let b ← lineBreak
      if (← get).atSeparator then return none
      return (← emptyLines fuel).map (b ++ ·)
    else return some []

/-- Line ends as they are folded. -/
def folded (first more : List Char) : List Char :=
  (if first != ['\n'] then first else if more.isEmpty then [' '] else []) ++ more

/-- The space between two runs of a plain scalar, and whether there was a line end. There is no space
if the scalar ends. -/
def plainSpace : Scan (List Char × Bool) := do
  let spaces ← run (· == ' ')
  if isBreak (← peek) then
    let first ← lineBreak
    if (← get).atSeparator then return ([], true)
    match ← emptyLines ((← get).rest.length + 1) with
    | none => return ([], true)
    | some more => return (folded first more, true)
  else return (spaces, false)

/-- The runs of a plain scalar with the space between them, and whether the last thing read was a
line end. -/
def plainRuns (flow : Bool) (indent : Int) : Nat → List Char → Bool → Scan (List Char × Bool)
  | 0, _, broken => return ([], broken)
  | fuel + 1, space, broken => do
    if (← peek) == '#' then return ([], broken)
    let cs := plainRun flow (← get).rest
    if cs.isEmpty then return ([], broken)
    skip cs.length
    let (more, broken) ← plainSpace
    let c ← get
    if more.isEmpty || c.peek == '#' || (!flow && c.column < indent) then
      return (space ++ cs, broken)
    let (rest, broken) ← plainRuns flow indent fuel more broken
    return (space ++ cs ++ rest, broken)

/-- A plain scalar, and whether a line end was read behind it. -/
def scanPlain (flow : Bool) (indent : Int) : Scan (String × Bool) := do
  let (cs, broken) ← plainRuns flow indent ((← get).rest.length + 1) [] false
  return (String.ofList cs, broken)

/-! ## Quoted scalars -/

/-- What an escaped character stands for. -/
def escapes : List (Char × Nat) :=
  [('0', 0), ('a', 0x7), ('b', 0x8), ('t', 0x9), ('\t', 0x9), ('n', 0xA), ('v', 0xB), ('f', 0xC),
    ('r', 0xD), ('e', 0x1B), (' ', 0x20), ('"', 0x22), ('\\', 0x5C), ('/', 0x2F), ('N', 0x85),
    ('_', 0xA0), ('L', 0x2028), ('P', 0x2029)]

/-- How many hexadecimal digits follow an escaped character. -/
def escapeLengths : List (Char × Nat) := [('x', 2), ('u', 4), ('U', 8)]

/-- The character of a code. -/
def charOfCode (code : Nat) : Scan Char :=
  if code < 0x110000 then return if code.isValidChar then Char.ofNat code else Char.ofNat 0xFFFD
  else throw (.raised "ValueError" "chr() arg not in range(0x110000)")

/-- Go on behind line ends and the white space around them, collecting line ends. A marker of
documents must not come. -/
def quotedBreaks : Nat → Scan (List Char)
  | 0 => return []
  | fuel + 1 => do
    if (← get).atSeparator then fail
    skipWhile isWhite
    if isBreak (← peek) then
      let b ← lineBreak
      return b ++ (← quotedBreaks fuel)
    else return []

/-- What stands behind a backslash. -/
def scanEscape : Scan (List Char) := do
  let c ← peek
  match escapes.lookup c, escapeLengths.lookup c with
  | some code, _ =>
    skip 1
    return [Char.ofNat code]
  | none, some n =>
    skip 1
    let ds := (← get).rest.take n
    if ds.length != n || !ds.all isHex then fail
    let x ← charOfCode (numberIn 16 ds)
    skip n
    return [x]
  | none, none =>
    if isBreak c then
      discard lineBreak
      quotedBreaks ((← get).rest.length + 1)
    else fail

/-- Whether a character may need attention inside quotes. -/
def isQuotedStop (c : Char) : Bool := isGap c || c == '\'' || c == '"' || c == '\\'

/-- The characters of a quoted scalar up to white space or its end. -/
def quotedRun (double : Bool) : Nat → Scan (List Char)
  | 0 => return []
  | fuel + 1 => do
    let cs ← run fun c => !isQuotedStop c
    let c ← get
    if !double && c.peek == '\'' && c.look 1 == '\'' then
      skip 2
      return cs ++ '\'' :: (← quotedRun double fuel)
    else if (double && c.peek == '\'') || (!double && (c.peek == '"' || c.peek == '\\')) then
      skip 1
      return cs ++ c.peek :: (← quotedRun double fuel)
    else if double && c.peek == '\\' then
      skip 1
      let x ← scanEscape
      return cs ++ x ++ (← quotedRun double fuel)
    else return cs

def quotedSpace : Scan (List Char) := do
  let spaces ← run isWhite
  let c ← peek
  if c == endMark then fail
  if isBreak c then
    let first ← lineBreak
    return folded first (← quotedBreaks ((← get).rest.length + 1))
  else return spaces

/-- A quoted scalar behind its first quote, up to its last. -/
def quotedRest (double : Bool) : Nat → Scan (List Char)
  | 0 => fail
  | fuel + 1 => do
    let cs ← quotedRun double (fuel + 1)
    if (← peek) == (if double then '"' else '\'') then
      skip 1
      return cs
    let space ← quotedSpace
    return cs ++ space ++ (← quotedRest double fuel)

def scanQuoted (double : Bool) : Scan String := do
  skip 1
  return String.ofList (← quotedRest double ((← get).rest.length + 2))

/-! ## Block scalars -/

/-- What happens to the line ends at the end of a block. -/
inductive Chomping where
  | clip
  | strip
  | keep
deriving DecidableEq, Repr

/-- A sign that tells what happens to the line ends. -/
def scanChomping : Scan Chomping := do
  match ← peek with
  | '+' => skip 1; return .keep
  | '-' => skip 1; return .strip
  | _ => return .clip

/-- A digit that tells the indentation. -/
def scanIncrement : Scan (Option Nat) := do
  let c ← peek
  if c == '0' then fail
  else if c.isDigit then
    skip 1
    return some (digitOf c)
  else return none

/-- The sign and the digit at the head of a block, in either order. -/
def scanBlockHead : Scan (Chomping × Option Nat) := do
  let chomping ← scanChomping
  let increment ← scanIncrement
  let chomping ← if chomping = .clip ∧ increment.isSome then scanChomping else pure chomping
  if !isSpaceOrStop (← peek) then fail
  finishLine
  return (chomping, increment)

/-- Go on to the first line of a block that is not empty: the line ends before it, and the greatest
column reached. -/
def blockStart : Nat → Nat → Scan (List Char × Nat)
  | 0, greatest => return ([], greatest)
  | fuel + 1, greatest => do
    if (← peek) == ' ' then
      skip 1
      blockStart fuel (max greatest (← get).column)
    else if isBreak (← peek) then
      let b ← lineBreak
      let (bs, greatest) ← blockStart fuel greatest
      return (b ++ bs, greatest)
    else return ([], greatest)

/-- Go on behind spaces up to a column. -/
def skipIndent (indent : Nat) : Scan Unit := do
  let c ← get
  skip ((c.rest.takeWhile (· == ' ')).length.min (indent - c.column))

/-- Go on to the next line of a block that is not empty: the line ends before it. -/
def blockBreaks (indent : Nat) : Nat → Scan (List Char)
  | 0 => return []
  | fuel + 1 => do
    skipIndent indent
    if isBreak (← peek) then
      let b ← lineBreak
      return b ++ (← blockBreaks indent fuel)
    else return []

/-- Whether a line of a block starts here. -/
def atBlockLine (indent : Nat) : Scan Bool := do
  let c ← get
  return c.column == indent && c.peek != endMark

/-- The lines of a block from here on: their text, then the last line end and the line ends behind
it. -/
def blockLines (fold : Bool) (indent : Nat) : Nat → Scan (List Char × List Char × List Char)
  | 0 => return ([], [], [])
  | fuel + 1 => do
    let spaced := isWhite (← peek)
    let cs ← run fun c => !isStop c
    let b ← lineBreak
    let breaks ← blockBreaks indent (fuel + 1)
    if ← atBlockLine indent then
      let joint :=
        if fold && b == ['\n'] && !spaced && !isWhite (← peek) then
          if breaks.isEmpty then [' '] else []
        else b
      let (rest, last, tail) ← blockLines fold indent fuel
      return (cs ++ joint ++ breaks ++ rest, last, tail)
    else return (cs, b, breaks)

/-- A block scalar inside a collection of an indentation. -/
def scanBlock (fold : Bool) (outer : Int) : Scan String := do
  skip 1
  let (chomping, increment) ← scanBlockHead
  let least := (max (outer + 1) 1).toNat
  let fuel := (← get).rest.length + 1
  let (before, indent) ← match increment with
    | none => do
      let (bs, greatest) ← blockStart fuel 0
      pure (bs, max least greatest)
    | some n => do
      let indent := least + n - 1
      pure (← blockBreaks indent fuel, indent)
  let (cs, last, tail) ← if ← atBlockLine indent then do
      let (cs, last, tail) ← blockLines fold indent fuel
      pure (before ++ cs, last, tail)
    else pure ([], [], before)
  return String.ofList (match chomping with
    | .strip => cs
    | .clip => cs ++ last
    | .keep => cs ++ last ++ tail)

end SqlDesk.Yaml
