import SqlDesk.Assoc
import SqlDesk.Yaml.Name
import SqlDesk.Yaml.Scalar

/-!
# From a document to its tokens

In the block style, indentation decides where collections start and end, and whether something is a
key is known only when the colon behind it is reached. So tokens wait while the first of them may
still turn out to be a key; keys and starts of mappings are then put in before them. A key that was
waited for must end on its line and within 1024 characters.
-/

namespace SqlDesk.Yaml

/-- A token that may turn out to be a key. -/
structure MaybeKey where
  /-- The number of the token. -/
  number : Nat
  /-- Whether nothing but a key may stand there. -/
  required : Bool
  index : Nat
  line : Nat
  column : Nat

/-- A document that is cut into tokens. -/
structure Lexer where
  cursor : Cursor
  done : Bool := false
  /-- The depth of flow collections. -/
  flow : Int := 0
  /-- The tokens that wait. -/
  waiting : List Token := []
  /-- How many tokens have been taken. -/
  taken : Nat := 0
  /-- The indentation of the innermost block collection. -/
  indent : Int := -1
  /-- The indentations of the collections around it. -/
  outer : List Int := []
  /-- Whether a key may start here. -/
  keyAllowed : Bool := true
  /-- The tokens that may turn out to be keys, by the depth of flow collections. -/
  keys : Assoc Int MaybeKey := []

namespace Lexer

variable (lx : Lexer)

/-- A document that cannot be cut into tokens. -/
def fail {α : Type} : Except Error α := .error (.document .token)

/-- Whether the place is inside of a flow collection. -/
def inFlow : Bool := lx.flow != 0

def push (t : Token) : Lexer := { lx with waiting := lx.waiting ++ [t] }

def forward (n : Nat) : Lexer := { lx with cursor := lx.cursor.skip n }

def scan {α : Type} (s : Scan α) : Except Error (α × Lexer) := do
  let (a, cursor) ← s lx.cursor
  return (a, { lx with cursor })

/-- Whether a key can no longer end here. -/
def isStale (k : MaybeKey) : Bool :=
  k.line != lx.cursor.line || 1024 < lx.cursor.index - k.index

/-- Give up keys that can no longer end here. -/
def dropStale : Except Error Lexer :=
  if lx.keys.any fun k => lx.isStale k.2 && k.2.required then fail
  else .ok { lx with keys := lx.keys.filter fun k => !lx.isStale k.2 }

/-- Give up the key at the depth of this place. -/
def dropKey : Except Error Lexer :=
  match lx.keys.get? lx.flow with
  | none => .ok lx
  | some k => if k.required then fail else .ok { lx with keys := lx.keys.erase lx.flow }

/-- Note that the next token may turn out to be a key. -/
def noteKey : Except Error Lexer :=
  if lx.keyAllowed then do
    let required := !lx.inFlow && lx.indent == lx.cursor.column
    let lx ← lx.dropKey
    let c := lx.cursor
    let key : MaybeKey :=
      { number := lx.taken + lx.waiting.length, required, index := c.index, line := c.line
        column := c.column }
    return { lx with keys := lx.keys.put lx.flow key }
  else .ok lx

/-- End the block collections that are indented by more than a column. -/
def unwindFrom (column : Int) : List Int → Lexer → Lexer
  | [], lx => lx
  | i :: is, lx =>
    if column < lx.indent then
      unwindFrom column is ({ lx with indent := i, outer := is }.push .blockEnd)
    else lx

/-- End the block collections that are indented by more than a column. In flow collections
indentation does not count. -/
def unwind (column : Int) : Lexer := if lx.inFlow then lx else unwindFrom column lx.outer lx

/-- Whether a collection at a column is a new one. -/
def isDeeper (column : Nat) : Bool := lx.indent < column

/-- Start a collection at a column. -/
def deepen (column : Nat) : Lexer :=
  { lx with outer := lx.indent :: lx.outer, indent := column }

/-- Start a block collection here with a token, unless it has started. -/
def start (t : Token) : Lexer :=
  let column := lx.cursor.column
  if lx.isDeeper column then (lx.deepen column).push t else lx

/-- A token of one character that may turn out to be a key. -/
def flowStart (t : Token) : Except Error Lexer := do
  let lx ← lx.noteKey
  return ({ lx with flow := lx.flow + 1, keyAllowed := true }.forward 1).push t

def flowEnd (t : Token) : Except Error Lexer := do
  let lx ← lx.dropKey
  return ({ lx with flow := lx.flow - 1, keyAllowed := false }.forward 1).push t

/-- The comma between entries of a flow collection. -/
def flowEntry : Except Error Lexer := do
  let lx ← { lx with keyAllowed := true }.dropKey
  return (lx.forward 1).push .flowEntry

/-- The dash before an entry of a block sequence. -/
def blockEntry : Except Error Lexer := do
  if !lx.inFlow && !lx.keyAllowed then fail
  let lx := if lx.inFlow then lx else lx.start .blockSequenceStart
  let lx ← { lx with keyAllowed := true }.dropKey
  return (lx.forward 1).push .blockEntry

/-- The question mark before a key. -/
def explicitKey : Except Error Lexer := do
  if !lx.inFlow && !lx.keyAllowed then fail
  let lx := if lx.inFlow then lx else lx.start .blockMappingStart
  let lx ← { lx with keyAllowed := !lx.inFlow }.dropKey
  return (lx.forward 1).push .key

/-- Put a token before the one of a number. -/
def insertBefore (number : Nat) (t : Token) : Lexer :=
  let i := number - lx.taken
  { lx with waiting := lx.waiting.take i ++ t :: lx.waiting.drop i }

/-- The colon before a value. It makes a key of what has waited for it. -/
def valueMark : Except Error Lexer := do
  match lx.keys.get? lx.flow with
  | some k =>
    let lx := { lx with keys := lx.keys.erase lx.flow, keyAllowed := false }.insertBefore k.number .key
    let lx := if !lx.inFlow && lx.isDeeper k.column then
        (lx.deepen k.column).insertBefore k.number .blockMappingStart
      else lx
    return (lx.forward 1).push .value
  | none =>
    if !lx.inFlow && !lx.keyAllowed then fail
    let lx := if lx.inFlow then lx else lx.start .blockMappingStart
    let lx ← { lx with keyAllowed := !lx.inFlow }.dropKey
    return (lx.forward 1).push .value

/-- A token that may turn out to be a key. -/
def single (s : Scan Token) : Except Error Lexer := do
  let lx ← lx.noteKey
  let (t, lx) ← { lx with keyAllowed := false }.scan s
  return lx.push t

/-- A plain scalar, behind which a key may start if a line has ended. -/
def plain : Except Error Lexer := do
  let lx ← lx.noteKey
  let ((text, broken), lx) ← lx.scan (scanPlain lx.inFlow (lx.indent + 1))
  return { lx with keyAllowed := broken }.push (.scalar text true)

/-- A block scalar, behind which a key may start. -/
def block (fold : Bool) : Except Error Lexer := do
  let lx ← { lx with keyAllowed := true }.dropKey
  let (text, lx) ← lx.scan (scanBlock fold lx.indent)
  return lx.push (.scalar text false)

/-- A token that ends all block collections. -/
def outermost (s : Scan Token) : Except Error Lexer := do
  let lx ← (lx.unwind (-1)).dropKey
  let (t, lx) ← { lx with keyAllowed := false }.scan s
  return lx.push t

/-- The end of the document's stream. -/
def finish : Except Error Lexer := do
  let lx ← (lx.unwind (-1)).dropKey
  return { lx with keyAllowed := false, keys := [], done := true }.push .streamEnd

def startsPlain : Bool :=
  let c := lx.cursor.peek
  let marks := ['-', '?', ':', ',', '[', ']', '\x7b', '\x7d', '#', '&', '*', '!', '|', '>', '\'',
    '"', '%', '@', '\x60']
  (!isGap c && !marks.contains c) ||
    (!isGap (lx.cursor.look 1) && (c == '-' || (!lx.inFlow && (c == '?' || c == ':'))))

/-- Go on behind spaces, comments and line ends. -/
def skipToToken : Nat → Lexer → Lexer
  | 0, lx => lx
  | fuel + 1, lx =>
    let c := lx.cursor
    let c := c.skip (c.rest.takeWhile (· == ' ')).length
    let c := if c.peek == '#' then c.skip (c.rest.takeWhile fun x => !isStop x).length else c
    if isBreak c.peek then
      skipToToken fuel { lx with cursor := c.next, keyAllowed := lx.keyAllowed || !lx.inFlow }
    else { lx with cursor := c }

/-- Read the next token, which may start and end collections. -/
def readToken : Except Error Lexer := do
  let c := lx.cursor
  let lx := if c.index == 0 && c.peek == orderMark then lx.forward 1 else lx
  let lx ← (skipToToken (lx.cursor.rest.length + 1) lx).dropStale
  let lx := lx.unwind lx.cursor.column
  let c := lx.cursor
  let gapNext := isGap (c.look 1)
  let x := c.peek
  if x == endMark then lx.finish
  else if x == '%' && c.column == 0 then lx.outermost scanDirective
  else if c.column == 0 && c.atMarker '-' then
    lx.outermost do
      Scan.skip 3
      return .documentStart
  else if c.column == 0 && c.atMarker '.' then
    lx.outermost do
      Scan.skip 3
      return .documentEnd
  else if x == '[' then lx.flowStart .flowSequenceStart
  else if x == '\x7b' then lx.flowStart .flowMappingStart
  else if x == ']' then lx.flowEnd .flowSequenceEnd
  else if x == '\x7d' then lx.flowEnd .flowMappingEnd
  else if x == ',' then lx.flowEntry
  else if x == '-' && gapNext then lx.blockEntry
  -- behind a mark the flow style needs no gap
  else if x == '?' && (lx.inFlow || gapNext) then lx.explicitKey
  else if x == ':' && (lx.inFlow || gapNext) then lx.valueMark
  else if x == '*' then lx.single (Token.alias <$> scanAnchor)
  else if x == '&' then lx.single (Token.anchor <$> scanAnchor)
  else if x == '!' then lx.single scanTag
  else if x == '|' && !lx.inFlow then lx.block false
  else if x == '>' && !lx.inFlow then lx.block true
  else if x == '\'' then lx.single do return .scalar (← scanQuoted false) false
  else if x == '"' then lx.single do return .scalar (← scanQuoted true) false
  else if lx.startsPlain then lx.plain
  else fail

def firstMayBeKey : Bool :=
  (lx.keys.map fun k => k.2.number).min? == some lx.taken

/-- Read on until the first token is known. -/
def settle : Nat → Lexer → Except Error Lexer
  | 0, lx => .ok lx
  | fuel + 1, lx =>
    if lx.done then .ok lx
    else if lx.waiting.isEmpty then do settle fuel (← lx.readToken)
    else do
      let lx ← lx.dropStale
      if lx.firstMayBeKey then settle fuel (← lx.readToken) else return lx

/-- The tokens up to the end or the first error. -/
def tokens : Nat → Lexer → List Token × Option Error
  | 0, _ => ([], none)
  | fuel + 1, lx =>
    match settle (lx.cursor.rest.length + 2) lx with
    | .error e => ([], some e)
    | .ok lx =>
      match lx.waiting with
      | [] => ([], none)
      | t :: waiting =>
        let (ts, e) := tokens fuel { lx with waiting, taken := lx.taken + 1 }
        (t :: ts, e)

end Lexer

/-- The tokens of a document up to its end or the first error. A character makes at most one token
of its own, one start, one key and one end of a collection. -/
def tokensOf (text : List Char) : List Token × Option Error :=
  Lexer.tokens (4 * text.length + 4) { cursor := { rest := text } }

end SqlDesk.Yaml
