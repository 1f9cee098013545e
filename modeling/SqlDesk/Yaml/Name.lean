import SqlDesk.Text.Utf8
import SqlDesk.Yaml.Cursor
import SqlDesk.Yaml.Token

/-!
# Names, tags and directives
-/

namespace SqlDesk.Yaml

open Scan

/-- A name of at least one character. -/
def scanName : Scan String := do
  let cs ← run isNameChar
  if cs.isEmpty then fail else return String.ofList cs

/-- Whether a character may follow the name of an anchor. -/
def endsAnchor (c : Char) : Bool :=
  isGap c || ['?', ':', ',', ']', '\x7d', '%', '@', '\x60'].contains c

/-- The name of an anchor or an alias, behind its mark. -/
def scanAnchor : Scan String := do
  skip 1
  let name ← scanName
  if endsAnchor (← peek) then return name else fail

/-- The handle of a tag: an exclamation mark, or a name between two of them. -/
def scanHandle : Scan String := do
  if (← peek) != '!' then fail
  skip 1
  if (← peek) == ' ' then return "!"
  let name ← run isNameChar
  if (← peek) != '!' then fail
  skip 1
  return String.ofList (['!'] ++ name ++ ['!'])

def isTagChar (c : Char) : Bool :=
  c.isAlphanum || "-;/?:@&=+$,_.!~*'()[]%".toList.contains c

/-- The bytes of escapes, each a percent sign and two hexadecimal digits. -/
def scanEscapes : Nat → Scan (List UInt8)
  | 0 => return []
  | fuel + 1 => do
    if (← peek) != '%' then return []
    skip 1
    let ds := (← get).rest.take 2
    if ds.length != 2 || !ds.all isHex then fail
    skip 2
    return UInt8.ofNat (numberIn 16 ds) :: (← scanEscapes fuel)

/-- The rest of a tag, escapes replaced by what they stand for. -/
def scanTagRest : Nat → Scan (List Char)
  | 0 => return []
  | fuel + 1 => do
    let cs ← run fun c => isTagChar c && c != '%'
    if (← peek) == '%' then
      let bytes ← scanEscapes fuel
      match Text.decode bytes with
      | .ok s => return cs ++ s.toList ++ (← scanTagRest fuel)
      | .error _ => fail
    else return cs

/-- The rest of a tag, of which there must be some. -/
def scanSuffix : Scan String := do
  let before := (← get).index
  let cs ← scanTagRest ((← get).rest.length + 1)
  if (← get).index == before then fail else return String.ofList cs

/-- Whether the tag here has a handle with a name: a second exclamation mark before the gap. -/
def hasNamedHandle (c : Cursor) : Bool :=
  ((c.rest.drop 1).takeWhile fun x => !isSpaceOrStop x).contains '!'

def scanTag : Scan Token := do
  let c ← get
  let token ← if c.look 1 == '<' then do
      skip 2
      let suffix ← scanSuffix
      if (← peek) != '>' then fail
      skip 1
      pure (Token.tag none suffix)
    else if isGap (c.look 1) then do
      skip 1
      pure (Token.tag none "!")
    else if hasNamedHandle c then do
      let handle ← scanHandle
      pure (Token.tag (some handle) (← scanSuffix))
    else do
      skip 1
      pure (Token.tag (some "!") (← scanSuffix))
  if isSpaceOrStop (← peek) then return token else fail

def scanVersionPart : Scan Nat := do
  let ds ← run Char.isDigit
  if ds.isEmpty then fail else return numberIn 10 ds

def scanVersion : Scan Directive := do
  skipWhile (· == ' ')
  let major ← scanVersionPart
  if (← peek) != '.' then fail
  skip 1
  discard scanVersionPart
  if isSpaceOrStop (← peek) then return .version major else fail

/-- The handle and what it stands for that a directive gives. -/
def scanTagDirective : Scan Directive := do
  skipWhile (· == ' ')
  let handle ← scanHandle
  if (← peek) != ' ' then fail
  skipWhile (· == ' ')
  let start ← scanSuffix
  if isSpaceOrStop (← peek) then return .tag handle start else fail

def scanDirective : Scan Token := do
  skip 1
  let name ← scanName
  if !isSpaceOrStop (← peek) then fail
  let d ← match name with
    | "YAML" => scanVersion
    | "TAG" => scanTagDirective
    | _ => do
      skipWhile fun c => !isStop c
      pure Directive.other
  finishLine
  return .directive d

end SqlDesk.Yaml
