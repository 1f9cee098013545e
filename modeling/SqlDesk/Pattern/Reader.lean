import SqlDesk.Pattern.Node
import SqlDesk.Pattern.Issue
import SqlDesk.Text.Numeral
import SqlDesk.Text.Identifier

/-!
# Reading patterns

A pattern is read token by token, a token being a character or a backslash with the character
behind it. The reader always holds the next token, so a backslash at the very end is noticed as soon
as it comes next, before the tokens in front of it are looked at.
-/

namespace SqlDesk.Pattern

open Text

/-- Where the reader is, and what it knows of the groups so far. -/
structure Source where
  /-- The next token, empty at the end. -/
  next : List Char
  /-- The characters behind the next token. -/
  rest : List Char
  /-- The position behind the next token. -/
  index : Nat
  /-- The flags set for the whole pattern. -/
  flags : Flags := {}
  /-- The numbers of the named groups. -/
  names : List (String × Nat) := []
  /-- The widths of the groups by number, `none` for a group that is open. -/
  widths : List (Option Width) := [none]
  /-- The number of groups at the start of the outermost lookbehind that is open. -/
  lookbehind : Option Nat := none
  /-- The groups that conditions refer to, with the position of the first such reference. -/
  conditions : List (Nat × Nat) := []

/-- Reading may fail. -/
abbrev Read (α : Type) := StateT Source (Except PatternError) α

/-- The position of the next token. -/
def Source.tell (s : Source) : Nat := s.index - s.next.length

/-- Refuse the pattern for an issue, `offset` characters before the next token. -/
def refuse {α : Type} (issue : Issue) (offset : Int := 0) : Read α := fun s =>
  .error (.malformed issue (some (s.tell - offset).toNat))

/-- Refuse the pattern for an issue at a position. -/
def refuseAt {α : Type} (issue : Issue) (position : Nat) : Read α := fun _ =>
  .error (.malformed issue (some position))

/-- Step to the token behind the next one. -/
def Source.advance (s : Source) : Except PatternError Source :=
  match s.rest with
  | [] => .ok { s with next := [], rest := [] }
  | ['\\'] => .error (.malformed .trailingBackslash (some s.index))
  | '\\' :: c :: rest => .ok { s with next := ['\\', c], rest, index := s.index + 2 }
  | c :: rest => .ok { s with next := [c], rest, index := s.index + 1 }

/-- Step to the token behind the next one. -/
def skip : Read Unit := fun s => (((), ·)) <$> s.advance

/-- Take the next token; it is empty at the end. -/
def take : Read (List Char) := do
  let s ← get
  skip
  return s.next

/-- Take the next token if it is the given character. -/
def accept (c : Char) : Read Bool := do
  let s ← get
  if s.next = [c] then
    skip
    return true
  else return false

/-- Take up to `n` tokens that are characters of a class. -/
def takeUpTo (p : Char → Bool) : Nat → Read (List Char)
  | 0 => return []
  | n + 1 => do
    let s ← get
    match s.next with
    | [c] =>
      if p c then
        skip
        return c :: (← takeUpTo p n)
      else return []
    | _ => return []

/-- Take tokens up to a terminating character, which is taken too. -/
def takeUntil (terminator : Char) (what : String) : Nat → List Char → Read (List Char)
  | 0, acc => return acc
  | fuel + 1, acc => do
    let c ← take
    if c = [] then
      if acc = [] then refuse (.missing what)
      else refuse (.unterminatedName terminator) acc.length
    else if c = [terminator] then
      if acc = [] then refuse (.missing what) 1 else return acc
    else takeUntil terminator what fuel (acc ++ c)

def isGroupName : List Char → Bool
  | [] => false
  | c :: cs => isWord c && !isDigitLike c && cs.all isWord

def checkName (name : List Char) : Read Unit :=
  if isGroupName name then return ()
  else refuse (.badGroupName (String.ofList name)) (name.length + 1)

/-- The characters that stand for a control character behind a backslash. -/
def controlEscape? : Char → Option Nat
  | 'a' => some 7
  | 'b' => some 8
  | 'f' => some 12
  | 'n' => some 10
  | 'r' => some 13
  | 't' => some 9
  | 'v' => some 11
  | '\\' => some 92
  | _ => none

/-- The classes that a letter denotes behind a backslash. -/
def category? : Char → Option SetItem
  | 'd' => some (.category .digit false)
  | 'D' => some (.category .digit true)
  | 's' => some (.category .space false)
  | 'S' => some (.category .space true)
  | 'w' => some (.category .word false)
  | 'W' => some (.category .word true)
  | _ => none

/-- The positions that a letter denotes behind a backslash. -/
def anchor? : Char → Option Anchor
  | 'A' => some .textStart
  | 'b' => some .boundary
  | 'B' => some .inside
  | 'Z' => some .textEnd
  | _ => none

def isOctal (c : Char) : Bool := '0' ≤ c && c ≤ '7'

def isHex (c : Char) : Bool := c.isDigit || ('a' ≤ c && c ≤ 'f') || ('A' ≤ c && c ≤ 'F')

def hexValue (c : Char) : Nat :=
  if c.isDigit then c.toNat - 48 else if 'a' ≤ c then c.toNat - 87 else c.toNat - 55

/-- The number that digits denote in a base. -/
def numberIn (base : Nat) (cs : List Char) : Nat := cs.foldl (fun n c => base * n + hexValue c) 0

/-- A character given by `count` hexadecimal digits behind a backslash and the letter `c`. -/
def hexEscape (c : Char) (count : Nat) : Read Nat := do
  let ds ← takeUpTo isHex count
  let escape := String.ofList ('\\' :: c :: ds)
  if ds.length ≠ count then refuse (.incompleteEscape escape) (2 + ds.length)
  else
    let n := numberIn 16 ds
    if 0x10FFFF < n then refuse (.badEscape escape) (2 + ds.length) else return n

/-- A character given by its name in braces. There is no table of names, so every name is refused,
those that stand for a character included. -/
def namedEscape : Read Nat := do
  if ← accept '\x7b' then
    let s ← get
    let name ← takeUntil '\x7d' "character name" (s.rest.length + 2) []
    refuse (.undefinedCharacter (String.ofList name)) (name.length + 4)
  else refuse (.missing "\x7b")

/-- An octal escape that starts with the digit `c`. -/
def octalEscape (c : Char) (more : List Char) : Read Nat := do
  let n := numberIn 8 (c :: more)
  if 0o377 < n then
    refuse (.octalTooLarge (String.ofList ('\\' :: c :: more))) (2 + more.length)
  else return n

/-- The character that a backslash and `c` denote, where that is the same inside and outside of
sets; `none` otherwise. -/
def sharedEscape (c : Char) : Read (Option Nat) :=
  match c with
  | 'x' => some <$> hexEscape 'x' 2
  | 'u' => some <$> hexEscape 'u' 4
  | 'U' => some <$> hexEscape 'U' 8
  | 'N' => some <$> namedEscape
  | _ => return none

/-- What a backslash and `c` denote inside a set. -/
def setEscape (c : Char) : Read SetItem := do
  match controlEscape? c, category? c with
  | some n, _ => return .char n
  | none, some i => return i
  | none, none =>
    match ← sharedEscape c with
    | some n => return .char n
    | none =>
      if isOctal c then
        let more ← takeUpTo isOctal 2
        return .char (← octalEscape c more)
      else if c.isDigit || c.isAlpha then refuse (.badEscape (String.ofList ['\\', c])) 2
      else return .char c.toNat

/-- Whether the group of a number exists and is closed. -/
def Source.closed? (s : Source) (number : Nat) : Option Width := (s.widths.getD number none)

/-- Refuse a reference to a group that an open lookbehind defines. -/
def checkLookbehind (number : Nat) : Read Unit := do
  let s ← get
  match s.lookbehind with
  | none => return ()
  | some limit =>
    if (s.closed? number).isNone then refuse .openGroupReference
    else if limit ≤ number then refuse .lookbehindReference
    else return ()

/-- A reference to the group of a number, which was written with `width` characters. -/
def reference (number : Nat) (width : Nat) : Read Node := do
  let s ← get
  if number < s.widths.length then
    match s.closed? number with
    | none => refuse .openGroupReference width
    | some w =>
      checkLookbehind number
      return .backref number w
  else refuse (.invalidReference number) ((width : Int) - 1)

/-- A backslash and a digit from one to nine: an octal escape of three digits, or a reference. -/
def digitEscape (c : Char) : Read Node := do
  let s ← get
  match s.next with
  | [d] =>
    if d.isDigit then
      skip
      let s ← get
      match s.next with
      | [e] =>
        if isOctal c && isOctal d && isOctal e then
          skip
          return .char (← octalEscape c [d, e])
        else reference (numberIn 10 [c, d]) 3
      | _ => reference (numberIn 10 [c, d]) 3
    else reference (numberIn 10 [c]) 2
  | _ => reference (numberIn 10 [c]) 2

/-- What a backslash and `c` denote outside of sets. -/
def escape (c : Char) : Read Node := do
  match category? c, anchor? c, controlEscape? c with
  | some i, _, _ => return .set false [i]
  | none, some a, _ => return .anchor a
  | none, none, some n => return .char n
  | none, none, none =>
    match ← sharedEscape c with
    | some n => return .char n
    | none =>
      if c = '0' then
        let more ← takeUpTo isOctal 2
        return .char (numberIn 8 (c :: more))
      else if c.isDigit then digitEscape c
      else if c.isAlpha then refuse (.badEscape (String.ofList ['\\', c])) 2
      else return .char c.toNat

/-- The member of a set that a token denotes. -/
def setMember : List Char → Read SetItem
  | ['\\', c] => setEscape c
  | c :: _ => return .char c.toNat
  | [] => return .char 0

/-- Read the members of a set that opened at `start`, up to its closing bracket. -/
def readSet (start : Nat) : Nat → List SetItem → Read (List SetItem)
  | 0, acc => return acc
  | fuel + 1, acc => do
    let this ← take
    if this = [] then refuseAt .unterminatedSet start
    else if this = [']'] ∧ acc ≠ [] then return acc
    else
      let first ← setMember this
      if ← accept '-' then
        let that ← take
        if that = [] then refuseAt .unterminatedSet start
        else if that = [']'] then return acc ++ [first, .char '-'.toNat]
        else
          let last ← setMember that
          let bad := Issue.badRange (String.ofList this) (String.ofList that)
          let width := this.length + 1 + that.length
          match first, last with
          | .char lo, .char hi =>
            if hi < lo then refuse bad width else readSet start fuel (acc ++ [.range lo hi])
          | _, _ => refuse bad width
      else readSet start fuel (acc ++ [first])

/-- The element for the members of a set. -/
def setNode (neg : Bool) (items : List SetItem) : Node :=
  match items.eraseDups with
  | [.char n] => if neg then .notChar n else .char n
  | items => .set neg items

/-- Repetition counts must stay below this. -/
def countLimit : Nat := 4294967295

/-- The numbers of groups must stay below this. -/
def groupLimit : Nat := 1073741823

/-- Refuse a repetition count that is too large. -/
def checkCount (n : Nat) : Read Unit := fun s =>
  if countLimit ≤ n then .error .countTooLarge else .ok ((), s)

/-- Read the bounds of a repetition behind its opening brace; `none` if there is no repetition. -/
def readBounds : Read (Option (Nat × Option Nat)) := do
  let saved ← get
  let lo ← takeUpTo Char.isDigit (saved.rest.length + 1)
  let hi ← if ← accept ',' then takeUpTo Char.isDigit (saved.rest.length + 1) else pure lo
  if ← accept '\x7d' then
    let min := numberIn 10 lo
    checkCount min
    let max := if hi = [] then none else some (numberIn 10 hi)
    checkCount (max.getD 0)
    if max.any (· < min) then refuseAt .minAboveMax saved.tell
    else return some (min, max)
  else
    set saved
    return none

/-- Put the last element of a sequence, which is in reverse order, under a repetition whose sign
stands at `position`. -/
def repeatLast (position : Nat) (min : Nat) (max : Option Nat) (acc : List Node) :
    Read (List Node) := do
  match acc with
  | [] | .anchor _ :: _ => refuseAt .nothingToRepeat position
  | .rep .. :: _ => refuseAt .multipleRepeat position
  | item :: acc =>
    if ← accept '?' then return .rep .lazy min max [item] :: acc
    else if ← accept '+' then return .rep .possessive min max [item] :: acc
    else return .rep .greedy min max [item] :: acc

def flag? : List Char → Option Flags
  | ['i'] => some { ignoreCase := true }
  | ['m'] => some { multiline := true }
  | ['s'] => some { dotAll := true }
  | ['x'] => some { verbose := true }
  | ['a'] => some { ascii := true }
  | ['u'] => some { unicode := true }
  | ['t'] => some { template := true }
  | _ => none

/-- Whether a token is a flag letter, the refused locale flag included. -/
def isFlag (token : List Char) : Bool := (flag? token).isSome || token == ['L']

/-- The issue of a token that is no flag where one was expected. -/
def notAFlag (token : List Char) (what : String) : Issue :=
  if token.all fun c => isAlphanumeric c && !isDigitLike c then .unknownFlag else .missing what

/-- Read the flags to turn on, of which `token` is the first; the terminator comes back too. -/
def readFlagsOn : Nat → List Char → Flags → Read (Flags × List Char)
  | 0, token, add => return (add, token)
  | fuel + 1, token, add => do
    if token = ['L'] then refuse .localeFlag
    else
      let flag := (flag? token).getD {}
      let add := add.union flag
      if flag.setsAlphabet && add.ascii && add.unicode then refuse .mixedAlphabets
      else
        let token ← take
        if token = [] then refuse (.missing "-, : or )")
        else if token = [')'] ∨ token = ['-'] ∨ token = [':'] then return (add, token)
        else if isFlag token then readFlagsOn fuel token add
        else refuse (notAFlag token "-, : or )") token.length

/-- Read the flags to turn off, of which `token` is the first, up to the colon. -/
def readFlagsOff : Nat → List Char → Flags → Read Flags
  | 0, _, del => return del
  | fuel + 1, token, del => do
    let flag := (flag? token).getD {}
    if flag.setsAlphabet || token = ['L'] then refuse .alphabetOff
    else
      let del := del.union flag
      let token ← take
      if token = [] then refuse (.missing ":")
      else if token = [':'] then return del
      else if isFlag token then readFlagsOff fuel token del
      else refuse (notAFlag token ":") token.length

/-- Read inline flags that start with `token`: `none` if they hold for the whole pattern, otherwise
the flags that a group turns on and off. -/
def readFlags (token : List Char) : Read (Option (Flags × Flags)) := do
  let s ← get
  let fuel := s.rest.length + 2
  let (add, stop) ←
    if token = ['-'] then pure ({}, ['-']) else readFlagsOn fuel token {}
  if stop = [')'] then
    modify fun s => { s with flags := s.flags.union add }
    return none
  else if add.template then refuse .globalFlagOn 1
  else
    let del ← if stop = ['-'] then do
        let token ← take
        if token = [] then refuse (.missing "flag")
        else if isFlag token then readFlagsOff fuel token {}
        else refuse (notAFlag token "flag") token.length
      else pure {}
    if del.template then refuse .globalFlagOff 1
    else if add.overlaps del then refuse .flagOnAndOff 1
    else return some (add, del)

/-- Skip a comment group up to its closing parenthesis. -/
def skipComment (start : Nat) : Nat → Read Unit
  | 0 => return ()
  | fuel + 1 => do
    let token ← take
    if token = [] then refuseAt .unterminatedComment start
    else if token = [')'] then return ()
    else skipComment start fuel

/-- Skip a comment of the verbose form up to the end of the line. -/
def skipLine : Nat → Read Unit
  | 0 => return ()
  | fuel + 1 => do
    let token ← take
    if token = [] ∨ token = ['\n'] then return () else skipLine fuel

/-- Open a group, named or not; its number comes back. -/
def openGroup (name : Option (List Char)) : Read Nat := do
  let s ← get
  let number := s.widths.length
  match name with
  | none => set { s with widths := s.widths ++ [none] }
  | some n =>
    let text := String.ofList n
    match s.names.lookup text with
    | some previous => refuse (.redefinedGroup text number previous) (n.length + 1)
    | none => set { s with widths := s.widths ++ [none], names := s.names ++ [(text, number)] }
  return number

/-- Close a group, whose width is known now. -/
def closeGroup (number : Nat) (body : List Node) : Read Unit :=
  modify fun s => { s with widths := s.widths.set number (some (seqWidth body)) }

/-- Take the closing parenthesis of what opened at `start`. -/
def closeParen (start : Nat) : Read Unit := do
  if ← accept ')' then return () else refuseAt .unterminatedGroup start

/-- The group that a condition names or numbers. -/
def conditionGroup (name : List Char) : Read Nat := do
  let s ← get
  if isGroupName name then
    match s.names.lookup (String.ofList name) with
    | some n => return n
    | none => refuse (.unknownGroupName (String.ofList name)) (name.length + 1)
  else
    match integer? name with
    | none => refuse (.badGroupName (String.ofList name)) (name.length + 1)
    | some n =>
      if n < 0 then refuse (.badGroupName (String.ofList name)) (name.length + 1)
      else if n = 0 then refuse .badGroupNumber (name.length + 1)
      else if (groupLimit : Int) ≤ n then refuse (.invalidReference n) (name.length + 1)
      else
        let n := n.toNat
        if (s.conditions.lookup n).isNone then
          set { s with conditions := s.conditions ++ [(n, s.tell - name.length - 1)] }
        return n

/-- A blank of the verbose form. -/
def isLayout (c : Char) : Bool :=
  c == ' ' || c == '\t' || c == '\n' || c == '\r' || c == '\x0b' || c == '\x0c'

mutual

/-- Read alternatives up to the end or a closing parenthesis. -/
def readAlt : Nat → Bool → Bool → Read (List Node)
  | 0, _, _ => return []
  | fuel + 1, verbose, top => do
    let branches ← readBranches fuel verbose top true
    match branches with
    | [b] => return b
    | bs => return [.alt bs]

def readBranches : Nat → Bool → Bool → Bool → Read (List (List Node))
  | 0, _, _, _ => return []
  | fuel + 1, verbose, top, first => do
    let b ← readSeq fuel verbose (top && first) []
    if ← accept '|' then
      let s ← get
      let verbose := if top then s.flags.verbose else verbose
      return b :: (← readBranches fuel verbose top false)
    else return [b]

/-- Read a sequence. `acc` holds its elements so far in reverse order, and `first` tells that the
sequence is the start of the pattern. -/
def readSeq : Nat → Bool → Bool → List Node → Read (List Node)
  | 0, _, _, acc => return acc.reverse
  | fuel + 1, verbose, first, acc => do
    let s ← get
    match s.next with
    | [] => return acc.reverse
    | ['\\', c] =>
      skip
      let n ← escape c
      readSeq fuel verbose first (n :: acc)
    | c :: _ =>
      if c = '|' ∨ c = ')' then return acc.reverse
      else
        skip
        let here := (← get).tell
        if verbose && isLayout c then readSeq fuel verbose first acc
        else if verbose && c = '#' then
          skipLine fuel
          readSeq fuel verbose first acc
        else match c with
        | '[' =>
          let neg ← accept '^'
          let items ← readSet (here - 1) fuel []
          readSeq fuel verbose first (setNode neg items :: acc)
        | '?' => readSeq fuel verbose first (← repeatLast (here - 1) 0 (some 1) acc)
        | '*' => readSeq fuel verbose first (← repeatLast (here - 1) 0 none acc)
        | '+' => readSeq fuel verbose first (← repeatLast (here - 1) 1 none acc)
        | '\x7b' =>
          -- an empty pair of braces is no repetition
          if (← get).next = ['\x7d'] then readSeq fuel verbose first (.char c.toNat :: acc)
          else
            match ← readBounds with
            | none => readSeq fuel verbose first (.char c.toNat :: acc)
            | some (min, max) =>
              readSeq fuel verbose first (← repeatLast (here - 1) min max acc)
        | '.' => readSeq fuel verbose first (.any :: acc)
        | '^' => readSeq fuel verbose first (.anchor .lineStart :: acc)
        | '$' => readSeq fuel verbose first (.anchor .lineEnd :: acc)
        | '(' =>
          match ← readGroup fuel verbose (first && acc.isEmpty) (here - 1) with
          | some n => readSeq fuel verbose first (n :: acc)
          -- flags at the very start may switch the verbose form on for the rest
          | none => readSeq fuel (verbose || (← get).flags.verbose && first) first acc
        | _ => readSeq fuel verbose first (.char c.toNat :: acc)

/-- Read what follows an opening parenthesis at `start`. Comments and global flags give no
element. -/
def readGroup : Nat → Bool → Bool → Nat → Read (Option Node)
  | 0, _, _, _ => return none
  | fuel + 1, verbose, first, start => do
    if ← accept '?' then
      let token ← take
      match token with
      | [] => refuse .unexpectedEnd
      | ['P'] =>
        if ← accept '<' then
          let name ← takeUntil '>' "group name" fuel []
          checkName name
          some <$> readCapture fuel verbose start (some name)
        else if ← accept '=' then
          let name ← takeUntil ')' "group name" fuel []
          checkName name
          let s ← get
          match s.names.lookup (String.ofList name) with
          | none => refuse (.unknownGroupName (String.ofList name)) (name.length + 1)
          | some number =>
            match s.closed? number with
            | none => refuse .openGroupReference (name.length + 1)
            | some w =>
              checkLookbehind number
              return some (.backref number w)
        else
          let token ← take
          if token = [] then refuse .unexpectedEnd
          else refuse (.unknownExtension ("P" ++ String.ofList token)) (token.length + 2)
      | [':'] => some <$> readBody fuel verbose start {} {}
      | ['#'] =>
        skipComment start fuel
        return none
      | ['='] => some <$> readLook fuel verbose start false false
      | ['!'] => some <$> readLook fuel verbose start false true
      | ['<'] =>
        let token ← take
        if token = [] then refuse .unexpectedEnd
        else if token = ['='] then some <$> readLook fuel verbose start true false
        else if token = ['!'] then some <$> readLook fuel verbose start true true
        else refuse (.unknownExtension ("<" ++ String.ofList token)) (token.length + 2)
      | ['('] =>
        let name ← takeUntil ')' "group name" fuel []
        let number ← conditionGroup name
        checkLookbehind number
        let yes ← readSeq fuel verbose false []
        let no ← if ← accept '|' then do
            let no ← readSeq fuel verbose false []
            if (← get).next = ['|'] then refuse .extraBranch else pure (some no)
          else pure none
        closeParen start
        return some (.cond number yes no)
      | ['>'] =>
        let body ← readAlt fuel verbose false
        closeParen start
        return some (.atomic body)
      | _ =>
        if isFlag token || token = ['-'] then
          match ← readFlags token with
          | none => if first then return none else refuseAt .lateFlags start
          | some (add, del) => some <$> readBody fuel verbose start add del
        else refuse (.unknownExtension (String.ofList token)) (token.length + 1)
    else some <$> readCapture fuel verbose start none

def readCapture : Nat → Bool → Nat → Option (List Char) → Read Node
  | 0, _, _, _ => return .any
  | fuel + 1, verbose, start, name => do
    let number ← openGroup name
    let body ← readAlt fuel verbose false
    closeParen start
    closeGroup number body
    return .group (some number) {} {} body

/-- Read the body of a group that only changes flags. -/
def readBody : Nat → Bool → Nat → Flags → Flags → Read Node
  | 0, _, _, _, _ => return .any
  | fuel + 1, verbose, start, add, del => do
    let body ← readAlt fuel ((verbose || add.verbose) && !del.verbose) false
    closeParen start
    return .group none add del body

/-- Read the body of a look at the text ahead or behind. -/
def readLook : Nat → Bool → Nat → Bool → Bool → Read Node
  | 0, _, _, _, _ => return .any
  | fuel + 1, verbose, start, behind, neg => do
    let outer := (← get).lookbehind
    if behind && outer.isNone then
      modify fun s => { s with lookbehind := some s.widths.length }
    let body ← readAlt fuel verbose false
    if behind && outer.isNone then
      modify fun s => { s with lookbehind := none }
    closeParen start
    return .look behind neg body

end

/-- The name of a repetition in messages. -/
def Greed.operator : Greed → String
  | .greedy => "MAX_REPEAT"
  | .lazy => "MIN_REPEAT"
  | .possessive => "POSSESSIVE_REPEAT"

/-- The first element of a list that has an issue. -/
def firstIssue {α : Type} (f : α → Option Issue) : List α → Option Issue
  | [] => none
  | a :: as => (f a).or (firstIssue f as)

mutual

/-- An issue that shows only in the complete pattern. -/
def Node.issue? (template : Bool) : Node → Option Issue
  | .group _ _ _ body | .atomic body => seqIssue? template body
  | .alt branches => altIssue? template branches
  | .rep greed _ _ body =>
    if template then some (.templateRepeat greed.operator) else seqIssue? template body
  | .look behind _ body =>
    let w := seqWidth body
    if behind && countLimit < w.1 then some .farLookbehind
    else if behind && w.1 != w.2 then some .variableLookbehind
    else seqIssue? template body
  | .cond _ yes no =>
    (seqIssue? template yes).or <|
      match no with
      | none => none
      | some no => seqIssue? template no
  | _ => none

def seqIssue? (template : Bool) : List Node → Option Issue
  | [] => none
  | n :: ns => (n.issue? template).or (seqIssue? template ns)

def altIssue? (template : Bool) : List (List Node) → Option Issue
  | [] => none
  | b :: bs => (seqIssue? template b).or (altIssue? template bs)

end

/-- Check what can be checked only when all of the pattern has been read. -/
def finish (nodes : List Node) (s : Source) : Except PatternError Pattern :=
  if s.flags.ascii && s.flags.unicode then .error .exclusiveFlags
  else if s.next ≠ [] then .error (.malformed .unbalanced (some s.tell))
  else match s.conditions.find? fun c => s.widths.length ≤ c.1 with
  | some (number, position) => .error (.malformed (.invalidReference number) (some position))
  | none =>
    match seqIssue? s.flags.template nodes with
    | some issue => .error (.malformed issue none)
    | none => .ok { nodes, flags := s.flags }

/-- The pattern that a text denotes. -/
def compile (pattern : String) : Except PatternError Pattern := do
  let cs := pattern.toList
  let start ← Source.advance { next := [], rest := cs, index := 0 }
  let (nodes, s) ← (readAlt (8 * cs.length + 16) false true).run start
  finish nodes s

end SqlDesk.Pattern
