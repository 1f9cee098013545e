import SqlDesk.Pattern.Node
import SqlDesk.Text.Case

/-!
# Searching by a pattern

The meaning of an element is the list of the states in which it can leave the text, in the order in
which they are tried. A sequence tries the states of its first element one after the other, which is
backtracking; an atomic part keeps only the first state.
-/

namespace SqlDesk.Pattern

open Text

/-- Characters of lower case that have one upper case form in common, by one of them. -/
def caseSiblings : List (Nat × List Nat) :=
  [
   (0x69, [0x131]), (0x73, [0x17F]), (0xB5, [0x3BC]), (0x131, [0x69]), (0x17F, [0x73]), (0x345,
   [0x3B9, 0x1FBE]), (0x390, [0x1FD3]), (0x3B0, [0x1FE3]), (0x3B2, [0x3D0]), (0x3B5, [0x3F5]),
   (0x3B8, [0x3D1]), (0x3B9, [0x345, 0x1FBE]), (0x3BA, [0x3F0]), (0x3BC, [0xB5]), (0x3C0,
   [0x3D6]), (0x3C1, [0x3F1]), (0x3C2, [0x3C3]), (0x3C3, [0x3C2]), (0x3C6, [0x3D5]), (0x3D0,
   [0x3B2]), (0x3D1, [0x3B8]), (0x3D5, [0x3C6]), (0x3D6, [0x3C0]), (0x3F0, [0x3BA]), (0x3F1,
   [0x3C1]), (0x3F5, [0x3B5]), (0x432, [0x1C80]), (0x434, [0x1C81]), (0x43E, [0x1C82]), (0x441,
   [0x1C83]), (0x442, [0x1C84, 0x1C85]), (0x44A, [0x1C86]), (0x463, [0x1C87]), (0x1C80,
   [0x432]), (0x1C81, [0x434]), (0x1C82, [0x43E]), (0x1C83, [0x441]), (0x1C84, [0x442, 0x1C85]),
   (0x1C85, [0x442, 0x1C84]), (0x1C86, [0x44A]), (0x1C87, [0x463]), (0x1C88, [0xA64B]), (0x1E61,
   [0x1E9B]), (0x1E9B, [0x1E61]), (0x1FBE, [0x345, 0x3B9]), (0x1FD3, [0x390]), (0x1FE3,
   [0x3B0]), (0xA64B, [0x1C88]), (0xFB05, [0xFB06]), (0xFB06, [0xFB05])]

def lowerCode (n : Nat) : Nat :=
  if h : n.isValidChar then (simpleLower (Char.ofNatAux n h)).toNat else n

/-- The characters with an upper case form of one character that only their titles show. -/
def hasTitleForm (n : Nat) : Bool :=
  0x1F80 ≤ n && n ≤ 0x1FAF || n == 0x1FB3 || n == 0x1FC3 || n == 0x1FF3

/-- Whether a code has another one that differs only in case. -/
def hasCase (n : Nat) : Bool :=
  lowerCode n != n || (if n < 128 then 97 ≤ n && n ≤ 122 else upperRuns.any (fun r => (r.image? n).isSome)) ||
    hasTitleForm n

/-- The lower case codes that count as equal to a lower case code. -/
def siblings (lo : Nat) : List Nat := lo :: (caseSiblings.lookup lo).getD []

/-- The codes whose lower case is a given code. -/
def lowerOrigins (lo : Nat) : List Nat :=
  lo :: (if 97 ≤ lo && lo ≤ 122 then [lo - 32] else []) ++ (if lo == 0x69 then [0x130] else []) ++
    lowerRuns.filterMap fun r =>
      if r.target ≤ lo && lo ≤ r.target + (r.last - r.first) && (lo - r.target) % r.step == 0 then
        some (r.first + (lo - r.target))
      else none

/-- The lower case code in the ASCII alphabet. -/
def lowerAscii (n : Nat) : Nat := if 65 ≤ n && n ≤ 90 then n + 32 else n

/-- Whether the character of a pattern matches a character of the text. -/
def sameChar (f : Flags) (code x : Nat) : Bool :=
  if !f.ignoreCase then code == x
  else if f.ascii then lowerAscii code == lowerAscii x
  else if hasCase code then (siblings (lowerCode code)).contains (lowerCode x)
  else code == x

def inCategory (f : Flags) (c : Category) (x : Char) : Bool :=
  match c with
  | .digit => if f.ascii then x.isDigit else isDigit x
  | .space =>
    if f.ascii then x == ' ' || (9 ≤ x.toNat && x.toNat ≤ 13) else isBlank x
  | .word => if f.ascii then x == '_' || x.isAlphanum else isWord x

/-- Whether a member of a set admits a character. -/
def SetItem.admits (f : Flags) (x : Char) : SetItem → Bool
  | .char n => sameChar f n x.toNat
  | .range lo hi =>
    let inside (n : Nat) : Bool := lo ≤ n && n ≤ hi
    if !f.ignoreCase then inside x.toNat
    else if f.ascii then
      let l := lowerAscii x.toNat
      inside l || (97 ≤ l && l ≤ 122 && inside (l - 32))
    else (siblings (lowerCode x.toNat)).any fun l => (lowerOrigins l).any inside
  | .category c neg => inCategory f c x != neg

/-- How far a match has come, and what its groups have captured. -/
structure Mark where
  pos : Nat
  captures : List (Nat × Nat × Nat) := []

/-- A character in the text counts as part of a word. -/
def wordAt (f : Flags) (text : Array Char) (i : Nat) : Bool :=
  match text[i]? with
  | some c => inCategory f .word c
  | none => false

/-- Whether a position is what an anchor demands. -/
def Anchor.holds (f : Flags) (text : Array Char) (i : Nat) : Anchor → Bool
  | .textStart => i == 0
  | .textEnd => i == text.size
  | .lineStart => i == 0 || (f.multiline && text[i - 1]? == some '\n')
  | .lineEnd =>
    i == text.size || (f.multiline && text[i]? == some '\n') ||
      (i + 1 == text.size && text[i]? == some '\n')
  | .boundary =>
    text.size != 0 && ((i != 0 && wordAt f text (i - 1)) != wordAt f text i)
  | .inside =>
    text.size != 0 && ((i != 0 && wordAt f text (i - 1)) == wordAt f text i)

/-- Step over one character that satisfies a condition. -/
def stepIf (text : Array Char) (m : Mark) (p : Char → Bool) : List Mark :=
  match text[m.pos]? with
  | some c => if p c then [{ m with pos := m.pos + 1 }] else []
  | none => []

/-- Repeat `body`, at most `max` times more. A round that takes nothing ends the repetition. -/
def optionalRounds (lazy : Bool) (body : Mark → List Mark) : Nat → Option Nat → Mark → List Mark
  | 0, _, m => [m]
  | fuel + 1, max, m =>
    if max = some 0 then [m]
    else
      let more := (body m).flatMap fun n =>
        if n.pos = m.pos then [n] else optionalRounds lazy body fuel (max.map (· - 1)) n
      if lazy then m :: more else more ++ [m]

/-- Repeat `body` exactly `count` times, then go on as `next` says. A round that takes nothing
stands for all that are left. -/
def demandedRounds (body : Mark → List Mark) (next : Mark → List Mark) : Nat → Nat → Mark → List Mark
  | 0, _, m => next m
  | _, 0, m => next m
  | fuel + 1, count + 1, m => (body m).flatMap fun n =>
    if n.pos = m.pos then next n else demandedRounds body next fuel count n

/-- The rounds of a repetition. -/
def rounds (greed : Greed) (min : Nat) (max : Option Nat) (fuel : Nat) (body : Mark → List Mark)
    (m : Mark) : List Mark :=
  let rest := optionalRounds (greed = .lazy) body fuel (max.map (· - min))
  let all := demandedRounds body rest fuel min m
  if greed = .possessive then all.take 1 else all

/-- Step over the text that a group has captured. -/
def stepCapture (f : Flags) (text : Array Char) (m : Mark) (number : Nat) : List Mark :=
  match m.captures.lookup number with
  | none => []
  | some (i, j) =>
    let here := (text.extract m.pos (m.pos + (j - i))).toList
    let there := (text.extract i j).toList
    if here.length = there.length &&
        (there.zip here).all fun p => sameChar f p.1.toNat p.2.toNat then
      [{ m with pos := m.pos + (j - i) }]
    else []

mutual

/-- The states in which an element can leave the text. -/
def Node.ends (text : Array Char) (f : Flags) : Node → Mark → List Mark
  | .char n, m => stepIf text m fun c => sameChar f n c.toNat
  | .notChar n, m => stepIf text m fun c => !sameChar f n c.toNat
  | .any, m => stepIf text m fun c => f.dotAll || c != '\n'
  | .set neg items, m => stepIf text m fun c => (items.any fun i => i.admits f c) != neg
  | .anchor a, m => if a.holds f text m.pos then [m] else []
  | .group number add del body, m =>
    let found := seqEnds text (f.inside add del) body m
    match number with
    | none => found
    | some g => found.map fun n => { n with captures := (g, m.pos, n.pos) :: n.captures }
  | .atomic body, m => (seqEnds text f body m).take 1
  | .alt branches, m => altEnds text f branches m
  | .rep greed min max body, m =>
    rounds greed min max (text.size - m.pos + 1) (seqEnds text f body) m
  | .backref number _, m => stepCapture f text m number
  | .look behind neg body, m =>
    let width := (seqWidth body).1
    if behind && m.pos < width then if neg then [m] else []
    else
      let start := if behind then { m with pos := m.pos - width } else m
      match seqEnds text f body start with
      | [] => if neg then [m] else []
      | n :: _ => if neg then [] else [{ m with captures := n.captures }]
  | .cond number yes no, m =>
    if (m.captures.lookup number).isSome then seqEnds text f yes m
    else match no with
      | none => [m]
      | some no => seqEnds text f no m

def seqEnds (text : Array Char) (f : Flags) : List Node → Mark → List Mark
  | [], m => [m]
  | n :: ns, m => (n.ends text f m).flatMap fun k => seqEnds text f ns k

def altEnds (text : Array Char) (f : Flags) : List (List Node) → Mark → List Mark
  | [], _ => []
  | b :: bs, m => seqEnds text f b m ++ altEnds text f bs m

end

/-- Whether a pattern matches at the start of a text. -/
def matchesStart (p : Pattern) (s : String) : Bool :=
  !(seqEnds s.toList.toArray p.flags p.nodes { pos := 0 }).isEmpty

/-- Whether a pattern is found anywhere in a text. -/
def foundIn (p : Pattern) (s : String) : Bool :=
  let text := s.toList.toArray
  (List.range (text.size + 1)).any fun i => !(seqEnds text p.flags p.nodes { pos := i }).isEmpty

end SqlDesk.Pattern
