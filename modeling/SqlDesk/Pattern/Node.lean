import SqlDesk.Number.Rounding

/-!
# Patterns

The abstract form of a regular expression: what it is made of, which flags are in force where, and
how wide its matches can be.
-/

namespace SqlDesk

namespace Pattern

/-- The switches of a pattern. -/
structure Flags where
  ignoreCase : Bool := false
  multiline : Bool := false
  dotAll : Bool := false
  verbose : Bool := false
  ascii : Bool := false
  unicode : Bool := false
  template : Bool := false
deriving DecidableEq, Repr, Inhabited

namespace Flags

def union (f g : Flags) : Flags :=
  { ignoreCase := f.ignoreCase || g.ignoreCase
    multiline := f.multiline || g.multiline
    dotAll := f.dotAll || g.dotAll
    verbose := f.verbose || g.verbose
    ascii := f.ascii || g.ascii
    unicode := f.unicode || g.unicode
    template := f.template || g.template }

/-- The flags set in the first record and not in the second. -/
def minus (f g : Flags) : Flags :=
  { ignoreCase := f.ignoreCase && !g.ignoreCase
    multiline := f.multiline && !g.multiline
    dotAll := f.dotAll && !g.dotAll
    verbose := f.verbose && !g.verbose
    ascii := f.ascii && !g.ascii
    unicode := f.unicode && !g.unicode
    template := f.template && !g.template }

/-- Whether a record sets the kind of text that the classes refer to. -/
def setsAlphabet (f : Flags) : Bool := f.ascii || f.unicode

def overlaps (f g : Flags) : Bool :=
  f.ignoreCase && g.ignoreCase || f.multiline && g.multiline || f.dotAll && g.dotAll ||
    f.verbose && g.verbose || f.ascii && g.ascii || f.unicode && g.unicode ||
    f.template && g.template

def nonempty (f : Flags) : Bool := f.overlaps f

/-- The flags inside a group that turns some on and some off. -/
def inside (f add del : Flags) : Flags :=
  let f := if add.setsAlphabet then { f with ascii := false, unicode := false } else f
  (f.union add).minus del

end Flags

/-- A class of characters. -/
inductive Category where
  | digit
  | space
  | word
deriving DecidableEq, Repr

/-- A member of a character set. -/
inductive SetItem where
  | char (code : Nat)
  | range (lo hi : Nat)
  | category (c : Category) (neg : Bool)
deriving DecidableEq, Repr

/-- A position that a pattern can demand. -/
inductive Anchor where
  | lineStart
  | lineEnd
  | textStart
  | textEnd
  | boundary
  | inside
deriving DecidableEq, Repr

/-- How a repetition chooses its count. -/
inductive Greed where
  | greedy
  | lazy
  | possessive
deriving DecidableEq, Repr

/-- The least and the greatest number of characters that a match takes. -/
abbrev Width := Nat × Nat

/-- An element of a pattern. -/
inductive Node where
  | char (code : Nat)
  | notChar (code : Nat)
  | any
  | set (neg : Bool) (items : List SetItem)
  | anchor (a : Anchor)
  /-- A group, which captures if it has a number. -/
  | group (number : Option Nat) (add del : Flags) (body : List Node)
  | atomic (body : List Node)
  | alt (branches : List (List Node))
  | rep (greed : Greed) (min : Nat) (max : Option Nat) (body : List Node)
  /-- The text that a group of the given width has captured. -/
  | backref (number : Nat) (width : Width)
  | look (behind neg : Bool) (body : List Node)
  | cond (number : Nat) (yes : List Node) (no : Option (List Node))

/-- No match is wider than this in the computation of widths. -/
def widest : Nat := 2 ^ 64

mutual

/-- The width of an element. -/
def Node.width : Node → Width
  | .char _ | .notChar _ | .any | .set .. => (1, 1)
  | .anchor _ | .look .. => (0, 0)
  | .group _ _ _ body | .atomic body => seqWidth body
  | .alt branches => altWidth branches
  | .rep _ lo hi body =>
    let w := seqWidth body
    (w.1 * lo, match hi with
      | none => if w.2 = 0 then 0 else widest
      | some hi => w.2 * hi)
  | .backref _ w => w
  | .cond _ yes no =>
    let w := seqWidth yes
    match no with
    | none => (0, w.2)
    | some no => let v := seqWidth no; (min w.1 v.1, max w.2 v.2)

def seqWidth : List Node → Width
  | [] => (0, 0)
  | n :: ns =>
    let a := n.width
    let b := seqWidth ns
    (min (a.1 + b.1) widest, min (a.2 + b.2) widest)

def altWidth : List (List Node) → Width
  | [] => (widest, 0)
  | b :: bs =>
    let v := seqWidth b
    let w := altWidth bs
    (min v.1 w.1, max v.2 w.2)

end

end Pattern

/-- A pattern that is ready for use: its elements under its global flags. -/
structure Pattern where
  nodes : List Pattern.Node
  flags : Pattern.Flags

end SqlDesk
