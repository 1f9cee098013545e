import SqlDesk.Text.Identifier

/-!
# LIKE patterns

A pattern is read into wildcards and literal characters; a backslash makes the next character
literal, and one at the very end stands for nothing. The end of a name is also reached before a
final line break.
-/

namespace SqlDesk.Sql

/-- One element of a LIKE pattern. -/
inductive LikeItem where
  /-- Any sequence of characters. -/
  | any
  /-- Any one character. -/
  | one
  /-- The character itself. -/
  | literal (c : Char)
deriving DecidableEq, Repr

/-- Read a pattern; `escaped` tells that a backslash came just before. -/
def readLike (escaped : Bool) : List Char → List LikeItem
  | [] => []
  | c :: cs =>
    if escaped then .literal c :: readLike false cs
    else if c = '\\' then readLike true cs
    else if c = '%' then .any :: readLike false cs
    else if c = '_' then .one :: readLike false cs
    else .literal c :: readLike false cs

structure Like where
  items : List LikeItem
deriving DecidableEq, Repr

def Like.ofText (s : String) : Like := ⟨readLike false s.toList⟩

/-- A list and all its ends, longest first. -/
def suffixes : List Char → List (List Char)
  | [] => [[]]
  | c :: cs => (c :: cs) :: suffixes cs

/-- Whether the items match all of a text. -/
def matchesAll : List LikeItem → List Char → Bool
  | [], cs => cs.isEmpty
  | .any :: ps, cs => (suffixes cs).any (matchesAll ps)
  | .one :: ps, cs =>
    match cs with
    | [] => false
    | _ :: cs => matchesAll ps cs
  | .literal c :: ps, cs =>
    match cs with
    | [] => false
    | d :: cs => c == d && matchesAll ps cs

/-- Whether a pattern admits a name. -/
def Like.admits (p : Like) (name : String) : Bool :=
  matchesAll p.items name.toList ||
    (name.toList.getLast? == some '\n' && matchesAll p.items name.toList.dropLast)

end SqlDesk.Sql
