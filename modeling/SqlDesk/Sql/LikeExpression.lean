import SqlDesk.Pattern.Reader
import SqlDesk.Pattern.Search
import SqlDesk.Sql.Like

/-!
# LIKE patterns as regular expressions

A LIKE pattern is translated element by element, between the anchors of the start and the end of a
line, for an expression in which a dot stands for a line break too.
-/

namespace SqlDesk.Sql

/-- The characters that get a backslash where they stand for themselves. -/
def expressionSigns : List Char :=
  ['(', ')', '[', ']', '\x7b', '\x7d', '?', '*', '+', '-', '|', '^', '$', '\\', '.', '&', '~', '#',
    ' ', '\t', '\n', '\r', '\x0b', '\x0c']

/-- The token for a character that stands for itself. -/
def literalToken (c : Char) : List Char := if c ∈ expressionSigns then ['\\', c] else [c]

def LikeItem.tokens : LikeItem → List (List Char)
  | .any => [['.'], ['*']]
  | .one => [['.']]
  | .literal c => [literalToken c]

/-- The expression for a LIKE pattern. -/
def Like.expression (p : Like) : String :=
  String.ofList ('^' :: (p.items.flatMap LikeItem.tokens).flatten ++ ['$'])

/-- The regular expression for a LIKE pattern. -/
def Like.toPattern (p : Like) : Except Pattern.PatternError Pattern := do
  let q ← Pattern.compile p.expression
  return { q with flags := q.flags.union { dotAll := true } }

end SqlDesk.Sql
