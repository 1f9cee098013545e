/-!
# Identifiers

Plain ASCII identifiers, as they may be written into a statement without quotes. One line break
after the identifier is let through.
-/

namespace SqlDesk.Text

/-- A character that starts an identifier. -/
def startsIdentifier (c : Char) : Bool := c.isAlpha || c == '_'

/-- A character inside an identifier. -/
def continuesIdentifier (c : Char) : Bool := c.isAlphanum || c == '_'

/-- The part of a text that an end anchor sees: a single line break at the end does not count. -/
def withoutFinalBreak (cs : List Char) : List Char :=
  if cs.getLast? = some '\n' then cs.dropLast else cs

/-- Whether all of a text is an identifier. -/
def isIdentifierList : List Char → Bool
  | [] => false
  | c :: cs => startsIdentifier c && cs.all continuesIdentifier

/-- Whether a text is an identifier, up to a line break at its end. -/
def isIdentifier (s : String) : Bool := isIdentifierList (withoutFinalBreak s.toList)

/-- The check applied to names: an absent or empty one passes only if that is allowed. -/
def identifierPasses (s : Option String) (allowEmpty : Bool) : Bool :=
  match s with
  | none => allowEmpty
  | some s => if s.isEmpty then allowEmpty else isIdentifier s

end SqlDesk.Text
