import SqlDesk.Text.Quoted

/-!
# Malformed patterns

Why a pattern is refused, where, and how that is worded.
-/

namespace SqlDesk.Pattern

/-- What is wrong with a pattern. -/
inductive Issue where
  | trailingBackslash
  | badEscape (escape : String)
  | incompleteEscape (escape : String)
  | octalTooLarge (escape : String)
  | missing (what : String)
  | unterminatedName (terminator : Char)
  | undefinedCharacter (name : String)
  | openGroupReference
  | lookbehindReference
  | invalidReference (number : Int)
  | unterminatedSet
  | badRange (first last : String)
  | minAboveMax
  | nothingToRepeat
  | multipleRepeat
  | unexpectedEnd
  | badGroupName (name : String)
  | unknownGroupName (name : String)
  | badGroupNumber
  | unknownExtension (text : String)
  | unterminatedComment
  | unterminatedGroup
  | extraBranch
  | lateFlags
  | redefinedGroup (name : String) (number previous : Nat)
  | unknownFlag
  | localeFlag
  | mixedAlphabets
  | globalFlagOn
  | globalFlagOff
  | alphabetOff
  | flagOnAndOff
  | unbalanced
  | variableLookbehind
  | farLookbehind
  | templateRepeat (kind : String)
deriving DecidableEq, Repr

/-- The wording of an issue. -/
def Issue.text : Issue → String
  | .trailingBackslash => "bad escape (end of pattern)"
  | .badEscape e => "bad escape " ++ e
  | .incompleteEscape e => "incomplete escape " ++ e
  | .octalTooLarge e => "octal escape value " ++ e ++ " outside of range 0-0o377"
  | .missing what => "missing " ++ what
  | .unterminatedName c => "missing " ++ c.toString ++ ", unterminated name"
  | .undefinedCharacter name => "undefined character name " ++ Text.quoted name
  | .openGroupReference => "cannot refer to an open group"
  | .lookbehindReference => "cannot refer to group defined in the same lookbehind subpattern"
  | .invalidReference n => "invalid group reference " ++ toString n
  | .unterminatedSet => "unterminated character set"
  | .badRange a b => "bad character range " ++ a ++ "-" ++ b
  | .minAboveMax => "min repeat greater than max repeat"
  | .nothingToRepeat => "nothing to repeat"
  | .multipleRepeat => "multiple repeat"
  | .unexpectedEnd => "unexpected end of pattern"
  | .badGroupName name => "bad character in group name " ++ Text.quoted name
  | .unknownGroupName name => "unknown group name " ++ Text.quoted name
  | .badGroupNumber => "bad group number"
  | .unknownExtension t => "unknown extension ?" ++ t
  | .unterminatedComment => "missing ), unterminated comment"
  | .unterminatedGroup => "missing ), unterminated subpattern"
  | .extraBranch => "conditional backref with more than two branches"
  | .lateFlags => "global flags not at the start of the expression"
  | .redefinedGroup name n m =>
    "redefinition of group name " ++ Text.quoted name ++ " as group " ++ toString n ++
      "; was group " ++ toString m
  | .unknownFlag => "unknown flag"
  | .localeFlag => "bad inline flags: cannot use 'L' flag with a str pattern"
  | .mixedAlphabets => "bad inline flags: flags 'a', 'u' and 'L' are incompatible"
  | .globalFlagOn => "bad inline flags: cannot turn on global flag"
  | .globalFlagOff => "bad inline flags: cannot turn off global flag"
  | .alphabetOff => "bad inline flags: cannot turn off flags 'a', 'u' and 'L'"
  | .flagOnAndOff => "bad inline flags: flag turned on and off"
  | .unbalanced => "unbalanced parenthesis"
  | .variableLookbehind => "look-behind requires fixed-width pattern"
  | .farLookbehind => "looks too much behind"
  | .templateRepeat kind => "internal: unsupported template operator " ++ kind

/-- Why a pattern is refused. -/
inductive PatternError where
  /-- The pattern is malformed, at a position if the issue has one. -/
  | malformed (issue : Issue) (position : Option Nat)
  /-- A repetition count is beyond what can be counted. -/
  | countTooLarge
  /-- Flags that exclude each other are both in force. -/
  | exclusiveFlags
deriving DecidableEq, Repr

/-- The line and column of a position, both counted from one. -/
def lineColumn (pattern : List Char) (position : Nat) : Nat × Nat :=
  let before := pattern.take position
  let line := before.count '\n' + 1
  (line, (before.reverse.takeWhile (· ≠ '\n')).length + 1)

/-- The message for a malformed pattern. -/
def message (pattern : String) (issue : Issue) : Option Nat → String
  | none => issue.text
  | some p =>
    let base := issue.text ++ " at position " ++ toString p
    if '\n' ∈ pattern.toList then
      let (line, column) := lineColumn pattern.toList p
      base ++ " (line " ++ toString line ++ ", column " ++ toString column ++ ")"
    else base

end SqlDesk.Pattern
