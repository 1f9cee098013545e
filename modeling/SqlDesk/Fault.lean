import SqlDesk.Text.Utf8

/-!
# Faults

What can go wrong in a plain computation on server values: a text that is no number, operands that
do not fit an operation, a column that is not there. These are the errors that no operation of the
library raises on purpose; the refusals that it does raise are in `SqlDesk.Refusal`.
-/

namespace SqlDesk

/-- A failed computation, by its cause. -/
inductive Fault where
  /-- A text that should have been a whole number is none. -/
  | notAnInteger (text : String)
  /-- A numeral is longer than the limit on numerals. -/
  | numeralTooLong (digits : Nat)
  /-- The integer part of an infinite decimal was asked for. -/
  | infiniteDecimal
  /-- The integer part of an infinite floating point number was asked for. -/
  | infiniteFloat
  /-- The integer part of something that is not a number was asked for. -/
  | noIntegerPart
  /-- An integer is too large for a floating point number. -/
  | integerTooLarge
  /-- A decimal that is not a number took part in an ordering or a sum. -/
  | undefinedDecimal
  /-- The operands have no such operation between them. -/
  | unfitOperands
  /-- The operand has no such member. -/
  | unknownMember
  /-- Bytes that should have been text are not. -/
  | undecodable (error : Text.Utf8Error)
  /-- A row is too short for a column. -/
  | columnOutOfRange
  /-- A result has no column of this name. -/
  | noSuchColumn (name : String)
  /-- A mapping has no such key, which is shown as in messages. -/
  | noSuchKey (shown : String)
deriving DecidableEq, Repr

end SqlDesk
