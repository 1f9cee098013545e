import SqlDesk.Fault
import SqlDesk.Text.Quoted

/-!
# The wording of faults
-/

namespace SqlDesk.Fault

open Text

/-- The hexadecimal digits of a byte. -/
def hexByte (b : UInt8) : String := String.ofList (hexFixed 2 b.toNat)

/-- Where a malformed sequence lies: its byte if it is one, else its first and last positions. -/
def extent (e : Utf8Error) : String :=
  if e.length = 1 then "byte 0x" ++ hexByte e.first ++ " in position " ++ toString e.position
  else "bytes in position " ++ toString e.position ++ "-" ++ toString (e.position + e.length - 1)

/-- The message of a fault; a long text is cut off. -/
def message : Fault → String
  | .notAnInteger t =>
    "invalid literal for int() with base 10: " ++ String.ofList ((quoted t).toList.take 200)
  | .numeralTooLong n =>
    "Exceeds the limit (4300 digits) for integer string conversion: value has " ++ toString n ++
      " digits; use sys.set_int_max_str_digits() to increase the limit"
  | .infiniteDecimal => "cannot convert Infinity to integer"
  | .infiniteFloat => "cannot convert float infinity to integer"
  | .noIntegerPart => "cannot convert NaN to integer"
  | .integerTooLarge => "int too large to convert to float"
  | .undefinedDecimal => "[<class 'decimal.InvalidOperation'>]"
  | .unfitOperands => "unsupported operands"
  | .unknownMember => "no such member"
  | .undecodable e => "'utf-8' codec can't decode " ++ extent e ++ ": " ++ e.issue.reason
  | .columnOutOfRange => "tuple index out of range"
  | .noSuchColumn name => quoted name ++ " is not in list"
  | .noSuchKey shown => shown

end SqlDesk.Fault
