import SqlDesk.Text.Class

/-!
# Nodes of a document

A document is a tree of scalars, sequences and mappings, each with a tag that tells its type. The tag
of a plain scalar without one is found from its text.
-/

namespace SqlDesk.Yaml

inductive Node where
  | scalar (tag text : String)
  | sequence (tag : String) (items : List Node)
  | mapping (tag : String) (entries : List (Node × Node))

/-- The tag of a standard type. -/
def standard (name : String) : String := "tag:yaml.org,2002:" ++ name

/-- Whether a text is one of some words. -/
def isOneOf (words : List String) (cs : List Char) : Bool := words.contains (String.ofList cs)

/-- A digit or an underscore. -/
def isDigitOrJoin (c : Char) : Bool := c.isDigit || c == '_'

/-- The text without a sign. -/
def unsigned : List Char → List Char
  | '-' :: cs | '+' :: cs => cs
  | cs => cs

/-- Whether a text is a digit and then digits and underscores; the rest of it. -/
def joined? : List Char → Option (List Char)
  | c :: cs => if c.isDigit then some (cs.dropWhile isDigitOrJoin) else none
  | [] => none

/-- Whether a text is one or two digits of a number below sixty behind a colon; the rest of it. -/
def sixtieth? : List Char → Option (List Char)
  | ':' :: a :: b :: cs =>
    if a.isDigit && a.toNat < '6'.toNat && b.isDigit then some cs
    else if a.isDigit then some (b :: cs) else none
  | [':', a] => if a.isDigit then some [] else none
  | _ => none

/-- The rest of a text behind at least one such part. -/
def sixtieths? : Nat → List Char → Option (List Char)
  | 0, _ => none
  | fuel + 1, cs =>
    (sixtieth? cs).map fun rest => (sixtieths? fuel rest).getD rest

/-- Whether a text is an integer: binary, octal, decimal, hexadecimal or in base sixty. -/
def isIntegerText (text : List Char) : Bool :=
  match unsigned text with
  | '0' :: 'b' :: cs => !cs.isEmpty && cs.all fun c => c == '0' || c == '1' || c == '_'
  | '0' :: 'x' :: cs => !cs.isEmpty && cs.all fun c =>
      isDigitOrJoin c || ('a' ≤ c && c ≤ 'f') || ('A' ≤ c && c ≤ 'F')
  | '0' :: cs => cs.all fun c => ('0' ≤ c && c ≤ '7') || c == '_'
  | cs =>
    match joined? cs with
    | some [] => true
    | some rest => sixtieths? rest.length rest == some []
    | none => false

/-- Whether a text is nothing, or an exponent with a sign. -/
def isExponentText : List Char → Bool
  | [] => true
  | e :: s :: ds => (e == 'e' || e == 'E') && (s == '-' || s == '+') && !ds.isEmpty && ds.all Char.isDigit
  | _ => false

/-- Whether a text is a point and what may stand behind it. -/
def isFractionText : List Char → Bool
  | '.' :: cs => isExponentText (cs.dropWhile isDigitOrJoin)
  | _ => false

/-- Whether a text is a point and underscores and digits. -/
def isPlainFraction : List Char → Bool
  | '.' :: cs => cs.all isDigitOrJoin
  | _ => false

/-- Whether a text is a floating point number, with a point, in base ten or sixty. -/
def isFloatText (text : List Char) : Bool :=
  let cs := unsigned text
  match joined? cs with
  | some rest =>
    isFractionText rest || ((sixtieths? rest.length rest).map isPlainFraction).getD false
  | none =>
    isOneOf [".inf", ".Inf", ".INF"] cs || isOneOf [".nan", ".NaN", ".NAN"] text ||
      match text with
      | '.' :: c :: ds => c.isDigit && isExponentText (ds.dropWhile isDigitOrJoin)
      | _ => false

/-- Digits of a number of so many digits, and the rest. -/
def digits? (least most : Nat) (cs : List Char) : Option (List Char × List Char) :=
  let ds := (cs.take most).takeWhile Char.isDigit
  if least ≤ ds.length then some (ds, cs.drop ds.length) else none

/-- The rest of a text behind a character. -/
def behind? (x : Char) : List Char → Option (List Char)
  | c :: cs => if c = x then some cs else none
  | [] => none

/-- The parts of a moment. -/
structure Moment where
  year : List Char
  month : List Char
  day : List Char
  /-- Hour, minute and second. -/
  time : Option (List Char × List Char × List Char) := none
deriving DecidableEq, Repr

/-- Whether a text is a zone: nothing, or white space and `Z` or an offset. -/
def isZoneText (cs : List Char) : Bool :=
  cs.isEmpty ||
  match cs.dropWhile fun c => c == ' ' || c == '\t' with
  | ['Z'] => true
  | s :: rest =>
    (s == '+' || s == '-') &&
    match digits? 1 2 rest with
    | none => false
    | some (_, []) => true
    | some (_, rest) => (((behind? ':' rest).bind (digits? 2 2)).map fun r => r.2.isEmpty).getD false
  | [] => false

/-- The time of day that a text is, with what may stand behind it. -/
def timeOf? (cs : List Char) : Option (List Char × List Char × List Char) := do
  let (hour, cs) ← digits? 1 2 cs
  let (minute, cs) ← digits? 2 2 (← behind? ':' cs)
  let (second, cs) ← digits? 2 2 (← behind? ':' cs)
  let cs := match cs with
    | '.' :: fraction => fraction.dropWhile Char.isDigit
    | cs => cs
  if isZoneText cs then some (hour, minute, second) else none

/-- The gap between a day and its time: a letter, or white space. -/
def behindDay? : List Char → Option (List Char)
  | 'T' :: cs | 't' :: cs => some cs
  | c :: cs => if c == ' ' || c == '\t' then some (cs.dropWhile fun x => x == ' ' || x == '\t') else none
  | [] => none

/-- The moment that a text is: a day, or a day with a time. Only with a time may month and day have
one digit. -/
def momentOf? (text : List Char) : Option Moment := do
  let (year, cs) ← digits? 4 4 text
  let (month, cs) ← digits? 1 2 (← behind? '-' cs)
  let (day, cs) ← digits? 1 2 (← behind? '-' cs)
  if cs.isEmpty then
    if month.length = 2 ∧ day.length = 2 then some { year, month, day } else none
  else
    let time ← timeOf? (← behindDay? cs)
    return { year, month, day, time := some time }

/-- The tag of a plain scalar. -/
def plainTag (text : String) : String :=
  let cs := text.toList
  standard <|
    if isOneOf ["yes", "Yes", "YES", "no", "No", "NO", "true", "True", "TRUE", "false", "False",
        "FALSE", "on", "On", "ON", "off", "Off", "OFF"] cs then "bool"
    else if isFloatText cs then "float"
    else if isIntegerText cs then "int"
    else if cs = ['<', '<'] then "merge"
    else if isOneOf ["", "~", "null", "Null", "NULL"] cs then "null"
    else if (momentOf? cs).isSome then "timestamp"
    else if cs = ['='] then "value"
    else "str"

/-- A node that is left out. -/
def Node.empty : Node := .scalar (plainTag "") ""

end SqlDesk.Yaml
