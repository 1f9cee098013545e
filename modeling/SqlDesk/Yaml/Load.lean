import SqlDesk.Number.DecimalText
import SqlDesk.Value.Show
import SqlDesk.Yaml.Document

/-!
# From nodes to values

The value of a node is made by the rule of its tag. Only the standard types have a rule; a node that
is of the wrong kind for its tag, a key that no mapping can hold and a merge of something else than
mappings are errors of construction.
-/

namespace SqlDesk.Yaml

open Number

/-- A node that no value can be made of. -/
def unmade {α : Type} : Except Error α := .error (.document .construction)

/-- An error in the text of a scalar. -/
def badText {α : Type} (message : String) : Except Error α := .error (.raised "ValueError" message)

/-- The text of a scalar, or of the default entry of a mapping. -/
def textOf : Nat → Node → Except Error String
  | 0, _ => unmade
  | _, .scalar _ text => .ok text
  | _, .sequence .. => unmade
  | fuel + 1, .mapping _ es =>
    match es.find? fun e => match e.1 with
        | .scalar tag _ | .sequence tag _ | .mapping tag _ => tag == standard "value" with
    | some e => textOf fuel e.2
    | none => unmade

def truthWords : List (String × Bool) :=
  [("yes", true), ("no", false), ("true", true), ("false", false), ("on", true), ("off", false)]

def truthOf (text : String) : Except Error Value :=
  let word := String.ofList (text.toList.map Char.toLower)
  match truthWords.lookup word with
  | some b => .ok (.bool b)
  | none => .error (.fault (.noSuchKey (Text.quoted word)))

/-- A text without underscores. -/
def withoutJoins (text : String) : List Char := text.toList.filter (· != '_')

/-- The number that digits denote in a base other than ten. -/
def basedOf (base : Nat) (cs : List Char) : Except Error Nat :=
  if !cs.isEmpty && cs.all fun c => isHex c && digitOf c < base then .ok (numberIn base cs)
  else badText ("invalid literal for int() with base " ++ toString base ++ ": " ++
    Text.quoted (String.ofList cs))

/-- The integer that a text denotes in base ten. -/
def wholeOf (cs : List Char) : Except Error Int :=
  let (neg, ds) := Text.spanSign (Text.strip cs)
  if !ds.isEmpty && ds.all Text.isDigit then
    Error.ofFault ((fun n => Text.signedInt neg n) <$> Text.readDigits ds)
  else .error (.fault (.notAnInteger (String.ofList cs)))

/-- A text in base sixty as the parts between its colons. -/
def sixtiethsOf (cs : List Char) : List (List Char) := cs.splitOn ':'

/-- The integer that an unsigned text denotes. -/
def naturalOf (cs : List Char) : Except Error Int :=
  match cs with
  | ['0'] => .ok 0
  | '0' :: 'b' :: ds => Int.ofNat <$> basedOf 2 ds
  | '0' :: 'x' :: ds => Int.ofNat <$> basedOf 16 ds
  | '0' :: _ => Int.ofNat <$> basedOf 8 cs
  | _ =>
    if cs.contains ':' then do
      let parts ← (sixtiethsOf cs).mapM wholeOf
      return parts.foldl (fun n d => 60 * n + d) 0
    else wholeOf cs

def integerOf (text : String) : Except Error Value :=
  match withoutJoins text with
  | [] => .error (.raised "IndexError" "string index out of range")
  | '-' :: cs => (fun n => .int (-n)) <$> naturalOf cs
  | '+' :: cs => .int <$> naturalOf cs
  | cs => .int <$> naturalOf cs

/-- The floating point number that a text denotes. -/
def floatingOf (cs : List Char) : Except Error Binary64 :=
  match Decimal.ofText? (String.ofList cs) with
  | some d => .ok d.toBinary64
  | none => badText ("could not convert string to float: " ++ Text.quoted (String.ofList cs))

/-- The sum of parts in base sixty, the last of which counts one. -/
def sumOfSixtieths : Nat → Binary64 → List Binary64 → Binary64
  | _, total, [] => total
  | weight, total, d :: ds => sumOfSixtieths (60 * weight) (total.add (d.scale weight)) ds

/-- The floating point number that an unsigned text denotes. -/
def magnitudeOf (cs : List Char) : Except Error Binary64 :=
  if cs = ".inf".toList then .ok (.infinity false)
  else if cs = ".nan".toList then .ok .nan
  else if cs.contains ':' then do
    let parts ← (sixtiethsOf cs).mapM floatingOf
    return sumOfSixtieths 1 (.ofInt 0) parts.reverse
  else floatingOf cs

def floatOf (text : String) : Except Error Value :=
  match (withoutJoins text).map Char.toLower with
  | [] => .error (.raised "IndexError" "string index out of range")
  | '-' :: cs => (fun x => .float x.neg) <$> magnitudeOf cs
  | '+' :: cs => .float <$> magnitudeOf cs
  | cs => .float <$> magnitudeOf cs

/-- The number of days of a month. -/
def daysOf (year month : Nat) : Nat :=
  if month = 2 then if year % 4 = 0 ∧ (year % 100 ≠ 0 ∨ year % 400 = 0) then 29 else 28
  else if month = 4 ∨ month = 6 ∨ month = 9 ∨ month = 11 then 30 else 31

/-- A number below a bound. -/
def below (what : String) (bound : Nat) (n : Nat) : Except Error Unit :=
  if n < bound then .ok () else badText (what ++ " must be in 0.." ++ toString (bound - 1))

/-- Numbers as the arguments of a call are shown. -/
def shownCall (name : String) (ns : List Nat) : String :=
  name ++ "(" ++ ", ".intercalate (ns.map toString) ++ ")"

/-- A day, or a day with a time. -/
def momentOf (text : String) : Except Error Value :=
  match momentOf? text.toList with
  | none => .error (.fault .unknownMember)
  | some m => do
    let year := numberIn 10 m.year
    let month := numberIn 10 m.month
    let day := numberIn 10 m.day
    let time := m.time.map fun t => (numberIn 10 t.1, numberIn 10 t.2.1, numberIn 10 t.2.2)
    if year = 0 then badText "year 0 is out of range"
    if month = 0 ∨ 12 < month then badText "month must be in 1..12"
    if day = 0 ∨ daysOf year month < day then badText "day is out of range for month"
    match time with
    | none => return .other (shownCall "datetime.date" [year, month, day])
    | some (hour, minute, second) =>
      below "hour" 24 hour
      below "minute" 60 minute
      below "second" 60 second
      return .other (shownCall "datetime.datetime" [year, month, day, hour, minute, second])

/-- The value of a character in base 64. -/
def sixtyFour? (c : Char) : Option Nat :=
  if 'A' ≤ c ∧ c ≤ 'Z' then some (c.toNat - 65)
  else if 'a' ≤ c ∧ c ≤ 'z' then some (c.toNat - 71)
  else if c.isDigit then some (c.toNat + 4)
  else if c = '+' then some 62
  else if c = '/' then some 63
  else none

/-- The bytes of a text in base 64, of which other characters are left out. `count` is how many
characters of the current group of four were read and `pending` what they denote; `pads` counts the
equals signs after them. -/
def bytesFrom (count pending pads : Nat) : List Char → Except Error (List UInt8)
  | [] => if count = 0 then .ok [] else unmade
  | c :: cs =>
    if c = '=' then
      if 2 ≤ count ∧ 4 ≤ count + pads + 1 then .ok [] else bytesFrom count pending (pads + 1) cs
    else match sixtyFour? c with
      | none => bytesFrom count pending pads cs
      | some n =>
        match count with
        | 0 => bytesFrom 1 n 0 cs
        | 1 => (UInt8.ofNat (4 * pending + n / 16) :: ·) <$> bytesFrom 2 (n % 16) 0 cs
        | 2 => (UInt8.ofNat (16 * pending + n / 4) :: ·) <$> bytesFrom 3 (n % 4) 0 cs
        | _ => (UInt8.ofNat (64 * pending + n) :: ·) <$> bytesFrom 0 0 0 cs

def bytesOf (text : String) : Except Error Value :=
  if text.toList.all (·.toNat < 128) then .bytes <$> bytesFrom 0 0 0 text.toList else unmade

/-- The value of a scalar of a tag. -/
def scalarOf (tag text : String) : Except Error Value :=
  if tag = standard "null" then .ok .null
  else if tag = standard "bool" then truthOf text
  else if tag = standard "int" then integerOf text
  else if tag = standard "float" then floatOf text
  else if tag = standard "binary" then bytesOf text
  else if tag = standard "timestamp" then momentOf text
  else if tag = standard "str" then .ok (.text text)
  else unmade

/-- Whether the key of an entry has a tag. -/
def keyHasTag (name : String) (e : Node × Node) : Bool :=
  match e.1 with
  | .scalar tag _ => tag == standard name
  | _ => false

/-- The key of an entry, in which an equals sign is a text. -/
def plainKey : Node → Node
  | .scalar tag text => .scalar (if tag = standard "value" then standard "str" else tag) text
  | n => n

mutual

/-- The entries of a mapping behind those of the mappings that it merges. -/
def flatten : Nat → List (Node × Node) → Except Error (List (Node × Node))
  | 0, _ => unmade
  | fuel + 1, es => do
    let merged ← (es.filter (keyHasTag "merge")).mapM fun e => mergedEntries fuel e.2
    let own := es.filter fun e => !keyHasTag "merge" e
    return merged.flatten ++ own.map fun e => (plainKey e.1, e.2)

/-- The entries that a merge brings in: those of a mapping, or of several, the first of which
comes last. -/
def mergedEntries : Nat → Node → Except Error (List (Node × Node))
  | 0, _ => unmade
  | fuel + 1, .mapping _ es => flatten fuel es
  | fuel + 1, .sequence _ ns => do
    let all ← ns.mapM fun n => match n with
      | .mapping _ es => flatten fuel es
      | _ => unmade
    return all.reverse.flatten
  | _, .scalar .. => unmade

end

mutual

/-- The value of a node; `fuel` bounds its depth. -/
def valueOf : Nat → Node → Except Error Value
  | 0, _ => unmade
  | _, .scalar tag text => scalarOf tag text
  | fuel + 1, .sequence tag ns => do
    if tag = standard "seq" then return .list (← ns.mapM (valueOf fuel))
    else if tag = standard "omap" ∨ tag = standard "pairs" then
      return .list (← ns.mapM (pairOf fuel))
    else unmade
  | fuel + 1, .mapping tag es => do
    if tag = standard "map" then return .map (← entriesOf fuel es)
    else if tag = standard "set" then return .list (Assoc.keys (← entriesOf fuel es))
    else scalarOf tag (← textOf fuel (.mapping tag es))

def entriesOf : Nat → List (Node × Node) → Except Error Row
  | 0, _ => unmade
  | fuel + 1, es => do
    let es ← (← flatten fuel es).mapM fun e => do
      let k ← valueOf fuel e.1
      if !k.isKey then unmade
      return (k, ← valueOf fuel e.2)
    return Assoc.ofList es

/-- A pair, written as a mapping of one entry. -/
def pairOf : Nat → Node → Except Error Value
  | fuel + 1, .mapping _ [(k, v)] => do return .list [← valueOf fuel k, ← valueOf fuel v]
  | _, _ => unmade

end

/-- The depth of a node. -/
def depthBound (text : String) : Nat := 4 * text.length + 8

/-- The value that a text denotes, null without a document. -/
def load (text : String) : Except Error Value := do
  match ← nodeOf text with
  | none => return .null
  | some n => valueOf (depthBound text) n

end SqlDesk.Yaml
