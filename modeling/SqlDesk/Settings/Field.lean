import SqlDesk.Error
import SqlDesk.Text.FilePath
import SqlDesk.Text.Numeral
import SqlDesk.Text.Utf8
import SqlDesk.Value.Number

/-!
# Reading the fields of settings

Settings come as loose values: a number may be written as a text, a truth value as a word. Each
reader here gives the value of a field, or the issue that keeps the value from being one.
-/

namespace SqlDesk.Settings

open Number Text

/-- The outcome of reading a value for a field. -/
abbrev Reading (α : Type) := Except (List Issue) α

/-- An issue of the value itself. -/
def refuse {α : Type} (kind : IssueKind) : Reading α := .error [⟨[], kind⟩]

/-- A text, or bytes that encode one. -/
def readText : Value → Reading String
  | .text s => .ok s
  | .bytes bs =>
    match decode bs with
    | .ok s => .ok s
    | .error _ => refuse .textEncoding
  | _ => refuse .text

/-- A value that may be missing. -/
def readOptional {α : Type} (read : Value → Reading α) : Value → Reading (Option α)
  | .null => .ok none
  | v => some <$> read v

/-- White space around a number; the separators that end records are not among it. -/
def isMargin (c : Char) : Bool := isBlank c && !(0x1C ≤ c.toNat && c.toNat ≤ 0x1F)

/-- A text without the white space around it. -/
def stripMargins (cs : List Char) : List Char :=
  ((cs.dropWhile isMargin).reverse.dropWhile isMargin).reverse

/-- A number without a fraction that has only zeros. -/
def dropZeroFraction (cs : List Char) : List Char :=
  match cs.dropWhile (· != '.') with
  | _ :: zeros => if zeros.all (· == '0') then cs.takeWhile (· != '.') else cs
  | [] => cs

/-- An integer in text: ASCII digits with single underscores between them, a sign before and zeros
behind a point after them. A text that is longer than any numeral is not looked at. -/
def integerOfText (cs : List Char) : Reading Int :=
  let cs := stripMargins cs
  if maxDigits < cs.length then refuse .integerSize
  else
    let (neg, body) := spanSign cs
    if body.all (·.toNat < 128) then
      match joinedDigits false (dropZeroFraction body) with
      | some ds => .ok (signedInt neg (digitsValue ds))
      | none => refuse .integerText
    else refuse .integerText

/-- An integral floating point number that a machine word holds. -/
def integerOfFloat (x : Binary64) : Reading Int :=
  match x.truncate? with
  | none => refuse .integerFinite
  | some n =>
    if !x.isIntegral then refuse .integerFraction
    else if -2 ^ 63 ≤ n ∧ n < 2 ^ 63 then .ok n
    else refuse .integerSize

def readInteger : Value → Reading Int
  | .int n => .ok n
  | .bool b => .ok (if b then 1 else 0)
  | .float x => integerOfFloat x
  | .decimal d =>
    match d.integer?, d.truncate? with
    | some n, _ => .ok n
    | none, some _ => refuse .integerFraction
    | none, none => refuse .integerFinite
  | .text s => integerOfText s.toList
  | .bytes bs =>
    match decode bs with
    | .ok s => integerOfText s.toList
    | .error _ => refuse .integerText
  | _ => refuse .integer

/-- An integer above a bound. -/
def readAbove (bound : Int) (v : Value) : Reading Int := do
  let n ← readInteger v
  if bound < n then return n else refuse .aboveBound

/-- An integer that is not below a bound. -/
def readAtLeast (bound : Int) (v : Value) : Reading Int := do
  let n ← readInteger v
  if bound ≤ n then return n else refuse .atLeastBound

def trueWords : List String := ["1", "on", "t", "true", "y", "yes"]

def falseWords : List String := ["0", "off", "f", "false", "n", "no"]

/-- A truth value in text; the case of ASCII letters does not count. -/
def truthOfText (s : String) : Reading Bool :=
  let word := String.ofList (s.toList.map Char.toLower)
  if trueWords.contains word then .ok true
  else if falseWords.contains word then .ok false
  else refuse .truthText

def truthOfInteger (n : Int) : Reading Bool :=
  if n = 0 then .ok false else if n = 1 then .ok true else refuse .truthText

def truthOfFloat (x : Binary64) : Reading Bool :=
  match integerOfFloat x with
  | .ok n => truthOfInteger n
  | .error _ => refuse .truth

def readTruth : Value → Reading Bool
  | .bool b => .ok b
  | .text s => truthOfText s
  | .bytes bs =>
    match decode bs with
    | .ok s => truthOfText s
    | .error _ => refuse .truthText
  | .int n => if -2 ^ 63 ≤ n ∧ n < 2 ^ 63 then truthOfInteger n else refuse .truth
  | .float x => truthOfFloat x
  | .decimal d => truthOfFloat d.toBinary64
  | _ => refuse .truth

/-- Texts one by one; all that are none are reported, at their positions. -/
def readTexts : Nat → List Value → Reading (List String)
  | _, [] => .ok []
  | n, v :: vs =>
    match readText v, readTexts (n + 1) vs with
    | .ok s, .ok ss => .ok (s :: ss)
    | .ok _, .error issues => .error issues
    | .error issues, .ok _ => .error (issues.map (·.within (toString n)))
    | .error issues, .error more => .error (issues.map (·.within (toString n)) ++ more)

/-- A list of texts. A single text stands for the list of it, an empty one for the empty list. -/
def readPatterns : Value → Reading (List String)
  | .text s => .ok (if s.isEmpty then [] else [s])
  | .list vs => readTexts 0 vs
  | _ => refuse .list

/-- A file path, in its normal form. -/
def readPath (v : Value) : Reading String :=
  match readText v with
  | .ok s => .ok (normalPath s)
  | .error _ => refuse .path

end SqlDesk.Settings
