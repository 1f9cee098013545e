import SqlDesk.Text.Class
import SqlDesk.Text.CaseTable

/-!
# Case of text

Full Unicode lower and upper case. A mapping may lengthen the text, and the capital sigma becomes
a final sigma at the end of a word: after a cased character and before none, case-ignorable
characters not counted.
-/

namespace SqlDesk.Text

/-- The lower case form of a character outside any context. -/
def lowerChar (c : Char) : List Char :=
  let n := c.toNat
  if n < 128 then [c.toLower]
  else match lowerExpansions.lookup n with
    | some ns => ns.map Char.ofNat
    | none => [Char.ofNat ((lowerRuns.findSome? (·.image? n)).getD n)]

def upperChar (c : Char) : List Char :=
  let n := c.toNat
  if n < 128 then [c.toUpper]
  else match upperExpansions.lookup n with
    | some ns => ns.map Char.ofNat
    | none => [Char.ofNat ((upperRuns.findSome? (·.image? n)).getD n)]

/-- The single character lower case form, where one exists. -/
def simpleLower (c : Char) : Char :=
  let n := c.toNat
  if n < 128 then c.toLower
  else if n == 0x130 then 'i'
  else Char.ofNat ((lowerRuns.findSome? (·.image? n)).getD n)

/-- Whether a character has case and is not skipped by the final sigma rule. -/
def isCased (c : Char) : Bool :=
  if c.toNat < 128 then c.isAlpha else wideCased.has c.toNat

/-- Whether the first character that is not case-ignorable is cased. -/
def startsCased (cs : List Char) : Bool :=
  match cs.dropWhile fun c => caseIgnorables.has c.toNat with
  | [] => false
  | c :: _ => isCased c

/-- Lower case of a text of which `before` precedes in reverse order. -/
def lowerFrom (before : List Char) : List Char → List Char
  | [] => []
  | c :: cs =>
    (if c = 'Σ' then
      if startsCased before && !startsCased cs then ['ς'] else ['σ']
     else lowerChar c) ++ lowerFrom (c :: before) cs

def lowerList (cs : List Char) : List Char := lowerFrom [] cs

def lower (s : String) : String := String.ofList (lowerList s.toList)

def upper (s : String) : String := String.ofList (s.toList.flatMap upperChar)

end SqlDesk.Text
