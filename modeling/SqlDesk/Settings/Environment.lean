import SqlDesk.Value

/-!
# Settings and the environment

A text may refer to the environment: `${NAME}` stands for the value of a variable, or for
nothing if there is none, and `${NAME:default}` for the default instead. A value is inserted
as it is, references in it stay.
-/

namespace SqlDesk.Settings

/-- The variables of the environment. -/
abbrev Environment := Assoc String String

/-- What a reference stands for, given the text between its braces. -/
def Environment.resolve (env : Environment) (body : List Char) : String :=
  let name := String.ofList (body.takeWhile (· != ':'))
  let default := String.ofList ((body.dropWhile (· != ':')).drop 1)
  (Assoc.get? env name).getD default

/-- The text between the braces of a reference whose start has been read, and what follows it. -/
def referenceBody (cs : List Char) : Option (List Char × List Char) :=
  let body := cs.takeWhile (· != '\x7d')
  match body, cs.dropWhile (· != '\x7d') with
  | [], _ => none
  | body, _ :: rest => some (body, rest)
  | _, [] => none

/-- Expand the references in a text, from left to right; `fuel` bounds its length. -/
def Environment.expandChars (env : Environment) : Nat → List Char → List Char
  | 0, cs => cs
  | _, [] => []
  | fuel + 1, '$' :: '\x7b' :: cs =>
    match referenceBody cs with
    | some (body, rest) => (env.resolve body).toList ++ expandChars env fuel rest
    | none => '$' :: expandChars env fuel ('\x7b' :: cs)
  | fuel + 1, c :: cs => c :: expandChars env fuel cs

/-- A text with its references expanded. -/
def Environment.expand (env : Environment) (s : String) : String :=
  String.ofList (env.expandChars s.length s.toList)

mutual

/-- A value with the references in its texts expanded, inside lists and mappings too. -/
def Environment.expandValue (env : Environment) : Value → Value
  | .text s => .text (env.expand s)
  | .list vs => .list (expandItems env vs)
  | .map es => .map (expandEntries env es)
  | v => v

def Environment.expandItems (env : Environment) : List Value → List Value
  | [] => []
  | v :: vs => expandValue env v :: expandItems env vs

def Environment.expandEntries (env : Environment) : List (Value × Value) → List (Value × Value)
  | [] => []
  | (k, v) :: es => (k, expandValue env v) :: expandEntries env es

end

end SqlDesk.Settings
