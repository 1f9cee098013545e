import SqlDesk.Value.Show
import SqlDesk.Fault

/-!
# Session cache

Facts about the logged in user's server, kept in a mapping that the caller's session owns. Under one
root key there is a mapping from scopes to entries; a scope is made of the names of the server and
the user. Reading creates nothing; a root or a scope that is null counts as missing.
-/

namespace SqlDesk

namespace Session

/-- The storage of a session. -/
abbrev Storage := Row

/-- The key under which the storage holds the cache. -/
def rootKey : Value := .text "cache"

def scopeOf (server user : String) : String := "server_" ++ server ++ "/" ++ user

/-- A login: the server, by the name that the session has for it, and the user. -/
structure Login where
  server : String := "default"
  user : String := ""
deriving DecidableEq, Repr

def Login.scope (l : Login) : String := scopeOf l.server l.user

/-- A value, unless it is missing or null. -/
def present : Option Value → Option Value
  | some .null | none => none
  | some v => some v

def asMap : Value → Except Fault Row
  | .map es => .ok es
  | _ => .error .unknownMember

/-- A value that takes an entry under a key. -/
def assign (target : Value) (key value : Value) : Except Fault Value :=
  match target with
  | .map es => if key.isKey then .ok (.map (Assoc.put es key value)) else .error .unfitOperands
  | _ => .error .unfitOperands

/-- The entries of a scope, if there are any. -/
def entries (st : Storage) (scope : String) : Except Fault (Option Value) :=
  match present (Assoc.get? st rootKey) with
  | none => .ok none
  | some root => do
    let scopes ← asMap root
    return present (Assoc.get? scopes (.text scope))

/-- Whether a key is in a collection of entries. -/
def holds (key : Value) : Value → Except Fault Bool
  | .map es => if key.isKey then .ok (Assoc.has es key) else .error .unfitOperands
  | .list vs => .ok (vs.any (· == key))
  | .text s =>
    match key with
    | .text k => .ok (Text.contains s k)
    | _ => .error .unfitOperands
  | _ => .error .unfitOperands

def has (st : Storage) (scope : String) (key : Value) : Except Fault Bool := do
  match ← entries st scope with
  | none => return false
  | some es => holds key es

/-- The value that a scope holds under a key, if it holds one. -/
def lookup (st : Storage) (scope : String) (key : Value) : Except Fault (Option Value) := do
  match ← entries st scope with
  | none => return none
  | some es => do
    let es ← asMap es
    if key.isKey then return Assoc.get? es key else throw .unfitOperands

/-- The value that a scope holds under a key, or a default. -/
def get (st : Storage) (scope : String) (key : Value) (default : Value := .null) :
    Except Fault Value := do
  return (← lookup st scope key).getD default

/-- The storage with a place for the entries of a scope, and that place. -/
def prepare (st : Storage) (scope : String) : Storage × Except Fault Value :=
  let (st, root) := match present (Assoc.get? st rootKey) with
    | some root => (st, root)
    | none => (Assoc.put st rootKey (.map []), .map [])
  match asMap root with
  | .error e => (st, .error e)
  | .ok scopes =>
    match present (Assoc.get? scopes (.text scope)) with
    | some es => (st, .ok es)
    | none =>
      (Assoc.put st rootKey (.map (Assoc.put scopes (.text scope) (.map []))), .ok (.map []))

/-- Replace the entries of a scope that has a place. -/
def replace (st : Storage) (scope : String) (es : Value) : Storage :=
  match Assoc.get? st rootKey with
  | some (.map scopes) => Assoc.put st rootKey (.map (Assoc.put scopes (.text scope) es))
  | _ => st

def set (st : Storage) (scope : String) (key value : Value) : Storage × Except Fault Unit :=
  match prepare st scope with
  | (st, .error e) => (st, .error e)
  | (st, .ok es) =>
    match assign es key value with
    | .error e => (st, .error e)
    | .ok es => (replace st scope es, .ok ())

/-- Take a key out of a collection; a missing one is no failure. -/
def takeOut (key : Value) : Value → Except Fault Value
  | .map es =>
    if es.isEmpty || key.isKey then .ok (.map (Assoc.erase es key)) else .error .unfitOperands
  | .list _ => .error .unfitOperands
  | _ => .error .unknownMember

def remove (st : Storage) (scope : String) (key : Value) : Storage × Except Fault Unit :=
  match entries st scope with
  | .error e => (st, .error e)
  | .ok none => (st, .ok ())
  | .ok (some es) =>
    match takeOut key es with
    | .error e => (st, .error e)
    | .ok es => (replace st scope es, .ok ())

def clear (st : Storage) (scope : String) : Storage × Except Fault Unit :=
  match present (Assoc.get? st rootKey) with
  | none => (st, .ok ())
  | some root =>
    match takeOut (.text scope) root with
    | .error e => (st, .error e)
    | .ok root => (Assoc.put st rootKey root, .ok ())

/-- A short description of the cache of a scope. -/
def describe (scope : String) : String := "SessionCache(scope=" ++ Text.quoted scope ++ ")"

end Session

end SqlDesk
