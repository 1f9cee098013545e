import SqlDesk.Desk.Statement
import SqlDesk.Sql.Setup
import SqlDesk.Value.Number

/-!
# Facts about the login and the server

Facts that do not change are asked for once. Those that belong to the login are kept in the session,
where other desks of the same scope find them.
-/

namespace SqlDesk.Desk

open Act

variable {σ : Type} (desk : Desk σ)

def putFact (key : String) (v : Value) : Act σ Unit := do
  let (st, r) := Session.set (← desk.storage) desk.scope (.text key) v
  desk.putStorage st
  ofFault r

def userKey : String := "mysql_cur_user"

/-- The login as user and host with an at sign between, or just that if it is unknown. Only a text
from the server is kept. -/
def currentUser : Act σ Value := do
  if ← ofFault (Session.has (← desk.storage) desk.scope (.text userKey)) then
    ofFault (Session.get (← desk.storage) desk.scope (.text userKey))
  else
    let answer ← desk.fetchValue Sql.currentUser
    let user ← match answer with
      | .bytes bs => ofFault ((Text.decode bs).mapError .undecodable |>.map .text)
      | v => pure v
    match user with
    | .text s =>
      desk.putFact userKey (.text s)
      return .text s
    | _ =>
      report .debug "Current user is unavailable"
      return .text "@"

/-- A login split at its first at sign, nothing if it is unknown. -/
def splitLogin (user : Value) : Except Fault (String × String) := do
  if user == .text "@" then return ("", "")
  if !(← Session.holds (.text "@") user) then return ("", "")
  match user with
  | .text s =>
    return (String.ofList (s.toList.takeWhile (· ≠ '@')),
      String.ofList ((s.toList.dropWhile (· ≠ '@')).drop 1))
  | _ => throw .unknownMember

def userAndHost : Act σ (String × String) := do
  match (← memory).userAndHost with
  | some p => return p
  | none =>
    let p ← ofFault (splitLogin (← desk.currentUser))
    remember fun m => { m with userAndHost := some p }
    return p

/-- The key of the fact whether the server is hosted by Amazon. -/
def hostedKey : String := "is_amazon_rds"

/-- The part of the installation's path that servers hosted by Amazon have. -/
def hostedMarker : String := "/rdsdbbin/"

def isHostedPath : Value → Bool
  | .text s => Text.contains s hostedMarker
  | _ => false

def isAmazonHosted : Act σ Value := do
  match ← ofFault (Session.lookup (← desk.storage) desk.scope (.text hostedKey)) with
  | some v => return v
  | none =>
    let hosted := Value.bool (isHostedPath (← desk.fetchValue Sql.baseDirectory))
    desk.putFact hostedKey hosted
    return hosted

/-- The setting that a value denotes: 0, 1 or 2. A truth value denotes none. -/
def caseSetting? (v : Value) : Except Fault (Option Int) := do
  match v, ← v.toNumber with
  | .bool _, _ => return none
  | _, some (.int n) => return if 0 ≤ n ∧ n ≤ 2 then some n else none
  | _, _ => return none

/-- How the server treats the case of table names: 0, 1 or 2, and 0 for any other answer. -/
def lowerCaseNames : Act σ Int := do
  match (← memory).lowerCaseNames with
  | some n => return n
  | none =>
    let v ← desk.fetchValue Sql.lowerCaseNames
    let n ← match ← ofFault (caseSetting? v) with
      | some n => pure n
      | none => do
        report .warning "Unexpected lower_case_table_names, assuming 0" [("value", .text v.shown)]
        pure 0
    remember fun m => { m with lowerCaseNames := some n }
    return n

end SqlDesk.Desk
