import SqlDesk.Desk.Reply

/-!
# Requests of a driver
-/

namespace SqlDesk

/-- What can be asked of a driver directly. A link may be missing. -/
inductive DriverRequest where
  | connect (params : ConnectionParams)
  | selectDb (link : Option Link) (database : String)
  | execute (link : Option Link) (sql : String) (unbuffered : Bool)
  | prepare (link : Option Link) (sql : String)
  | runPrepared (p : Prepared) (params : List Value)
  | escape (link : Option Link) (text : String)
  | errorText (link : Option Link)
  | errorNumber (link : Option Link)
  | affected (link : Option Link)
  | close (link : Option Link)

def demandLink {σ : Type} : Option Link → Action (Journal σ) Link
  | some l => return l
  | none => throw (.fault .unknownMember)

def Driver.perform {σ : Type} (d : Driver σ) : DriverRequest → Action (Journal σ) Reply
  | .connect params => .link <$> d.connect params
  | .selectDb link database => do return .truth (← d.selectDb database (← demandLink link))
  | .execute link sql unbuffered => do
    return .outcome (← d.execute sql (← demandLink link) unbuffered)
  | .prepare link sql => .statement <$> d.prepare link sql
  | .runPrepared p params => .outcome <$> d.runPrepared p params
  | .escape link text => do return .text (d.escape (← get).state link text)
  | .errorText link => do return .text (d.lastError (← get).state link).text
  | .errorNumber link => do return .number (d.lastError (← get).state link).number
  | .affected link => do
    let s := (← get).state
    return .number (link.elim 0 (d.affected s))
  | .close link => do
    d.close (← demandLink link)
    return .nothing

end SqlDesk
