import SqlDesk.Driver

/-!
# Client libraries

What a client library for the server's protocol offers. It tells a server error by a list of
arguments, of which the first two are the number and the text as a rule.
-/

namespace SqlDesk

/-- How a call of a client library ends. -/
inductive Response (α : Type) where
  | ok (a : α)
  /-- The library reports a server error. -/
  | refused (args : List Value)
  /-- The call fails for a reason of its own. -/
  | raised (kind text : String)

def errorText : List Value → String
  | [] => ""
  | [v] => v.plain
  | vs => Value.shownTuple vs

/-- A server error from its arguments. Without a number in front its number is zero and its text
that of all arguments. -/
def LinkError.ofArgs : List Value → LinkError
  | .int n :: v :: _ => ⟨n, v.plain⟩
  | .bool b :: v :: _ => ⟨if b then 1 else 0, v.plain⟩
  | vs => ⟨0, errorText vs⟩

/-- Where a server is reached. -/
inductive Address where
  | socket (path : String)
  | tcp (host : String) (port : Int)
deriving DecidableEq, Repr

/-- What a client library is told to open a connection. Every statement is its own transaction. -/
structure ClientOptions where
  user : String
  password : String
  charset : String
  timeout : Int
  address : Address
deriving DecidableEq, Repr

/-- The options for connection parameters: a socket goes before host and port. -/
def ConnectionParams.clientOptions (p : ConnectionParams) : ClientOptions where
  user := p.user
  password := p.password.text
  charset := p.charset
  timeout := p.connectTimeout
  address := match p.socket with
    | some s => if s.isEmpty then .tcp p.host p.port else .socket s
    | none => .tcp p.host p.port

/-- The options by name. -/
def ClientOptions.dump (o : ClientOptions) : Row :=
  [(.text "user", .text o.user),
   (.text "password", .text o.password),
   (.text "charset", .text o.charset),
   (.text "connect_timeout", .int o.timeout),
   (.text "autocommit", .bool true)] ++
  match o.address with
  | .socket s => [(.text "unix_socket", .text s)]
  | .tcp host port => [(.text "host", .text host), (.text "port", .int port)]

inductive ClientAnswer where
  /-- The number of rows concerned, without a result. -/
  | count (n : Int)
  /-- A result: its fields as the protocol tells them if the library shows them, the seven facts
  of every column, and the rows. -/
  | rows (fields : List Row) (columns : List (List Value)) (rows : List (List Value))

structure Client (τ : Type) where
  connect : ClientOptions → τ → Response Link × τ
  selectDb : String → Link → τ → Response Unit × τ
  /-- Run a statement on a link, with parameters to be put in, and read its answer row by row if
  asked to. -/
  execute : String → Option (List Value) → Link → Bool → τ → Response ClientAnswer × τ
  close : Link → τ → Response Unit × τ
  /-- Whether a link is open. -/
  isOpen : τ → Link → Bool
  escape : τ → Option Link → String → String

inductive ClientCall where
  | connect (o : ClientOptions)
  | selectDb (database : String) (link : Link)
  | execute (sql : String) (params : Option (List Value)) (link : Link) (unbuffered : Bool)
  | close (link : Link)

/-- The mark of a field that is never null. -/
def neverNull (flags : Value) : Except Fault Bool :=
  match flags with
  | .int n => .ok (n % 2 == 1)
  | .bool b => .ok b
  | _ => .error .unfitOperands

namespace FieldMeta

/-- A fact that a field must have. -/
def demand (field : Row) (name : String) : Except Fault Value :=
  match field.column? name with
  | some v => .ok v
  | none => .error .unknownMember

/-- A field from its facts by name. -/
def ofField (field : Row) : Except Fault FieldMeta := do
  let name ← demand field "name"
  let typeCode ← demand field "type_code"
  let fixed ← neverNull ((field.column? "flags").getD (.int 0))
  return {
    name := name.plain
    table := ((field.column "table_name").orElse (.text "")).plain
    origin := ((field.column "org_table").orElse (.text "")).plain
    typeCode
    length := field.column "length"
    nullable := !fixed }

/-- A fact of a column by its place. -/
def fact (column : List Value) (i : Nat) : Except Fault Value :=
  match column[i]? with
  | some v => .ok v
  | none => .error .columnOutOfRange

/-- A field from the facts of its column in order. -/
def ofColumn (column : List Value) : Except Fault FieldMeta := do
  let name ← fact column 0
  let typeCode ← fact column 1
  let length ← fact column 3
  return {
    name := name.plain
    typeCode
    length
    nullable := (column[6]?.map Value.truthy).getD true }

/-- The fields of a result: those that the protocol tells, else those of the columns. -/
def ofAnswer (fields : List Row) (columns : List (List Value)) : Except Fault (List FieldMeta) :=
  if fields.isEmpty then columns.mapM ofColumn else fields.mapM ofField

end FieldMeta

end SqlDesk
