import SqlDesk.Error
import SqlDesk.Settings.Model
import SqlDesk.Value.Number

/-!
# Connection parameters

Everything a driver needs to open one connection.
-/

namespace SqlDesk

open Settings

/-- Whether a number is a port. -/
def isPort (n : Int) : Bool := 1 ≤ n && n ≤ 65535

/-- Whether a value stands for a port. What is no whole number is none; an infinite number is an
error. -/
def portPasses (v : Value) : Except Fault Bool :=
  match v.toInteger with
  | .ok n => .ok (isPort n)
  | .error .infiniteFloat => .error .infiniteFloat
  | .error .infiniteDecimal => .error .infiniteDecimal
  | .error _ => .ok false

structure ConnectionParams where
  host : String := "localhost"
  port : Int := 3306
  socket : Option String := none
  user : String := ""
  password : Secret := ⟨""⟩
  connectTimeout : Int := 10
  charset : String := "utf8mb4"

namespace ConnectionParams

/-- A text that may be missing as a value. -/
def optionalText (s : Option String) : Value := s.elim .null .text

/-- Read a value and write it into a field. -/
def write (field : String) (v : Value) (p : ConnectionParams) : Except Error ConnectionParams :=
  match field with
  | "host" => (fun x => { p with host := x }) <$> (readText v).at field
  | "port" => (fun x => { p with port := x }) <$> (readInteger v).at field
  | "socket" => (fun x => { p with socket := x }) <$> (readOptional readText v).at field
  | "user" => (fun x => { p with user := x }) <$> (readText v).at field
  | "password" => (fun x => { p with password := ⟨x⟩ }) <$> (readText v).at field
  | "connect_timeout" => (fun x => { p with connectTimeout := x }) <$> (readInteger v).at field
  | "charset" => (fun x => { p with charset := x }) <$> (readText v).at field
  | _ => .error (.invalid [⟨[field], .unknownAttribute⟩])

/-- Expand references in all texts that are no secrets. -/
def expand (env : Environment) (p : ConnectionParams) : ConnectionParams :=
  { p with
    host := env.expand p.host
    socket := p.socket.map env.expand
    user := env.expand p.user
    charset := env.expand p.charset }

def dump (masked : Bool) (p : ConnectionParams) : List (String × Dump) :=
  [("host", .value (.text p.host)),
   ("port", .value (.int p.port)),
   ("socket", .value (optionalText p.socket)),
   ("user", .value (.text p.user)),
   ("password", p.password.dump masked),
   ("connect_timeout", .value (.int p.connectTimeout)),
   ("charset", .value (.text p.charset))]

def model : Model ConnectionParams where
  default := {}
  fields := ["host", "port", "socket", "user", "password", "connect_timeout", "charset"]
  write _ := write
  expand := expand
  dump := dump

end ConnectionParams

end SqlDesk
