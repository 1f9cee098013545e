import SqlDesk.Error
import SqlDesk.Log.Event
import SqlDesk.ResultSet
import SqlDesk.Settings.Connection

/-!
# Drivers

A driver opens connections and runs statements on them. It keeps a state of its own, of any type,
and may report events. A call that the server refuses returns; what the server said about it is
asked for afterwards, link by link. Only errors that are not the server's end an operation.
-/

namespace SqlDesk

/-- A connection that a driver has opened, by its name. -/
structure Link where
  name : String
deriving DecidableEq, Repr

/-- A server error: number zero and no text if there is none. -/
structure LinkError where
  number : Int := 0
  text : String := ""
deriving DecidableEq, Repr

/-- What a statement came to. -/
inductive Outcome where
  | rows (r : ResultSet)
  | done
  | failed

/-- An operation on a state. One that fails keeps the state it has reached. -/
abbrev Action (σ α : Type) := ExceptT Error (StateM σ) α

/-- The state of a driver together with the events reported so far. -/
structure Journal (σ : Type) where
  state : σ
  events : List Log.Event := []

def Journal.report {σ : Type} (e : Log.Event) : Action (Journal σ) Unit :=
  modify fun j => { j with events := j.events ++ [e] }

def Journal.update {σ : Type} (f : σ → σ) : Action (Journal σ) Unit :=
  modify fun j => { j with state := f j.state }

/-- A statement bound to a link, with what it last came to. -/
structure Prepared where
  link : Link
  /-- The statement as it is sent. -/
  text : String
  outcome : Outcome := .failed

structure Driver (σ : Type) where
  /-- Open a connection, or none if the server cannot be reached. -/
  connect : ConnectionParams → Action (Journal σ) (Option Link)
  /-- Make a database the selected one. -/
  selectDb : String → Link → Action (Journal σ) Bool
  /-- Run a statement, reading its rows one by one on request. -/
  execute : String → Link → Bool → Action (Journal σ) Outcome
  /-- Bind a statement to a link, if that can be done. -/
  prepare : Option Link → String → Action (Journal σ) (Option Prepared)
  /-- Run a bound statement with parameters. -/
  runPrepared : Prepared → List Value → Action (Journal σ) Outcome
  /-- The last error of a link or, without one, of the attempts to connect. -/
  lastError : σ → Option Link → LinkError
  /-- The number of rows that the last statement of a link concerned. -/
  affected : σ → Link → Int
  /-- A text as it stands between the quotes of a string literal. -/
  escape : σ → Option Link → String → String
  /-- Close a connection. -/
  close : Link → Action (Journal σ) Unit

end SqlDesk
