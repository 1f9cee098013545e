import SqlDesk.Log.Group
import SqlDesk.Proofs.Act
import SqlDesk.Proofs.Value

/-!
# Nested blocks

A logger has one context, which every block writes into and puts back. What a call finds there is
told by where it stands all the same: by the blocks around it and by the context that its logger was
made with, whatever was asked, bound or raised before.
-/

namespace SqlDesk.Log

/-! ## Programs -/

/-- What is asked of a logger besides entering and leaving blocks. -/
inductive Command where
  | report (severity : Severity) (message : String) (fields : Row)
  | reportError (message : String) (fields : Row)
  | bind (more : Row)
  | context

def Command.request : Command → Request
  | .report severity message fields => .report severity message fields
  | .reportError message fields => .reportError message fields
  | .bind more => .bind more
  | .context => .context

/-- A program over loggers, which are numbered as they are made. -/
inductive Program where
  | done
  | raise (e : Error)
  | command (i : Nat) (c : Command) (next : Program)
  /-- A block of the `i`-th logger around a body. -/
  | block (i : Nat) (more : Row) (body next : Program)
  /-- A body whose error is caught. -/
  | rescue (body next : Program)

/-- Loggers at work, with what each command answered and reported. -/
structure Scene where
  group : Group
  record : List (Value × List Event) := []

namespace Scene

/-- Ask the `i`-th logger, if there is one. -/
def ask (i : Nat) (r : Request) : Action Scene (Value × List Event) := fun s =>
  if i < s.group.loggers.length then
    let (answer, group, events) := s.group.perform i r
    ((·, events) <$> answer, { s with group })
  else (.error (.fault .unknownMember), s)

/-- Ask the `i`-th logger and keep a record of it. -/
def obey (i : Nat) (c : Command) : Action Scene Unit := do
  let answered ← ask i c.request
  modify fun s => { s with record := s.record ++ [answered] }

/-- A block of the `i`-th logger is left however its body ends. -/
def within (i : Nat) (more : Row) (body : Action Scene Unit) : Action Scene Unit := do
  let _ ← ask i (.enter more)
  tryFinally body (ask i .leave)

end Scene

def Program.run : Program → Action Scene Unit
  | .done => pure ()
  | .raise e => throw e
  | .command i c next => do Scene.obey i c; next.run
  | .block i more body next => do Scene.within i more body.run; next.run
  | .rescue body next => do tryCatch body.run fun _ => pure (); next.run

/-! ## What a program means -/

/-- Where a logger stands: the context that it was made with, and the blocks around, the outermost
first. -/
structure Scope where
  initial : Row
  blocks : List Row := []

namespace Scope

variable (s : Scope)

def inside (more : Row) : Scope := { s with blocks := s.blocks ++ [more] }

/-- The initial context, overridden by the blocks in order. -/
def context : Row := s.blocks.foldl Assoc.merge s.initial

/-- The context, overridden by the facts of a call. -/
def carried (fields : Row) : Row := Assoc.merge s.context fields

theorem context_inside (more : Row) : (s.inside more).context = s.carried more :=
  List.foldl_concat ..

end Scope

/-- What comes of a program: how it ends, the loggers that it makes and what is recorded. -/
structure Upshot where
  ending : Except Error Unit := .ok ()
  made : List Scope := []
  record : List (Value × List Event) := []

namespace Upshot

def raised (e : Error) : Upshot := { ending := .error e }

/-- What follows takes place unless there was an error. -/
def andThen (u : Upshot) (next : List Scope → Upshot) : Upshot :=
  match u.ending with
  | .error _ => u
  | .ok _ =>
    let v := next u.made
    { ending := v.ending, made := u.made ++ v.made, record := u.record ++ v.record }

def caught (u : Upshot) : Upshot := { u with ending := .ok () }

end Upshot

/-- What comes of a command for a logger that stands there. -/
def Command.meaning (s : Scope) (c : Command) : Upshot :=
  if !c.request.fits { name := "", context := s.context } then .raised (.fault .unfitOperands)
  else match c with
    | .report severity message fields =>
      { record := [(.null, [{ severity, message, fields := s.carried fields }])] }
    | .reportError message fields =>
      let fields := Assoc.put (s.carried fields) (.text "exc_info") (.bool true)
      { record := [(.null, [{ severity := .error, message, fields }])] }
    | .bind more =>
      { made := [{ initial := s.carried more }], record := [(.map (s.carried more), [])] }
    | .context => { record := [(.map s.context, [])] }

/-- What comes of a program for loggers that stand there. A block is around its body, and around
nothing else. -/
def Program.meaning : Program → List Scope → Upshot
  | .done, _ => {}
  | .raise e, _ => .raised e
  | .command i c next, env =>
    let now := env[i]?.elim (.raised (.fault .unknownMember)) fun s => c.meaning s
    now.andThen fun made => next.meaning (env ++ made)
  | .block i more body next, env =>
    let now := env[i]?.elim (.raised (.fault .unknownMember)) fun s =>
      if fitBeside ["self"] more then body.meaning (env.set i (s.inside more))
      else .raised (.fault .unfitOperands)
    now.andThen fun made => next.meaning (env ++ made)
  | .rescue body next, env =>
    (body.meaning env).caught.andThen fun made => next.meaning (env ++ made)

/-! ## Programs do what they mean -/

/-- A group with more loggers behind its own. -/
def Group.joined (g : Group) (made : List Logger) : Group := { g with loggers := g.loggers ++ made }

/-- Loggers stand in scopes if they have the contexts of these. -/
def Group.StandsIn (g : Group) (env : List Scope) : Prop :=
  g.loggers.map Logger.context = env.map Scope.context

namespace Group.StandsIn

variable {g : Group} {env : List Scope} (h : g.StandsIn env)

include h

theorem joined {made : List Logger} {scopes : List Scope}
    (hmade : made.map Logger.context = scopes.map Scope.context) :
    (g.joined made).StandsIn (env ++ scopes) := by
  unfold StandsIn Group.joined
  rw [List.map_append, List.map_append, h, hmade]

theorem put (i : Nat) {l : Logger} {s : Scope} (hl : l.context = s.context) :
    (g.put i l).StandsIn (env.set i s) := by
  unfold StandsIn Group.put
  rw [List.map_set, List.map_set, h, hl]

/-- There is a logger for each scope, and no other. -/
theorem lookup (i : Nat) : (∃ l s, g.loggers[i]? = some l ∧ env[i]? = some s ∧
    l.context = s.context) ∨ (g.loggers.length ≤ i ∧ env[i]? = none) := by
  have hi := congrArg (·[i]?) h
  simp only [List.getElem?_map] at hi
  rcases hl : g.loggers[i]? with _ | l
  · rw [hl, Option.map_none, eq_comm, Option.map_eq_none_iff] at hi
    exact .inr ⟨List.getElem?_eq_none_iff.mp hl, hi⟩
  · rw [hl, Option.map_some, eq_comm, Option.map_eq_some_iff] at hi
    obtain ⟨s, hs, hcontext⟩ := hi
    exact .inl ⟨l, s, rfl, hs, hcontext.symm⟩

end Group.StandsIn

/-- From these loggers an operation comes to this: the loggers that it makes are behind them, and
they are themselves as they were. -/
def ComesTo (g : Group) (a : Action Scene Unit) (u : Upshot) : Prop :=
  ∀ record, ∃ made : List Logger, made.map Logger.context = u.made.map Scope.context ∧
    a ⟨g, record⟩ = (u.ending, ⟨g.joined made, record ++ u.record⟩)

namespace ComesTo

variable {g : Group} {a b : Action Scene Unit} {u : Upshot}

theorem pure : ComesTo g (pure ()) {} := by
  intro record
  refine ⟨[], rfl, ?_⟩
  simp [Group.joined]
  rfl

theorem raised (e : Error) : ComesTo g (throw e) (.raised e) := by
  intro record
  refine ⟨[], rfl, ?_⟩
  simp [Group.joined, Upshot.raised]
  rfl

theorem andThen {next : List Scope → Upshot} (ha : ComesTo g a u)
    (hb : ∀ made, made.map Logger.context = u.made.map Scope.context →
      ComesTo (g.joined made) b (next u.made)) :
    ComesTo g (do a; b) (u.andThen next) := by
  intro record
  obtain ⟨made, hmade, hrun⟩ := ha record
  rw [Action.run_bind, hrun, Upshot.andThen]
  rcases hending : u.ending with e | _
  · exact ⟨made, hmade, by rw [hending]⟩
  · obtain ⟨more, hmore, hrest⟩ := hb made hmade (record ++ u.record)
    refine ⟨made ++ more, ?_, ?_⟩
    · rw [List.map_append, List.map_append, hmade, hmore]
    · rw [← List.append_assoc]
      simpa [Group.joined] using hrest

theorem caught (ha : ComesTo g a u) :
    ComesTo g (tryCatch a fun _ => Pure.pure ()) u.caught := by
  intro record
  obtain ⟨made, hmade, hrun⟩ := ha record
  refine ⟨made, hmade, ?_⟩
  rw [Action.run_tryCatch, hrun]
  rcases hending : u.ending with e | _ <;> rfl

end ComesTo

/-- What can be given to a call depends on the context of the logger only. -/
theorem Request.fits_congr {l l' : Logger} (h : l.context = l'.context) (r : Request) :
    r.fits l = r.fits l' := by
  cases r <;> simp [Request.fits, Logger.takes, h]

section Asked

variable {g : Group} {i : Nat}

/-- Nothing is asked of a logger that there is not. -/
theorem ComesTo.unknown (hi : g.loggers.length ≤ i) (r : Request)
    (f : Value × List Event → Action Scene Unit) :
    ComesTo g (Scene.ask i r >>= f) (.raised (.fault .unknownMember)) := by
  intro record
  refine ⟨[], rfl, ?_⟩
  rw [Action.run_bind, Scene.ask, if_neg (Nat.not_lt.mpr hi)]
  simp [Group.joined, Upshot.raised]

variable {l : Logger} (hl : g.loggers[i]? = some l)

include hl

theorem Group.perform_of_getElem? (r : Request) :
    g.perform i r =
      if r.fits l then g.carryOut i l r else (.error (.fault .unfitOperands), g, []) := by
  rw [Group.perform, List.getD_eq_getElem?_getD, hl, Option.getD_some]

theorem Scene.ask_of_getElem? (r : Request) (record : List (Value × List Event)) :
    Scene.ask i r ⟨g, record⟩ =
      ((·, (g.perform i r).2.2) <$> (g.perform i r).1, ⟨(g.perform i r).2.1, record⟩) := by
  rw [Scene.ask, if_pos (List.getElem?_eq_some_iff.mp hl).1]

/-- Facts that cannot be given by name are an error. -/
theorem ComesTo.unfit {r : Request} (hfits : r.fits l = false)
    (f : Value × List Event → Action Scene Unit) :
    ComesTo g (Scene.ask i r >>= f) (.raised (.fault .unfitOperands)) := by
  intro record
  refine ⟨[], rfl, ?_⟩
  rw [Action.run_bind, Scene.ask_of_getElem? hl, Group.perform_of_getElem? hl, hfits]
  simp [Group.joined, Upshot.raised]

/-- What is recorded of a command is what its logger answers and reports. -/
theorem Scene.obey_of_fits {c : Command} (hfits : c.request.fits l = true) {answer : Value}
    {g' : Group} {events : List Event}
    (hperform : g.carryOut i l c.request = (.ok answer, g', events))
    (record : List (Value × List Event)) :
    Scene.obey i c ⟨g, record⟩ = (.ok (), ⟨g', record ++ [(answer, events)]⟩) := by
  rw [Scene.obey, Action.run_bind, Scene.ask_of_getElem? hl, Group.perform_of_getElem? hl,
    if_pos hfits, hperform]
  rfl

theorem ComesTo.obey {s : Scope} (hcontext : l.context = s.context) (c : Command) :
    ComesTo g (Scene.obey i c) (c.meaning s) := by
  have hsame : c.request.fits { name := "", context := s.context } = c.request.fits l :=
    Request.fits_congr hcontext.symm c.request
  unfold Command.meaning
  rw [hsame]
  cases hfits : c.request.fits l with
  | false => exact ComesTo.unfit hl hfits _
  | true =>
    intro record
    have hnone : g.joined [] = g := by simp [Group.joined]
    cases c with
    | report severity message fields =>
      refine ⟨[], rfl, ?_⟩
      rw [Scene.obey_of_fits hl hfits rfl, hnone, Logger.report, hcontext]
      rfl
    | reportError message fields =>
      refine ⟨[], rfl, ?_⟩
      rw [Scene.obey_of_fits hl hfits rfl, hnone, Logger.reportError, hcontext]
      rfl
    | bind more =>
      refine ⟨[l.bind more], ?_, ?_⟩
      · rw [Logger.bind, hcontext]
        rfl
      · rw [Scene.obey_of_fits hl hfits rfl, Logger.bind, hcontext]
        rfl
    | context =>
      refine ⟨[], rfl, ?_⟩
      rw [Scene.obey_of_fits hl hfits rfl, hnone, hcontext]
      rfl

/-- A block makes of its body what comes of it inside, and leaves the logger as it was. -/
theorem ComesTo.within {a : Action Scene Unit} {u : Upshot} {more : Row}
    (hfits : fitBeside ["self"] more = true) (ha : ComesTo (g.put i (l.enter more)) a u) :
    ComesTo g (Scene.within i more a) u := by
  intro record
  obtain ⟨made, hmade, hrun⟩ := ha record
  refine ⟨made, hmade, ?_⟩
  obtain ⟨hi, hlogger⟩ := List.getElem?_eq_some_iff.mp hl
  have henter : Scene.ask i (.enter more) ⟨g, record⟩ =
      (.ok (.null, []), ⟨g.put i (l.enter more), record⟩) := by
    rw [Scene.ask_of_getElem? hl, Group.perform_of_getElem? hl, Request.fits, if_pos hfits]
    rfl
  have hlength : i < (g.put i (l.enter more)).loggers.length := by rwa [Group.put, List.length_set]
  have hinside : ((g.put i (l.enter more)).joined made).loggers[i]? = some (l.enter more) := by
    rw [Group.joined, List.getElem?_append_left hlength, Group.put, List.getElem?_set_self hi]
  have hback : ((g.put i (l.enter more)).joined made).put i l = g.joined made := by
    simp only [Group.joined, Group.put] at hlength ⊢
    rw [List.set_append_left _ _ hlength, List.set_set, ← hlogger, List.set_getElem_self]
  have hleave (record : List (Value × List Event)) :
      Scene.ask i .leave ⟨(g.put i (l.enter more)).joined made, record⟩ =
        (.ok (.bool false, []), ⟨g.joined made, record⟩) := by
    rw [Scene.ask_of_getElem? hinside, Group.perform_of_getElem? hinside, ← hback]
    rfl
  rw [Scene.within, Action.run_bind, henter]
  show tryFinally a (Scene.ask i .leave) ⟨g.put i (l.enter more), record⟩ = _
  rw [Action.run_tryFinally, hrun, hleave]

end Asked

/-- A program comes to what it means where its loggers stand. -/
theorem Program.comesTo (p : Program) {g : Group} {env : List Scope} (h : g.StandsIn env) :
    ComesTo g p.run (p.meaning env) := by
  induction p generalizing g env with
  | done => exact .pure
  | raise e => exact .raised e
  | command i c next ih =>
    refine .andThen ?_ fun made hmade => ih (h.joined hmade)
    rcases h.lookup i with ⟨l, s, hl, hs, hcontext⟩ | ⟨hi, hnone⟩
    · rw [hs]
      exact .obey hl hcontext c
    · rw [hnone]
      exact .unknown hi _ _
  | block i more body next ihbody ih =>
    refine .andThen ?_ fun made hmade => ih (h.joined hmade)
    rcases h.lookup i with ⟨l, s, hl, hs, hcontext⟩ | ⟨hi, hnone⟩
    · rw [hs, Option.elim_some]
      by_cases hfits : fitBeside ["self"] more = true
      · -- inside, the logger stands in one more block; the others stand where they did
        have hinside : (l.enter more).context = (s.inside more).context := by
          rw [Scope.context_inside, Scope.carried, ← hcontext]
          rfl
        rw [if_pos hfits]
        exact .within hl hfits (ihbody (h.put i hinside))
      · have hunfit : Request.fits l (.enter more) = false := Bool.eq_false_iff.mpr hfits
        rw [if_neg hfits]
        exact .unfit hl hunfit _
    · rw [hnone]
      exact .unknown hi _ _
  | rescue body next ihbody ih =>
    exact .andThen (ihbody h).caught fun made hmade => ih (h.joined hmade)

/-! ## What overrides what -/

/-- What facts give a name, the last of them that has it. -/
def given (name : String) (facts : Row) : Option Value := Row.column? facts.reverse name

theorem given_cons (name : String) (fact : Value × Value) (facts : Row) :
    given name (fact :: facts) = (given name facts).or (Row.column? [fact] name) := by
  unfold given Row.column? Assoc.get?
  rw [List.reverse_cons, List.find?_append]
  rcases facts.reverse.find? _ with _ | e <;> rfl

theorem column?_put_fact (r : Row) (fact : Value × Value) (name : String) :
    Row.column? (Assoc.put r fact.1 fact.2) name =
      (Row.column? [fact] name).or (r.column? name) := by
  have hsingle : Row.column? [fact] name = if fact.1 == .text name then some fact.2 else none :=
    Assoc.get?_cons fact [] _
  rw [hsingle]
  by_cases h : fact.1 = .text name
  · have hput : Row.column? (Assoc.put r fact.1 fact.2) name = some fact.2 := by
      rw [h]
      exact (Row.column?_put r name name fact.2).trans (if_pos rfl)
    rw [hput, if_pos ((Value.beq_text _ _).mpr h), Option.some_or]
  · rw [Row.column?_put_of_ne h, if_neg (mt (Value.beq_text _ _).mp h), Option.none_or]

theorem column?_merge (r facts : Row) (name : String) :
    Row.column? (Assoc.merge r facts) name = (given name facts).or (r.column? name) := by
  induction facts generalizing r with
  | nil => rfl
  | cons fact facts ih =>
    have hmerge : Assoc.merge r (fact :: facts) =
        Assoc.merge (Assoc.put r fact.1 fact.2) facts := rfl
    rw [hmerge, ih, column?_put_fact, given_cons, Option.or_assoc]

/-- The context gives a name what the innermost block does that gives it anything. -/
theorem Scope.column?_context (s : Scope) (name : String) :
    s.context.column? name =
      (s.blocks.reverse.findSome? (given name)).or (s.initial.column? name) := by
  rcases s with ⟨initial, blocks⟩
  induction blocks generalizing initial with
  | nil => rfl
  | cons more blocks ih =>
    have hinner : Scope.context ⟨initial, more :: blocks⟩ =
        Scope.context ⟨Assoc.merge initial more, blocks⟩ := rfl
    rw [hinner, ih, column?_merge, List.reverse_cons, List.findSome?_append,
      List.findSome?_singleton, Option.or_assoc]

theorem Scope.column?_carried (s : Scope) (facts : Row) (name : String) :
    (s.carried facts).column? name =
      ((facts :: s.blocks.reverse).findSome? (given name)).or (s.initial.column? name) := by
  rw [Scope.carried, column?_merge, Scope.column?_context, List.findSome?_cons]
  rcases given name facts <;> rfl

/-- Each command is answered, and reports, by where it stands: the context is the initial one,
overridden by the blocks around from the outermost to the innermost and then by the facts of the
call. However a program ends, it leaves the loggers that there were as they were, with the contexts
that they had, and those that it has made have the contexts that they were made with. -/
theorem blocks_nest (p : Program) (g : Group) :
    let meaning := p.meaning (g.loggers.map fun l => { initial := l.context })
    let (ending, after) := p.run { group := g }
    ending = meaning.ending ∧ after.record = meaning.record ∧
      (∃ made, after.group = g.joined made ∧
        made.map Logger.context = meaning.made.map Scope.context) ∧
      (∀ i < g.loggers.length, (after.group.perform i .context).1 = (g.perform i .context).1) ∧
      ∀ (s : Scope) facts name, (s.carried facts).column? name =
        ((facts :: s.blocks.reverse).findSome? (given name)).or (s.initial.column? name) := by
  intro meaning
  have hstands : g.StandsIn (g.loggers.map fun l => { initial := l.context }) := by
    unfold Group.StandsIn
    rw [List.map_map]
    rfl
  obtain ⟨made, hmade, hrun⟩ := p.comesTo hstands []
  rw [hrun]
  refine ⟨rfl, rfl, ⟨made, rfl, hmade⟩, fun i hi => ?_, Scope.column?_carried⟩
  have hl : g.loggers[i]? = some g.loggers[i] := List.getElem?_eq_getElem hi
  have hl' : (g.joined made).loggers[i]? = some g.loggers[i] := by
    rw [Group.joined, List.getElem?_append_left hi, hl]
  rw [Group.perform_of_getElem? hl, Group.perform_of_getElem? hl']
  rfl

/-- An error leaves both blocks, and the logger that was bound inside keeps what it had there. -/
example :
    let role (name : String) : Row := [(.text "role", .text name)]
    let inner : Program :=
      .block 0 (role "control") (.command 0 (.bind []) (.raise (.noFile ""))) .done
    let p : Program := .rescue (.block 0 (role "user") inner .done)
      (.command 0 .context (.command 1 .context .done))
    (p.run { group := { loggers := [{ name := "desk" }] } }).2.record.drop 1 =
      [(.map [], []), (.map (role "control"), [])] := by
  cbv

end SqlDesk.Log
