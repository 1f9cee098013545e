import SqlDesk.Log.Factory

/-!
# A factory at work

A factory and the process that it serves go through requests one after the other: to configure the
outputs, to hand out loggers and to shut down. A logger is fetched from those that were made or made
afresh, once the outputs are ready.
-/

namespace SqlDesk.Log

/-- A factory and what it shares with its process. -/
structure Works where
  factory : Factory
  system : System

namespace Works

/-- A request of a factory. -/
inductive Request where
  | configure (settings : LogSettings)
  | configureFrom (env : Settings.Environment) (given : Row)
  | logger (name : String) (level : Option String)
  | shutdown

variable (w : Works)

/-- Put the settings of the factory into force. -/
def applied : Works :=
  let (factory, system) := w.factory.applySettings w.system
  { factory, system }

/-- Serve a request. -/
def perform : Request → Except Error (Option Made) × Works
  | .configure settings =>
    let (factory, system) := w.factory.configure settings w.system
    (.ok none, { factory, system })
  | .configureFrom env given =>
    match w.factory.configureFrom env given w.system with
    | .error e => (.error e, w)
    | .ok (factory, system) => (.ok none, { factory, system })
  | .logger name level =>
    let (r, factory, system) := w.factory.getLogger name level w.system
    (some <$> r, { factory, system })
  | .shutdown =>
    let (factory, system) := w.factory.shutdown w.system
    (.ok none, { factory, system })

/-- Serve requests one after the other. -/
def run (rs : List Request) : Works := rs.foldl (fun w r => (w.perform r).2) w

theorem run_concat (rs : List Request) (r : Request) :
    w.run (rs ++ [r]) = ((w.run rs).perform r).2 := by
  unfold run
  rw [List.foldl_append]
  rfl

/-! ## Configuring -/

theorem perform_configure (settings : LogSettings) :
    w.perform (.configure settings) =
      (.ok none, applied { w with factory := { w.factory with settings } }) := rfl

variable {env : Settings.Environment} {given : Row}

theorem perform_configureFrom_of_read {settings : LogSettings}
    (h : LogSettings.model.read env (.map given) = .ok settings) :
    w.perform (.configureFrom env given) = w.perform (.configure settings) := by
  unfold perform Factory.configureFrom
  dsimp only
  rw [h]

/-- Loose values from which no settings can be read are refused. -/
theorem perform_configureFrom_of_unread {e : Error}
    (h : LogSettings.model.read env (.map given) = .error e) :
    ∃ e', w.perform (.configureFrom env given) = (.error e', w) := by
  unfold perform Factory.configureFrom
  dsimp only
  rw [h]
  cases e <;> exact ⟨_, rfl⟩

/-! ## Loggers -/

/-- The first logger needs the outputs to be configured before. -/
def unready : Bool := !w.factory.initialized && w.system.pipeline == .unset

/-- Configure the outputs if a logger needs that. -/
def readied : Works := if w.unready then w.applied else w

/-- A logger and a level that were made before, or that are made now. -/
def fetched (name : String) (level : Option String) : Except Error Made × Works :=
  match Assoc.get? w.factory.loggers (Factory.keyOf name level) with
  | some made => (.ok made, w)
  | none =>
    match w.system.levels.makeLogger name level with
    | .error e => (.error e, w)
    | .ok (_, levels) =>
      let made : Made := { id := w.factory.made, name }
      (.ok made,
        { factory := { w.factory with
            loggers := Assoc.put w.factory.loggers (Factory.keyOf name level) made
            made := w.factory.made + 1 }
          system := { w.system with levels } })

theorem perform_logger (name : String) (level : Option String) :
    w.perform (.logger name level) =
      (some <$> (w.readied.fetched name level).1, (w.readied.fetched name level).2) := by
  have hlogger : w.factory.getLogger name level w.system =
      ((w.readied.fetched name level).1, (w.readied.fetched name level).2.factory,
        (w.readied.fetched name level).2.system) := by
    have hready : (!w.factory.initialized && w.system.pipeline == .unset) = w.unready := rfl
    have happlied : w.factory.applySettings w.system = (w.applied.factory, w.applied.system) := rfl
    unfold Factory.getLogger readied fetched
    rw [hready, happlied]
    dsimp only
    cases w.unready with
    | true =>
      rw [if_pos rfl, if_pos rfl]
      rcases Assoc.get? w.applied.factory.loggers (Factory.keyOf name level) with _ | made
      · rcases w.applied.system.levels.makeLogger name level with e | ⟨l, levels⟩ <;> rfl
      · rfl
    | false =>
      rw [if_neg Bool.false_ne_true, if_neg Bool.false_ne_true]
      rcases Assoc.get? w.factory.loggers (Factory.keyOf name level) with _ | made
      · rcases w.system.levels.makeLogger name level with e | ⟨l, levels⟩ <;> rfl
      · rfl
  rw [perform, hlogger]

/-- A logger that is fetched leaves the outputs alone. -/
theorem fetched_eq (name : String) (level : Option String) :
    ∃ loggers made levels, (w.fetched name level).2 =
      { factory := { w.factory with loggers, made }, system := { w.system with levels } } := by
  unfold fetched
  split
  · exact ⟨_, _, _, rfl⟩
  · split
    · exact ⟨_, _, _, rfl⟩
    · exact ⟨_, _, _, rfl⟩

end Works

end SqlDesk.Log
