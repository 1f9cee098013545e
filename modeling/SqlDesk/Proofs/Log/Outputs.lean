import Mathlib.Data.List.Induction
import Mathlib.Data.List.Nodup
import SqlDesk.Proofs.Log.Works

/-!
# The outputs of a factory

The root logger holds the outputs of others, then those of the factory. Configuring closes the
factory's outputs and opens those that the settings ask for; shutting down closes them and opens
none; nothing else touches them. Outputs are numbered as they are opened, so an output that was closed
is never in use again.
-/

namespace SqlDesk.Log

/-- What settings ask for: a console, then a file, each with the level of the settings. -/
def wanted (s : LogSettings) : List (Sink × Nat) :=
  let console := if s.consoleOutput then [Sink.console] else []
  let file := s.filePath.toList.map fun path => Sink.file path s.maxFileSize s.backupCount
  (console ++ file).map fun sink => (sink, Factory.levelOf s)

/-- What an output is, without its number. -/
def Handler.kind (h : Handler) : Sink × Nat := (h.sink, h.level)

theorem map_sinksOf (s : LogSettings) :
    (Factory.sinksOf s).map (fun sink => (sink, Factory.levelOf s)) = wanted s := by
  unfold Factory.sinksOf wanted
  cases s.filePath <;> rfl

/-! ## Opening outputs -/

/-- Outputs that are opened are numbered in order, and nothing else changes but the files. -/
theorem System.openSinks_spec (level : Nat) (sinks : List Sink) (sys : System) :
    let (hs, sys') := System.openSinks level sinks sys
    hs.map Handler.kind = sinks.map (fun sink => (sink, level)) ∧
      hs.map Handler.id = List.range' sys.opened sinks.length ∧
      sys'.handlers = sys.handlers ∧ sys'.closed = sys.closed ∧ sys'.levels = sys.levels ∧
      sys'.opened = sys.opened + sinks.length := by
  induction sinks generalizing sys with
  | nil => exact ⟨rfl, rfl, rfl, rfl, rfl, rfl⟩
  | cons sink sinks ih =>
    obtain ⟨hkind, hid, hhandlers, hclosed, hlevels, hopened⟩ := ih (sys.openSink sink level).2
    have hnext : (sys.openSink sink level).2.opened = sys.opened + 1 := rfl
    rw [hnext] at hid hopened
    have hcount : sys.opened + 1 + sinks.length = sys.opened + (sink :: sinks).length := by
      rw [List.length_cons]
      omega
    exact ⟨congrArg _ hkind, congrArg _ hid, hhandlers, hclosed, hlevels, hopened.trans hcount⟩

/-! ## Renewing outputs -/

namespace Works

/-- The outputs of a factory are closed, and others are opened in their place. -/
structure Renewed (kinds : List (Sink × Nat)) (w w' : Works) : Prop where
  own : w'.factory.handlers.map Handler.kind = kinds
  ids : w'.factory.handlers.map Handler.id = List.range' w.system.opened kinds.length
  root : w'.system.handlers =
    (w.system.handlers.filter fun h => !w.factory.handlers.contains h) ++ w'.factory.handlers
  closed : w'.system.closed = w.system.closed ++ w.factory.handlers
  opened : w'.system.opened = w.system.opened + kinds.length

/-- The outputs and their numbers stay as they are. -/
structure SameOutputs (w w' : Works) : Prop where
  own : w'.factory.handlers = w.factory.handlers
  root : w'.system.handlers = w.system.handlers
  closed : w'.system.closed = w.system.closed
  opened : w'.system.opened = w.system.opened

variable (w : Works)

theorem renewed_of_applied : Renewed (wanted w.factory.settings) w w.applied := by
  let settings := w.factory.settings
  let level := Factory.levelOf settings
  let detached := { w.system with levels := w.system.levels.set "root" level }.detach w.factory.handlers
  have hspec := System.openSinks_spec level (Factory.sinksOf settings) detached
  have hlength : (Factory.sinksOf settings).length = (wanted settings).length := by
    rw [← map_sinksOf, List.length_map]
  dsimp only at hspec
  obtain ⟨hkind, hid, hhandlers, hclosed, -, hopened⟩ := hspec
  rw [hlength] at hid hopened
  exact {
    own := hkind.trans (map_sinksOf settings)
    ids := hid
    root := congrArg (· ++ (System.openSinks level (Factory.sinksOf settings) detached).1) hhandlers
    closed := hclosed
    opened := hopened }

theorem renewed_of_configure (settings : LogSettings) :
    Renewed (wanted settings) w (w.perform (.configure settings)).2 := by
  obtain ⟨hown, hids, hroot, hclosed, hopened⟩ :=
    renewed_of_applied { w with factory := { w.factory with settings } }
  rw [perform_configure]
  exact ⟨hown, hids, hroot, hclosed, hopened⟩

theorem renewed_of_shutdown : Renewed [] w (w.perform .shutdown).2 where
  own := rfl
  ids := rfl
  root := (List.append_nil _).symm
  closed := rfl
  opened := rfl

/-! ## The ledger -/

/-- After a start, the root logger holds the outputs of others and then those of the factory, and some
outputs were closed; these and the factory's are numbered in the order in which they were opened. -/
structure Ledger (start : System) (past : List Handler) (w : Works) : Prop where
  root : w.system.handlers = start.handlers ++ w.factory.handlers
  closed : w.system.closed = start.closed ++ past
  ids : (past ++ w.factory.handlers).map Handler.id =
    List.range' start.opened (past ++ w.factory.handlers).length
  opened : w.system.opened = start.opened + (past ++ w.factory.handlers).length

section Ledger

variable {w} {w' : Works} {start : System} {past : List Handler}

theorem Ledger.nodup (h : Ledger start past w) : (past ++ w.factory.handlers).Nodup := by
  refine List.Nodup.of_map Handler.id ?_
  rw [h.ids]
  exact List.nodup_range'

/-- An output that the factory has opened is none of those that were there before. -/
theorem Ledger.id_le (h : Ledger start past w) {o : Handler}
    (ho : o ∈ past ++ w.factory.handlers) : start.opened ≤ o.id := by
  have hid : o.id ∈ (past ++ w.factory.handlers).map Handler.id := List.mem_map_of_mem ho
  rw [h.ids, List.mem_range'_1] at hid
  exact hid.1

theorem Ledger.sameOutputs (h : Ledger start past w) (hsame : SameOutputs w w') :
    Ledger start past w' where
  root := by rw [hsame.root, hsame.own, h.root]
  closed := hsame.closed.trans h.closed
  ids := by rw [hsame.own, h.ids]
  opened := by rw [hsame.own, hsame.opened, h.opened]

theorem Ledger.renewed (h : Ledger start past w)
    (hopened : ∀ o ∈ start.handlers, o.id < start.opened) {kinds : List (Sink × Nat)}
    (hnew : Renewed kinds w w') : Ledger start (past ++ w.factory.handlers) w' := by
  have hlength : w'.factory.handlers.length = kinds.length := by
    rw [← hnew.own, List.length_map]
  refine ⟨?_, ?_, ?_, ?_⟩
  · -- the outputs of others have lower numbers than those of the factory, so they stay
    have hothers : start.handlers.filter (fun o => !w.factory.handlers.contains o) =
        start.handlers := by
      refine List.filter_eq_self.mpr fun o ho => ?_
      have hnot : o ∉ w.factory.handlers := fun hown =>
        absurd (hopened o ho) (Nat.not_lt.mpr (h.id_le (List.mem_append_right _ hown)))
      simpa using hnot
    have hown : w.factory.handlers.filter (fun o => !w.factory.handlers.contains o) = [] := by
      simp
    rw [hnew.root, h.root, List.filter_append, hothers, hown, List.append_nil]
  · rw [hnew.closed, h.closed, List.append_assoc]
  · rw [List.map_append, h.ids, hnew.ids, h.opened, ← hlength, List.range'_append_1,
      ← List.length_append]
  · rw [hnew.opened, h.opened, ← hlength, Nat.add_assoc, ← List.length_append]

end Ledger

/-! ## The plan -/

/-- What is planned by the requests of a factory. -/
structure Plan where
  /-- The first logger is to configure the outputs. -/
  pending : Bool
  /-- The settings that were put into force since the factory was shut down. -/
  inForce : Option LogSettings := none

/-- The kinds of the outputs that are planned. -/
def Plan.kinds (p : Plan) : List (Sink × Nat) := p.inForce.elim [] wanted

/-- What is planned after a request of a factory that was made with settings. -/
def Plan.after (initial : LogSettings) (p : Plan) : Request → Plan
  | .configure settings => { pending := false, inForce := settings }
  | .configureFrom env given =>
    match LogSettings.model.read env (.map given) with
    | .ok settings => { pending := false, inForce := settings }
    | .error _ => p
  | .logger .. => if p.pending then { pending := false, inForce := initial } else p
  | .shutdown => { p with inForce := none }

/-- What is planned after requests of a new factory. -/
def planned (initial : LogSettings) (sys : System) (rs : List Request) : Plan :=
  rs.foldl (Plan.after initial) { pending := sys.pipeline == .unset }

/-- The first logger configures the outputs exactly if that is planned, with the settings with which
the factory was made. -/
structure Follows (initial : LogSettings) (p : Plan) (w : Works) : Prop where
  pending : (w.system.pipeline == .unset) = p.pending
  settings : p.pending = true → w.factory.initialized = false ∧ w.factory.settings = initial

section Plan

variable {w} {initial : LogSettings} {p : Plan}

theorem Follows.unready (h : Follows initial p w) : w.unready = p.pending := by
  unfold Works.unready
  rw [h.pending]
  cases hpending : p.pending with
  | true => rw [(h.settings hpending).1]; rfl
  | false => exact Bool.and_false _

theorem follows_of_configure (settings : LogSettings) (w : Works) :
    Follows initial { pending := false, inForce := settings }
      (w.perform (.configure settings)).2 := ⟨rfl, nofun⟩

/-- A request renews the outputs as planned, or leaves them as they are if the plan does. -/
theorem Follows.perform (h : Follows initial p w) (r : Request) :
    let w' := (w.perform r).2
    Follows initial (p.after initial r) w' ∧
      (Renewed (p.after initial r).kinds w w' ∨
        SameOutputs w w' ∧ (p.after initial r).kinds = p.kinds) := by
  intro w'
  cases r with
  | configure settings =>
    exact ⟨follows_of_configure settings w, .inl (w.renewed_of_configure settings)⟩
  | configureFrom env given =>
    unfold Plan.after
    dsimp only
    cases hread : LogSettings.model.read env (.map given) with
    | ok settings =>
      have hsame : w' = (w.perform (.configure settings)).2 :=
        congrArg Prod.snd (w.perform_configureFrom_of_read hread)
      rw [hsame]
      exact ⟨follows_of_configure settings w, .inl (w.renewed_of_configure settings)⟩
    | error e =>
      obtain ⟨e', hrefused⟩ := w.perform_configureFrom_of_unread hread
      have hsame : w' = w := congrArg Prod.snd hrefused
      rw [hsame]
      exact ⟨h, .inr ⟨⟨rfl, rfl, rfl, rfl⟩, rfl⟩⟩
  -- a request for a logger applies settings that are still pending, and nothing else
  | logger name level =>
    have hfetched : w' = (w.readied.fetched name level).2 :=
      congrArg Prod.snd (w.perform_logger name level)
    obtain ⟨loggers, made, levels, hquiet⟩ := w.readied.fetched_eq name level
    rw [hfetched, hquiet]
    unfold Plan.after readied
    rw [h.unready]
    dsimp only
    cases hpending : p.pending with
    | true =>
      have hrenewed := renewed_of_applied w
      rw [(h.settings hpending).2] at hrenewed
      exact ⟨⟨rfl, nofun⟩, .inl ⟨hrenewed.own, hrenewed.ids, hrenewed.root, hrenewed.closed,
        hrenewed.opened⟩⟩
    | false => exact ⟨⟨h.pending, h.settings⟩, .inr ⟨⟨rfl, rfl, rfl, rfl⟩, rfl⟩⟩
  | shutdown =>
    exact ⟨⟨h.pending, fun hpending => ⟨rfl, (h.settings hpending).2⟩⟩,
      .inl (renewed_of_shutdown w)⟩

end Plan

/-! ## Runs -/

/-- The factory has had an output at some time in a run. -/
def HasHad (start : Works) (rs : List Request) (o : Handler) : Prop :=
  ∃ earlier, earlier <+: rs ∧ o ∈ (start.run earlier).factory.handlers

theorem hasHad_nil (start : Works) (o : Handler) :
    start.HasHad [] o ↔ o ∈ start.factory.handlers := by
  constructor
  · rintro ⟨earlier, hearlier, ho⟩
    obtain rfl := List.prefix_nil.mp hearlier
    exact ho
  · exact fun ho => ⟨[], List.prefix_rfl, ho⟩

theorem hasHad_concat (start : Works) (rs : List Request) (r : Request) (o : Handler) :
    start.HasHad (rs ++ [r]) o ↔
      start.HasHad rs o ∨ o ∈ ((start.run rs).perform r).2.factory.handlers := by
  rw [← run_concat]
  simp only [HasHad, List.prefix_concat_iff]
  constructor
  · rintro ⟨earlier, rfl | hearlier, ho⟩
    · exact .inr ho
    · exact .inl ⟨earlier, hearlier, ho⟩
  · rintro (⟨earlier, hearlier, ho⟩ | ho)
    · exact ⟨earlier, .inr hearlier, ho⟩
    · exact ⟨_, .inl rfl, ho⟩

/-- The outputs are as planned, and the ledger accounts for those that the factory has had. -/
structure Accounted (initial : LogSettings) (sys : System) (p : Plan) (had : Handler → Prop)
    (w : Works) : Prop where
  follows : Follows initial p w
  kinds : w.factory.handlers.map Handler.kind = p.kinds
  ledger : ∃ past, Ledger sys past w ∧ ∀ o, o ∈ past ++ w.factory.handlers ↔ had o

variable {w} in
/-- Each request keeps the account. -/
theorem Accounted.perform {initial : LogSettings} {sys : System} {p : Plan} {had : Handler → Prop}
    (h : Accounted initial sys p had w) (hopened : ∀ o ∈ sys.handlers, o.id < sys.opened)
    (r : Request) :
    let w' := (w.perform r).2
    Accounted initial sys (p.after initial r) (fun o => had o ∨ o ∈ w'.factory.handlers) w' := by
  intro w'
  obtain ⟨past, hledger, hhad⟩ := h.ledger
  obtain ⟨hfollows, hrenewed | ⟨hsame, hkept⟩⟩ := h.follows.perform r
  · refine ⟨hfollows, hrenewed.own, past ++ w.factory.handlers, hledger.renewed hopened hrenewed,
      fun o => ?_⟩
    rw [List.mem_append, hhad]
  · refine ⟨hfollows, ?_, past, hledger.sameOutputs hsame, fun o => ?_⟩
    · rw [hkept, hsame.own, h.kinds]
    · have hown : o ∈ w'.factory.handlers → had o := by
        rw [hsame.own, ← hhad]
        exact List.mem_append_right past
      rw [hsame.own, hhad, ← hsame.own]
      exact (or_iff_left_of_imp hown).symm

theorem accounted_run {sys : System} (hopened : ∀ o ∈ sys.handlers, o.id < sys.opened)
    (initial : LogSettings) (rs : List Request) :
    let start : Works := { factory := { settings := initial }, system := sys }
    Accounted initial sys (planned initial sys rs) (start.HasHad rs) (start.run rs) := by
  intro start
  induction rs using List.reverseRecOn with
  | nil =>
    have hledger : Ledger sys [] start :=
      ⟨(List.append_nil _).symm, (List.append_nil _).symm, rfl, rfl⟩
    exact ⟨⟨rfl, fun _ => ⟨rfl, rfl⟩⟩, rfl, [], hledger, fun o => (start.hasHad_nil o).symm⟩
  | append_singleton rs r ih =>
    have hplan : planned initial sys (rs ++ [r]) = (planned initial sys rs).after initial r := by
      unfold planned
      rw [List.foldl_append]
      rfl
    have hhad : start.HasHad (rs ++ [r]) = _ := funext fun o => propext (start.hasHad_concat rs r o)
    rw [hplan, hhad, run_concat]
    exact ih.perform hopened r

/-- After any requests the root logger holds the outputs of others as they were, and then those of
the factory, which are of the kinds that the settings put into force last ask for, and none once it
is shut down. Every other output that the factory has had was taken from the root logger and closed
once. Loose values act as the settings that can be read from them; if there are none, they are
refused and change nothing. -/
theorem outputs_as_planned (initial : LogSettings) (sys : System)
    (hopened : ∀ o ∈ sys.handlers, o.id < sys.opened) (rs : List Request) :
    let start : Works := { factory := { settings := initial }, system := sys }
    let w := start.run rs
    let own := w.factory.handlers
    w.system.handlers = sys.handlers ++ own ∧
      own.map Handler.kind = (planned initial sys rs).kinds ∧
      (∃ past, w.system.closed = sys.closed ++ past ∧ (past ++ own).Nodup ∧
        (∀ o ∈ past, o ∉ w.system.handlers) ∧
        ∀ o, o ∈ past ++ own ↔ start.HasHad rs o) ∧
      ∀ env given, match LogSettings.model.read env (.map given) with
        | .ok settings => w.perform (.configureFrom env given) = w.perform (.configure settings)
        | .error _ => ∃ e, w.perform (.configureFrom env given) = (.error e, w) := by
  intro start w own
  obtain ⟨-, hkinds, past, hledger, hhad⟩ := accounted_run hopened initial rs
  refine ⟨hledger.root, hkinds, ⟨past, hledger.closed, hledger.nodup, fun o ho hroot => ?_, hhad⟩,
    fun env given => ?_⟩
  · have hfirst := hledger.id_le (List.mem_append_left _ ho)
    rw [hledger.root] at hroot
    rcases List.mem_append.mp hroot with hother | hown
    · exact absurd (hopened o hother) (Nat.not_lt.mpr hfirst)
    · exact List.disjoint_of_nodup_append hledger.nodup ho hown
  · cases hread : LogSettings.model.read env (.map given) with
    | ok settings => exact w.perform_configureFrom_of_read hread
    | error e => exact w.perform_configureFrom_of_unread hread

/-- The first logger opens a console, which a console and a file replace and a file replaces after
these were closed by a shutdown; a level that there is not changes nothing. -/
theorem outputs_of_others_stay :
    let others : List Handler := [⟨1, .console, 0⟩, ⟨0, .file "/var/log/app" 0 0, 30⟩]
    let sys : System := { handlers := others, pipeline := .unset, opened := 2 }
    let rs : List Request :=
      [.logger "a" none, .configureFrom [] [(.text "level", .text "LOUD")],
        .configure { level := "ERROR", filePath := some "/log/desk" }, .shutdown, .logger "a" none,
        .configureFrom [] [(.text "console_output", .bool false),
          (.text "file_path", .text "/log/desk")]]
    let w := run { factory := {}, system := sys } rs
    (∀ o ∈ sys.handlers, o.id < sys.opened) ∧
      ∃ own past, w.system.handlers = others ++ own ∧ w.system.closed = past ∧
        own.map Handler.kind = [(.file "/log/desk" 10485760 5, 20)] ∧
        past.map Handler.kind =
          [(.console, 20), (.console, 40), (.file "/log/desk" 10485760 5, 40)] ∧
        (past ++ own).Nodup := by
  intro others sys rs w
  have hopened : ∀ o ∈ sys.handlers, o.id < sys.opened := by decide
  obtain ⟨hroot, hkinds, ⟨past, hclosed, hnodup, -⟩, -⟩ := outputs_as_planned {} sys hopened rs
  have hplan : (planned {} sys rs).kinds = [(.file "/log/desk" 10485760 5, 20)] := by
    decide +kernel
  have hpast : w.system.closed.map Handler.kind =
      [(.console, 20), (.console, 40), (.file "/log/desk" 10485760 5, 40)] := by decide +kernel
  have hall : w.system.closed = past := hclosed
  rw [hall] at hpast
  exact ⟨hopened, _, past, hroot, hall, hkinds.trans hplan, hpast, hnodup⟩

end Works

end SqlDesk.Log
