import SqlDesk.Proofs.Desk.Connection
import SqlDesk.Proofs.Desk.Run

/-!
# The character set and the collation of a connection

A desk sets the character set of a fresh connection of the user, once the server was asked for its
version, and the collation when it is asked to. It remembers what the server took last. What it
sends is fit for the version that it knows then: no name that came with `utf8mb4` goes to a server
that does not know it.
-/

namespace SqlDesk

open Act

/-! ## Names for a version -/

/-- A collation of `utf8mb4`. -/
def OfUtf8mb4 (name : String) : Prop := Sql.Opens "utf8mb4_" name

instance (name : String) : Decidable (OfUtf8mb4 name) :=
  inferInstanceAs (Decidable (Sql.Opens "utf8mb4_" name))

theorem resolveCollation_of_old {version : Int} (h : version ≤ 50503) {name : String}
    (hname : OfUtf8mb4 name) :
    resolveCollation name version = "utf8_" ++ String.ofList (name.toList.drop 8) := by
  have hstart : (decide (version ≤ utf8mb4UnknownUntil) &&
      "utf8mb4_".toList.isPrefixOf name.toList) = true := by
    rw [Bool.and_eq_true, decide_eq_true_iff, List.isPrefixOf_iff_prefix]
    exact ⟨h, hname⟩
  simp only [resolveCollation, collationSubstitutions, List.find?_cons, hstart]
  rfl

/-- A name that a server of the version understands stays as it is. -/
theorem resolveCollation_of_understood {version : Int} {name : String}
    (h : version ≤ 50503 → ¬ OfUtf8mb4 name) : resolveCollation name version = name := by
  have hstart : (decide (version ≤ utf8mb4UnknownUntil) &&
      "utf8mb4_".toList.isPrefixOf name.toList) = false := by
    rw [Bool.eq_false_iff, Ne, Bool.and_eq_true, decide_eq_true_iff, List.isPrefixOf_iff_prefix]
    exact fun ⟨hold, hname⟩ => h hold hname
  simp only [resolveCollation, collationSubstitutions, List.find?_cons, hstart]
  rfl

theorem not_ofUtf8mb4_resolveCollation {version : Int} (h : version ≤ 50503) (name : String) :
    ¬ OfUtf8mb4 (resolveCollation name version) := by
  by_cases hname : OfUtf8mb4 name
  · -- the fifth character of the replacement is not that of `utf8mb4_`
    rw [resolveCollation_of_old h hname]
    unfold OfUtf8mb4 Sql.Opens
    rw [String.toList_append]
    intro hopens
    rcases List.prefix_or_prefix_of_prefix hopens (List.prefix_append _ _) with hstart | hstart
    · exact absurd hstart (by decide)
    · exact absurd hstart (by decide)
  · rwa [resolveCollation_of_understood fun _ => hname]

theorem resolveCollation_idempotent (name : String) (version : Int) :
    resolveCollation (resolveCollation name version) version = resolveCollation name version :=
  resolveCollation_of_understood fun h => not_ofUtf8mb4_resolveCollation h name

/-! ## Settings of a connection -/

/-- What a statement sets of a connection: the character set with a collation, or the collation. -/
inductive Setting where
  | names (charset collation : String)
  | only (collation : String)
deriving DecidableEq

namespace Setting

def charset? : Setting → Option String
  | .names charset _ => some charset
  | .only _ => none

def collation : Setting → String
  | .names _ collation | .only collation => collation

def statement (literal : String → String) : Setting → String
  | .names charset collation => Sql.setNames charset collation
  | .only collation => Sql.setCollation (literal collation)

theorem setsCollation_statement (literal : String → String) (x : Setting) :
    Sql.setsCollation (x.statement literal) = true := by
  cases x with
  | names charset collation => exact Sql.setsCollation_setNames charset collation
  | only collation => exact Sql.setsCollation_setCollation _

/-- The setting names `utf8mb4` or one of its collations. -/
def NamesUtf8mb4 (x : Setting) : Prop :=
  x.charset? = some "utf8mb4" ∨ ∃ name ∈ x.collation :: x.charset?.toList, OfUtf8mb4 name

/-- The setting of a fresh connection. -/
def default (version : Int) : Setting :=
  let (charset, collation) := defaultCharset version
  .names charset collation

theorem not_namesUtf8mb4_default {version : Int} (h : version ≤ 50503) :
    ¬ (default version).NamesUtf8mb4 := by
  have hnot : ¬ utf8mb4UnknownUntil < version := Int.not_lt.mpr h
  have hold : default version = .names "utf8" "utf8_general_ci" := by
    unfold default defaultCharset
    rw [if_neg hnot]
  rw [hold]
  unfold NamesUtf8mb4
  decide

theorem not_namesUtf8mb4_only {name : String} (h : ¬ OfUtf8mb4 name) :
    ¬ (only name).NamesUtf8mb4 := by
  simpa [NamesUtf8mb4, charset?, collation] using h

/-- What is known of the character set and the collation after a setting. -/
def onto (x : Setting) (known : String × String) : String × String :=
  (x.charset?.getD known.1, x.collation)

/-- The last settings are known. -/
theorem foldl_onto (xs : List Setting) (known : String × String) :
    xs.foldl (fun known x => x.onto known) known =
      ((xs.filterMap charset?).getLast?.getD known.1,
        (xs.map collation).getLast?.getD known.2) := by
  induction xs generalizing known with
  | nil => rfl
  | cons x xs ih =>
    rw [List.foldl_cons, ih, List.map_cons, List.getLast?_cons]
    cases x with
    | names charset collation =>
      have hcharsets : (names charset collation :: xs).filterMap charset? =
          charset :: xs.filterMap charset? := rfl
      rw [hcharsets, List.getLast?_cons]
      rfl
    | only collation => rfl

end Setting

/-- The character set and the collation that are remembered. -/
def Memory.names (m : Memory) : String × String := (m.charset, m.collation)

/-- Whether a request of the driver is a statement that sets the character set or the collation and
was not handed in. -/
def Call.setsBeside (handed : Option String) (c : Call) : Bool :=
  c.text?.any fun sql => Sql.setsCollation sql && some sql != handed

namespace Desk

variable {σ : Type} (desk : Desk σ)

/-- What a fresh connection is set to, with the state in which it is: after the server was asked for
its version, if nothing was raised. -/
def setsFresh (s : DeskState σ) : Option (Setting × DeskState σ) :=
  match desk.readVersion s with
  | (.ok _, t) => some (.default t.memory.version.number, t)
  | (.error _, _) => none

/-- The state once a link that the driver has given is used for a role. -/
def connected (role : Role) (server : Option ServerSettings) (link : Link) (s : DeskState σ) :
    DeskState σ :=
  (linked role link (desk.attempted role server s)).reporting [desk.greeting role server]

/-- What a request sets of the connection of the user, with the state in which it does. -/
def sets (s : DeskState σ) : Request → Option (Setting × DeskState σ)
  | .setCollation name => some (.only (resolveCollation name s.memory.version.number), s)
  | .postConnect _ => desk.setsFresh s
  | .connect .user server =>
    (desk.answerTo .user server s).toOption.join.bind fun link =>
      desk.setsFresh (desk.connected .user server link s)
  | _ => none

/-- The statement of a setting in a state, if there is a connection for it. -/
def settingCalls (x : Setting × DeskState σ) : List Call :=
  let statement := x.1.statement (desk.literalIn .user x.2)
  ((x.2.memory.linkOf .user).map fun link => .query link statement false).toList

/-- Whether there is a connection for a setting and the server takes it. -/
def takes (x : Setting × DeskState σ) : Bool :=
  (x.2.memory.linkOf .user).any fun link =>
    !fails (desk.outcome (x.1.statement (desk.literalIn .user x.2)) link false x.2).1

/-- The setting that the server takes, if something was set. -/
def taken (x : Option (Setting × DeskState σ)) : Option Setting :=
  x.bind fun x => if desk.takes x then some x.1 else none

/-! ## What requests set -/

/-- From one state to another this is set by statements that were not handed in, and nothing else;
it is remembered if the server takes it. -/
structure Sets (handed : Option String) (x : Option (Setting × DeskState σ)) (s t : DeskState σ) :
    Prop where
  names : t.memory.names = (desk.taken x).elim s.memory.names fun x => x.onto s.memory.names
  calls : ∃ calls, t.world.calls = s.world.calls ++ calls ∧
    calls.filter (Call.setsBeside handed) = x.elim [] desk.settingCalls

variable {desk} {handed : Option String} {x : Option (Setting × DeskState σ)} {s t u : DeskState σ}

theorem Sets.none (hnames : t.memory.names = s.memory.names)
    (hcalls : t.world.calls = s.world.calls) : desk.Sets handed none s t :=
  ⟨hnames, [], hcalls.trans (List.append_nil _).symm, rfl⟩

theorem Sets.after (h : desk.Sets handed x t u) (hbefore : desk.Sets handed .none s t) :
    desk.Sets handed x s u := by
  have hnames : t.memory.names = s.memory.names := hbefore.names
  obtain ⟨calls, hcalls, hfirst⟩ := hbefore.calls
  obtain ⟨calls', hcalls', hthen⟩ := h.calls
  refine ⟨by rw [h.names, hnames], calls ++ calls', ?_, ?_⟩
  · rw [hcalls', hcalls, List.append_assoc]
  · rw [List.filter_append, hfirst, hthen]
    rfl

theorem Sets.andThen (h : desk.Sets handed x s t) (hthen : desk.Sets handed .none t u) :
    desk.Sets handed x s u := by
  have hnames : u.memory.names = t.memory.names := hthen.names
  obtain ⟨calls, hcalls, hfirst⟩ := h.calls
  obtain ⟨calls', hcalls', hlast⟩ := hthen.calls
  refine ⟨by rw [hnames, h.names], calls ++ calls', ?_, ?_⟩
  · rw [hcalls', hcalls, List.append_assoc]
  · rw [List.filter_append, hfirst, hlast]
    exact List.append_nil _

/-- Nothing is set where no statement may set it but one that is handed in, and where what is known
of it may not change. -/
theorem sets_none_steady {l : Licence} (hl : ¬ l.changes .collation)
    (hasks : ∀ {sql role}, l.asks sql role → Sql.setsCollation sql = true → some sql = handed) :
    desk.Steady l (desk.Sets handed .none) where
  refl _ := .none rfl rfl
  trans h h' := h'.after h
  post _ _ := .none rfl rfl
  statement {sql} _ link unbuffered s hask _ := by
    have hcall : Call.setsBeside handed (.query link sql unbuffered) = false := by
      rcases h : Sql.setsCollation sql with _ | _
      · simp [Call.setsBeside, Call.text?, h]
      · simp [Call.setsBeside, Call.text?, ← hasks hask h]
    rw [measured_run]
    exact ⟨rfl, [_], rfl, List.filter_cons_of_neg (by simp [hcall])⟩
  request {c} s hc _ := by
    have hcall : c.setsBeside handed = false := by
      cases c with
      | query => cases hc
      | _ => rfl
    exact ⟨rfl, [c], rfl, List.filter_cons_of_neg (by simp [hcall])⟩
  change s h hpart := by
    cases h with
    | charset | collation => exact absurd hpart hl
    | _ => exact .none rfl rfl
  storage _ _ _ := .none rfl rfl

/-- The licence to do whatever neither sets the character set or the collation nor changes what is
known of them. -/
def Licence.unsetting : Licence where
  asks sql _ := Sql.setsCollation sql = false
  makes _ := True
  changes part := part ≠ .collation

theorem sets_none_of_unsetting : desk.Steady .unsetting (desk.Sets .none .none) :=
  sets_none_steady (fun h => h rfl) fun hask h => absurd (hask.symm.trans h) (by decide)

/-- What is set is the same if something follows that sets nothing. -/
theorem Sets.bind {α β : Type} {a : Act σ α} {f : α → Act σ β}
    (ha : desk.Sets .none x s (a s).2) (hf : ∀ y, Routine desk .unsetting (f y)) :
    desk.Sets .none x s ((a >>= f) s).2 := by
  rw [run_bind]
  rcases hrun : a s with ⟨e | y, t⟩ <;> rw [hrun] at ha
  · exact ha
  · exact ha.andThen ((hf y).moves sets_none_of_unsetting t)

section Asked

variable (hclock : desk.CountsSeconds)

include hclock

/-- A setting is sent as one statement, and remembered if there is a result. -/
theorem sets_of_ask (x : Setting) (s : DeskState σ) {f : Memory → Memory}
    {k : Option ResultSet → Act σ Unit} (hsome : ∀ r, k (some r) = remember f)
    (hf : ∀ m, (f m).names = x.onto m.names)
    (hnone : ∀ t, ∃ events, (k .none t).2 = t.reporting events) :
    desk.Sets .none (some (x, s)) s
      ((desk.ask (x.statement (desk.literalIn .user s)) >>= k) s).2 := by
  have htakes : desk.takes (x, s) = true ↔
      ∃ r, (desk.ask (x.statement (desk.literalIn .user s)) .user s).1 = .ok (some r) := by
    rw [ask_succeeds_iff hclock, takes, Option.any_eq_true]
    simp only [Bool.not_eq_true']
  have hasked := desk.ask_calls (x.statement (desk.literalIn .user s)) .user s
  have hkept := desk.ask_memory (x.statement (desk.literalIn .user s)) .user s
  rw [run_bind]
  rcases hrun : desk.ask (x.statement (desk.literalIn .user s)) .user s with ⟨r, t⟩
  rw [hrun] at htakes hasked hkept
  have hnames : t.memory.names = s.memory.names := by
    rw [hkept]
    rfl
  have hsets {u : DeskState σ} (hcalls : u.world.calls = t.world.calls)
      (hu : u.memory.names = if desk.takes (x, s) then x.onto s.memory.names else s.memory.names) :
      desk.Sets .none (some (x, s)) s u := by
    refine ⟨?_, _, hcalls.trans hasked, ?_⟩
    · rw [hu, taken, Option.bind_some]
      split <;> rfl
    · refine List.filter_eq_self.mpr fun c hc => ?_
      obtain ⟨link, -, rfl⟩ := Option.map_eq_some_iff.mp (Option.mem_toList.mp hc)
      simp [Call.setsBeside, Call.text?, x.setsCollation_statement]
  rcases r with e | _ | r
  · have hnot : ¬ desk.takes (x, s) = true := fun h => nomatch htakes.mp h
    exact hsets rfl (by rw [if_neg hnot, hnames])
  · have hnot : ¬ desk.takes (x, s) = true := fun h => nomatch htakes.mp h
    obtain ⟨events, hreport⟩ := hnone t
    dsimp only
    rw [hreport]
    exact hsets rfl (by rw [if_neg hnot, ← hnames]; rfl)
  · dsimp only
    rw [hsome]
    refine hsets rfl ?_
    rw [if_pos (htakes.mpr ⟨r, rfl⟩), ← hnames]
    exact hf t.memory

theorem setCharset_sets (s : DeskState σ) :
    desk.Sets .none (some (.default s.memory.version.number, s)) s (desk.setCharset s).2 := by
  unfold setCharset
  rw [run_bind, run_memory]
  exact sets_of_ask hclock (.default s.memory.version.number) s (fun _ => rfl) (fun _ => rfl)
    fun _ => ⟨[_], rfl⟩

theorem setCollation_sets (name : String) (s : DeskState σ) :
    desk.Sets .none (some (.only (resolveCollation name s.memory.version.number), s)) s
      (desk.setCollation name s).2 := by
  unfold setCollation
  rw [run_bind, run_memory]
  dsimp only
  rw [run_bind, run_literal]
  exact sets_of_ask hclock (.only (resolveCollation name s.memory.version.number)) s (fun _ => rfl)
    (fun _ => rfl) fun _ => ⟨[_], rfl⟩

theorem postConnect_sets (server : Option ServerSettings) (s : DeskState σ) :
    desk.Sets .none (desk.setsFresh s) s (desk.postConnect server s).2 := by
  have hversion : desk.Sets .none .none s (desk.readVersion s).2 := by
    refine (readVersion_routine (l := .unsetting) ?_ nofun).moves sets_none_of_unsetting s
    show Sql.setsCollation Sql.version = false
    decide
  unfold postConnect setsFresh
  rw [run_bind]
  rcases hrun : desk.readVersion s with ⟨e | _, t⟩ <;> rw [hrun] at hversion
  · exact hversion
  · refine ((setCharset_sets hclock t).bind fun _ => ?_).after hversion
    refine (setLocale_routine fun _ _ => Sql.setsCollation_setLocale _).andThen fun _ => ?_
    refine (setTimeZone_routine (fun _ => Sql.setsCollation_setTimeZone _) _).andThen fun _ => ?_
    exact .remember .forgetDatabases nofun

theorem connect_sets (role : Role) (server : Option ServerSettings) (s : DeskState σ) :
    desk.Sets .none (desk.sets s (.connect role server)) s (desk.connect role server s).2 := by
  have hattempted : desk.Sets .none .none s (desk.attempted role server s) := ⟨rfl, [_], rfl, rfl⟩
  by_cases hconfigured : desk.Unconfigured role server
  · obtain ⟨e, hrun⟩ := desk.connect_of_unconfigured (s := s) hconfigured
    obtain ⟨rfl, -⟩ := hconfigured
    rw [hrun]
    exact .none rfl rfl
  · -- a link is set up only for the user, and only if the driver gave one
    rcases hgiven : (desk.answerTo role server s).toOption.join with _ | link
    · have hnone : desk.sets s (.connect role server) = .none := by
        cases role with
        | user => rw [sets, hgiven, Option.bind_none]
        | control | auxiliary => rfl
      have hunreachable (link : Link) : desk.answerTo role server s ≠ .ok (some link) := by
        intro h
        rw [h] at hgiven
        cases hgiven
      obtain ⟨r, events, hrun⟩ := desk.connect_of_unreachable hconfigured hunreachable
      rw [hnone, hrun]
      exact hattempted.andThen (.none rfl rfl)
    · have hanswer : desk.answerTo role server s = .ok (some link) := by
        rcases hanswer : desk.answerTo role server s with e | _ | l <;> rw [hanswer] at hgiven
        · cases hgiven
        · cases hgiven
        · rw [← hgiven]
          rfl
      have hconnected : desk.Sets .none .none s (desk.connected role server link s) :=
        hattempted.andThen (.none rfl rfl)
      rw [desk.connect_of_reachable hconfigured hanswer]
      cases role with
      | user =>
        have hrun : (desk.setUp .user (server.getD desk.settings.server) link
            (desk.connected .user server link s)).2 =
              (desk.postConnect (some (server.getD desk.settings.server))
                (desk.connected .user server link s)).2 := snd_bind_pure _ _ _
        rw [sets, hgiven, Option.bind_some]
        exact (hrun ▸ postConnect_sets hclock _ _).after hconnected
      | control | auxiliary => exact hconnected

/-- What a request sets by statements of the desk's own is sent once, on the connection of the user,
and is remembered if the server takes it. -/
theorem perform_sets (r : Request) (s : DeskState σ) :
    desk.Sets r.statement? (desk.sets s r) s (desk.perform r s).2 := by
  -- only requests that may set a collation send such a statement of the desk's own
  by_cases h : .collation ∈ parts r
  · cases r with
    | connect role server =>
      have hrun : (desk.perform (.connect role server) s).2 = (desk.connect role server s).2 :=
        snd_map _ _ s
      rw [hrun]
      exact connect_sets hclock role server s
    | postConnect server =>
      have hrun : (desk.perform (.postConnect server) s).2 = (desk.postConnect server s).2 :=
        snd_bind_pure _ _ s
      rw [hrun]
      exact postConnect_sets hclock server s
    | setCollation name =>
      have hrun : (desk.perform (.setCollation name) s).2 = (desk.setCollation name s).2 :=
        snd_bind_pure _ _ s
      rw [hrun]
      exact setCollation_sets hclock name s
    | query _ _ _ keep | tryQuery _ _ _ keep => cases keep <;> simp [parts] at h
    | _ => simp [parts] at h
  · have hnone : desk.sets s r = .none := by
      cases r with
      | connect | postConnect | setCollation => simp [parts] at h
      | _ => rfl
    rw [hnone]
    refine perform_within_strict (sets_none_steady h fun {sql role} hask hsets => ?_) s
    cases hask.2 with
    | handed h => exact h.symm
    | setUp hr | collation hr => exact absurd hr h
    | fact hfact =>
      have hfacts : ∀ sql ∈ Sql.factStatements, Sql.setsCollation sql = false := by decide
      exact absurd (hsets.symm.trans (hfacts sql (r.fact?_mem hfact))) (by decide)
    | query q literal => exact absurd (hsets.symm.trans (q.setsCollation literal)) (by decide)
    | serverCollation => exact absurd hsets (by decide)
    | descriptions table database =>
      exact absurd (hsets.symm.trans (Sql.setsCollation_descriptionsOf table database)) (by decide)

end Asked

/-! ## Runs -/

variable (desk) in
/-- The setting that the server takes in a move, if there is one. -/
def takenBy (s : DeskState σ) : Move → Option Setting
  | .ask r => desk.taken (desk.sets s r)
  | .drive _ => .none

variable (desk) in
/-- The settings that the server takes in a run, in order. -/
def takenIn : List Move → DeskState σ → List Setting
  | [], _ => []
  | m :: ms, s => (desk.takenBy s m).toList ++ takenIn ms (desk.move s m).2

theorem names_of_run (hclock : desk.CountsSeconds) (ms : List Move) (s : DeskState σ) :
    (desk.run ms s).2.memory.names =
      (desk.takenIn ms s).foldl (fun known x => x.onto known) s.memory.names := by
  induction ms generalizing s with
  | nil => rfl
  | cons m ms ih =>
    have hmove : (desk.move s m).2.memory.names =
        (desk.takenBy s m).toList.foldl (fun known x => x.onto known) s.memory.names := by
      cases m with
      | ask r =>
        refine (perform_sets hclock r s).names.trans ?_
        show _ = (desk.taken (desk.sets s r)).toList.foldl _ _
        rcases desk.taken (desk.sets s r) with _ | x <;> rfl
      | drive r => rfl
    unfold run takenIn
    dsimp only
    rw [ih, hmove, List.foldl_append]

/-- A desk that knows an old version sets nothing that came with `utf8mb4`. -/
theorem not_namesUtf8mb4_of_sets {r : Request} {s t : DeskState σ} {x : Setting}
    (h : desk.sets s r = some (x, t)) (hold : t.memory.version.number ≤ 50503) :
    ¬ x.NamesUtf8mb4 := by
  have hfresh {s : DeskState σ} (h : desk.setsFresh s = some (x, t)) : ¬ x.NamesUtf8mb4 := by
    unfold setsFresh at h
    split at h
    · obtain ⟨rfl, rfl⟩ := Prod.mk.inj (Option.some.inj h)
      exact Setting.not_namesUtf8mb4_default hold
    · cases h
  cases r with
  | setCollation name =>
    obtain ⟨rfl, rfl⟩ := Prod.mk.inj (Option.some.inj h)
    exact Setting.not_namesUtf8mb4_only (not_ofUtf8mb4_resolveCollation hold name)
  | postConnect server => exact hfresh h
  | connect role server =>
    cases role with
    | user =>
      obtain ⟨link, -, h⟩ := Option.bind_eq_some_iff.mp h
      exact hfresh h
    | control | auxiliary => cases h
  | _ => cases h

/-- After any run a desk remembers the character set that it set last of those that the server took,
and so the collation, and nothing before any. The statements of its own with which a request sets
them are what it sets, sent once, if the user is connected: with a known version up to 5.5.3 that
names nothing that came with `utf8mb4`, and a collation that is asked for is sent as it is with a
higher one. Fitting a collation to a version twice changes no more than once. -/
theorem settings_known_and_fit (desk : Desk σ) (hclock : desk.CountsSeconds) (ms : List Move)
    (w : World σ) :
    let start : DeskState σ := ⟨desk.newMemory, w⟩
    let taken := desk.takenIn ms start
    let s := (desk.run ms start).2
    (s.memory.charset = (taken.filterMap Setting.charset?).getLast?.getD "" ∧
      s.memory.collation = (taken.map Setting.collation).getLast?.getD "") ∧
    (∀ r, ∃ calls, (desk.perform r s).2.world.calls = s.world.calls ++ calls ∧
      calls.filter (Call.setsBeside r.statement?) = (desk.sets s r).elim [] desk.settingCalls) ∧
    (∀ r x t, desk.sets s r = some (x, t) → t.memory.version.number ≤ 50503 → ¬ x.NamesUtf8mb4) ∧
    (∀ name, 50503 < s.memory.version.number →
      desk.sets s (.setCollation name) = some (.only name, s)) ∧
    ∀ name version,
      resolveCollation (resolveCollation name version) version = resolveCollation name version := by
  intro start taken s
  have hnames : s.memory.names = taken.foldl (fun known x => x.onto known) ("", "") :=
    names_of_run hclock ms start
  rw [Setting.foldl_onto] at hnames
  refine ⟨⟨congrArg Prod.fst hnames, congrArg Prod.snd hnames⟩,
    fun r => (perform_sets hclock r s).calls, fun r x t => not_namesUtf8mb4_of_sets, ?_,
    resolveCollation_idempotent⟩
  intro name hnew
  have hsame : resolveCollation name s.memory.version.number = name :=
    resolveCollation_of_understood fun hold => absurd hnew (Int.not_lt.mpr hold)
  rw [sets, hsame]

/-- A world with a server of version 5.5.3 that takes two settings and refuses others. -/
def oldServer : World Script where
  journal := { state := { answers := [
    .rows { columns := ["@@version", "@@version_comment"]
            rows := [[.text "5.5.3", .text "Server"]] },
    .count 0, .count 0, .fails noAnswer] } }

/-- A connection is set up, and then two collations are asked for. -/
def settingMoves : List Move :=
  [.ask (.setLink .user (some ⟨"c"⟩)), .ask (.postConnect none),
    .ask (.setCollation "utf8mb4_bin"), .ask (.setCollation "latin1_bin")]

/-- An old server is asked for nothing that it does not know, and what it refuses is not
remembered. -/
theorem old_server_settings_known :
    let start : DeskState Script := ⟨scripted.newMemory, oldServer⟩
    let s := (scripted.run settingMoves start).2
    scripted.CountsSeconds ∧
      scripted.takenIn settingMoves start = [.names "utf8" "utf8_general_ci", .only "utf8_bin"] ∧
      s.memory.version.number = 50503 ∧ s.memory.charset = "utf8" ∧
      s.memory.collation = "utf8_bin" ∧
      ∃ calls, (scripted.perform (.setCollation "utf8mb4_unicode_ci") s).2.world.calls =
          s.world.calls ++ calls ∧
        (calls.filter (Call.setsBeside none)).filterMap Call.text? =
          ["SET collation_connection = 'utf8_unicode_ci';"] := by
  have hclock := scripted_countsSeconds {}
  have htaken : scripted.takenIn settingMoves ⟨scripted.newMemory, oldServer⟩ =
      [.names "utf8" "utf8_general_ci", .only "utf8_bin"] := by decide +kernel
  have hversion : (scripted.run settingMoves
      ⟨scripted.newMemory, oldServer⟩).2.memory.version.number = 50503 := by decide +kernel
  have hsent : ((scripted.sets (scripted.run settingMoves ⟨scripted.newMemory, oldServer⟩).2
      (.setCollation "utf8mb4_unicode_ci")).elim [] scripted.settingCalls).filterMap Call.text? =
        ["SET collation_connection = 'utf8_unicode_ci';"] := by decide +kernel
  have hrun := settings_known_and_fit scripted hclock settingMoves oldServer
  dsimp only at hrun ⊢
  rw [htaken] at hrun
  -- what is left does not depend on how the run went
  generalize (scripted.run settingMoves ⟨scripted.newMemory, oldServer⟩).2 = s
    at hrun hversion hsent ⊢
  obtain ⟨⟨hcharset, hcollation⟩, hcalls, -⟩ := hrun
  obtain ⟨calls, hnew, hset⟩ := hcalls (.setCollation "utf8mb4_unicode_ci")
  exact ⟨hclock, htaken, hversion, hcharset, hcollation, calls, hnew,
    (congrArg (List.filterMap Call.text?) hset).trans hsent⟩

end Desk

end SqlDesk
