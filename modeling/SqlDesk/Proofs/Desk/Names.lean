import Mathlib.Data.List.Induction
import SqlDesk.Proofs.Desk.Connection
import SqlDesk.Proofs.Desk.Run
import SqlDesk.Proofs.Desk.Visible
import SqlDesk.Proofs.Order.Sorted

/-!
# The list of databases

A desk asks for the databases once and remembers those that its settings let through, until it is
told to forget them or a connection of the user is set up anew. So a list of databases comes from an
answer since the last reset, and is given again without another question. Without the catalog, the
unpaged listing of databases has one entry for each name of the list.
-/

namespace SqlDesk.Desk

open Act

variable {σ : Type} (desk : Desk σ)

/-! ## What the server answers -/

/-- The names of databases that the server gives when it is asked in a state: those of the first
column of its rows, and none if the statement fails or cannot be sent. -/
inductive Gives (s : DeskState σ) : List String → Prop where
  | unconnected (h : s.memory.linkOf .user = none) : Gives s []
  | failed {link : Link} (hlink : s.memory.linkOf .user = some link)
      (h : (desk.outcome Sql.databaseNames link false s).1 = .ok .failed) : Gives s []
  | empty {link : Link} (hlink : s.memory.linkOf .user = some link)
      (h : (desk.outcome Sql.databaseNames link false s).1 = .ok .done) : Gives s []
  | rows {link : Link} {r : ResultSet} {names : List Value}
      (hlink : s.memory.linkOf .user = some link)
      (h : (desk.outcome Sql.databaseNames link false s).1 = .ok (.rows r))
      (hnames : r.remaining.mapM (fun row => ResultSet.cell row 0) = .ok names) :
      Gives s (names.map Value.plain)

/-- A name that settings let through: one of the patterns of visible databases matches it, if there
are any, and the pattern of hidden ones is not found in it. -/
def Passes (server : ServerSettings) (hidden : Option Pattern) (name : String) : Prop :=
  (server.onlyDb = [] ∨ ∃ p ∈ server.onlyDb, (Sql.Like.ofText p).admits name = true) ∧
    ∀ p ∈ hidden, p.foundIn name = false

instance (server : ServerSettings) (hidden : Option Pattern) (name : String) :
    Decidable (Passes server hidden name) := inferInstanceAs (Decidable (_ ∧ _))

theorem visible_eq {server : ServerSettings} {hidden : Option Pattern}
    (hpattern : hidingPattern server.hideDb = .ok hidden) (all : List String) :
    visible server all = .ok (all.filter (Passes server hidden ·)) := by
  have hpasses (name : String) : (!isHidden hidden name && isShown server.onlyDb name) =
      decide (Passes server hidden name) := by
    rw [Bool.eq_iff_iff, decide_eq_true_iff]
    unfold Passes isHidden isShown
    cases hidden <;> simp [and_comm]
  unfold visible
  rw [hpattern, Except.ok_bind]
  show Except.ok ((all.filter _).filter _) = _
  rw [List.filter_filter]
  exact congrArg Except.ok (List.filter_congr fun name _ => hpasses name)

section Answers

variable {desk} {s : DeskState σ} (hclock : desk.CountsSeconds)

include hclock

/-- A question for the databases returns exactly the names that the server gives. -/
theorem namesIn_ask_eq_ok {all : List String} :
    (desk.ask Sql.databaseNames .user s).1 >>= namesIn = .ok all ↔ desk.Gives s all := by
  unfold ask
  rw [run_tryQuery]
  -- without a connection there is no result, and no result has no names
  rcases hlink : s.memory.linkOf .user with _ | link
  · refine ⟨fun h => ?_, fun h => ?_⟩
    · obtain rfl : [] = all := Except.ok.inj h
      exact .unconnected hlink
    · cases h with
      | unconnected => rfl
      | failed hlink' | empty hlink' | rows hlink' => cases hlink.symm.trans hlink'
  · obtain ⟨span, hspan⟩ := hclock.measurement Sql.databaseNames link .user false s
    have hanswer : (desk.concluded link false
        (desk.measured Sql.databaseNames link .user false s)).1 >>= namesIn =
        (desk.outcome Sql.databaseNames link false s).1 >>= fun o =>
          match o with
          | .rows r => namesIn (some r)
          | .done | .failed => .ok [] := by
      rw [measured_run, hspan, Error.ofFault_ok, Except.ok_bind]
      rcases (desk.outcome Sql.databaseNames link false s).1 with e | r | _ | _ <;> rfl
    dsimp only
    rw [hanswer]
    constructor
    · intro h
      obtain ⟨o, ho, h⟩ := Except.bind_eq_ok.mp h
      cases o with
      | rows r =>
        dsimp only at h
        rw [namesIn_some] at h
        obtain ⟨names, hnames, rfl⟩ := Except.map_eq_ok.mp h
        exact .rows hlink ho (Error.ofFault_eq_ok.mp hnames)
      | done =>
        obtain rfl : [] = all := Except.ok.inj h
        exact .empty hlink ho
      | failed =>
        obtain rfl : [] = all := Except.ok.inj h
        exact .failed hlink ho
    · intro h
      cases h with
      | unconnected hnone => cases hlink.symm.trans hnone
      | failed hlink' ho | empty hlink' ho =>
        obtain rfl := Option.some.inj (hlink.symm.trans hlink')
        rw [ho]
        rfl
      | rows hlink' ho hnames =>
        obtain rfl := Option.some.inj (hlink.symm.trans hlink')
        rw [ho, Except.ok_bind]
        dsimp only
        rw [namesIn_some, hnames]
        rfl

/-- A list that is not remembered is what settings let through of the server's names. -/
theorem databaseNames_eq_ok {hidden : Option Pattern}
    (hpattern : hidingPattern desk.settings.server.hideDb = .ok hidden)
    (hnone : s.memory.databases = none) {names : List String} :
    (desk.databaseNames s).1 = .ok names ↔
      ∃ all, desk.Gives s all ∧ names = all.filter (Passes desk.settings.server hidden ·) := by
  have hrun : (desk.databaseNames s).1 =
      (desk.ask Sql.databaseNames .user s).1 >>= namesIn >>= visible desk.settings.server := by
    rw [run_databaseNames, hnone]
    dsimp only
    rcases (desk.ask Sql.databaseNames .user s).1 >>= namesIn >>= visible desk.settings.server
      with e | names <;> rfl
  rw [hrun, Except.bind_eq_ok]
  refine exists_congr fun all => and_congr (namesIn_ask_eq_ok hclock) ?_
  rw [visible_eq hpattern]
  exact ⟨fun h => (Except.ok.inj h).symm, fun h => congrArg Except.ok h.symm⟩

end Answers

variable {desk} {s : DeskState σ}

/-- A list that is remembered is given without a question. -/
theorem databaseNames_of_some {names : List String} (h : s.memory.databases = some names) :
    desk.databaseNames s = (.ok names, s) := by
  rw [run_databaseNames, h]

/-- A list that is not remembered is asked for on the connection of the user. -/
theorem calls_of_databaseNames (h : s.memory.databases = none) :
    (desk.databaseNames s).2.world.calls = s.world.calls ++
      ((s.memory.linkOf .user).map fun link => .query link Sql.databaseNames false).toList := by
  rw [run_databaseNames, h, ← desk.ask_calls]
  dsimp only
  rcases (desk.ask Sql.databaseNames .user s).1 >>= namesIn >>= visible desk.settings.server
    with e | names <;> rfl

/-! ## What is remembered after a request -/

/-- The list of databases that is remembered stays as it is. -/
def KeepsNames (s t : DeskState σ) : Prop := t.memory.databases = s.memory.databases

theorem keepsNames_loose (P : Call → Prop) : Loose desk.driver P (KeepsNames (σ := σ)) where
  refl _ := rfl
  trans h h' := h'.trans h
  events _ _ := rfl
  request _ _ _ _ _ := rfl
  memory _ _ h := h
  storage _ _ := rfl

theorem keepsNames_steady {l : Licence} (hl : ¬ l.changes .databases) :
    desk.Steady l KeepsNames := by
  refine keeps_steady (fun _ _ => rfl) (fun {other _} _ h hother => ?_) hl
  cases h with
  | forgetDatabases | databases => exact absurd rfl hother
  | _ => rfl

theorem statsOf_keepsNames (totals : Bool) (role : Role) (name : String) (s : DeskState σ) :
    KeepsNames s (desk.statsOf totals role name s).2 := by
  have hR : Frame desk.driver (fun _ => True) KeepsNames := (keepsNames_loose _).toFrame
  refine desk.statsOf_moves hR (fun s => ?_) (fun _ _ => trivial) role s
  exact desk.databaseCollation_moves hR (fun _ _ => trivial) fun _ _ => ⟨trivial, fun _ => trivial⟩

/-- What an operation remembers of the databases is kept by operations that follow. -/
theorem keepsNames_bind {α β : Type} {a : Act σ α} {f : α → Act σ β}
    (hf : ∀ x t, KeepsNames t (f x t).2) (s : DeskState σ) :
    KeepsNames (a s).2 ((a >>= f) s).2 := by
  rw [run_bind]
  rcases a s with ⟨e | x, t⟩
  · rfl
  · exact hf x t

/-- A listing of databases looks into the list unless a pattern takes its place. -/
theorem allDatabases_remembers (like : Option String) (totals : Bool) (role : Role)
    (s : DeskState σ) :
    KeepsNames (if like = none then (desk.databaseNames s).2 else s)
      (desk.allDatabases like totals role s).2 := by
  have hR : Frame desk.driver (fun _ => True) KeepsNames := (keepsNames_loose _).toFrame
  have hstats (names : List String) (t : DeskState σ) :
      KeepsNames t (names.mapM (desk.statsOf totals role) t).2 :=
    hR.mapM (fun name _ => statsOf_keepsNames totals role name) t
  have hfiltered (filter : Sql.DatabaseFilter) (t : DeskState σ) :
      KeepsNames t (desk.filteredDatabases filter totals role t).2 :=
    desk.filteredDatabases_moves hR fun _ _ => trivial
  unfold allDatabases
  rw [statusDatabases_eq, catalogDatabases_eq]
  rcases like with _ | pattern
  · rw [if_pos rfl]
    split
    · exact keepsNames_bind hstats s
    · have hnames : (desk.catalogFilter none s).2 = (desk.databaseNames s).2 := snd_map _ _ s
      rw [← hnames]
      exact keepsNames_bind hfiltered s
  · rw [if_neg (by simp)]
    split
    · have hlisted : KeepsNames s (desk.statusNames (some pattern) role s).2 :=
        desk.statusNames_moves hR nofun fun _ _ _ => trivial
      exact (keepsNames_bind hstats s).trans hlisted
    · exact keepsNames_bind hfiltered s

/-- What comes of an operation that forgets the list of databases as its last step. -/
def ForgetsLast {α : Type} (s : DeskState σ) : Except Error α × DeskState σ → Prop
  | (.ok _, t) => t.memory.databases = none
  | (.error _, t) => KeepsNames s t

theorem ForgetsLast.map {α β : Type} {s : DeskState σ} {p : Except Error α × DeskState σ}
    (h : ForgetsLast s p) (f : α → β) : ForgetsLast s (f <$> p.1, p.2) := by
  rcases p with ⟨e | x, t⟩ <;> exact h

theorem postConnect_forgetsLast (server : Option ServerSettings) (s : DeskState σ) :
    ForgetsLast s (desk.postConnect server s) := by
  let steps : Act σ Unit := do
    desk.readVersion
    desk.setCharset
    desk.setLocale
    desk.setTimeZone (server.getD desk.settings.server).sessionTimeZone
  have hsteps : desk.postConnect server = steps >>= fun _ => resetDatabases := by
    simp only [steps, postConnect, bind_assoc]
  have hkept : KeepsNames s (steps s).2 := by
    have hroutine : desk.Routine (.keeping .databases) steps := by
      refine .andThen (readVersion_routine trivial nofun) fun _ => ?_
      refine .andThen (setCharset_routine (fun _ _ => trivial) nofun) fun _ => ?_
      refine .andThen (setLocale_routine fun _ _ => trivial) fun _ => ?_
      exact setTimeZone_routine (fun _ => trivial) _
    have hsteady : desk.Steady (.keeping .databases) KeepsNames := keepsNames_steady fun h => h rfl
    exact hroutine.moves hsteady s
  rw [hsteps, run_bind]
  rcases hrun : steps s with ⟨e | _, u⟩ <;> rw [hrun] at hkept
  · exact hkept
  · rfl

theorem connect_keepsNames {role : Role} (hrole : role ≠ .user) (server : Option ServerSettings)
    (s : DeskState σ) : KeepsNames s (desk.connect role server s).2 := by
  rw [run_connect]
  split
  · rfl
  · split
    · rfl
    · obtain ⟨r, events, hrun⟩ := desk.giveUp_reports role server (desk.attempted role server s)
      rw [hrun]
      rfl
    · unfold setUp
      rw [if_neg hrole]
      rfl

theorem connect_forgetsLast (server : Option ServerSettings) (s : DeskState σ) :
    ForgetsLast s (desk.connect .user server s) := by
  rw [run_connect, if_neg fun h => Role.noConfusion h.1]
  split
  · rfl
  · rfl
  · rename_i link _
    let greeted := (linked .user link (desk.attempted .user server s)).reporting
      [desk.greeting .user server]
    have hset : ForgetsLast greeted
        (desk.postConnect (some (server.getD desk.settings.server)) greeted) :=
      postConnect_forgetsLast _ greeted
    have hrun := hset.map fun _ => some link
    rw [← run_map, map_eq_pure_bind] at hrun
    exact hrun

/-- A request that makes a desk forget the databases once it returns. -/
def mayReset : Request → Bool
  | .resetDatabases | .postConnect _ | .connect .user _ => true
  | _ => false

variable (desk) in
/-- A request makes the desk forget the databases: it is told so, or a connection of the user is set
up and that returns. -/
def Resets (r : Request) (s : DeskState σ) : Prop :=
  mayReset r = true ∧ (desk.perform r s).1.isOk = true

theorem perform_forgetsLast {r : Request} (h : mayReset r = true) (s : DeskState σ) :
    ForgetsLast s (desk.perform r s) := by
  cases r with
  | connect role server =>
    cases role with
    | user =>
      have hrun : ForgetsLast s (desk.connect .user server s) := connect_forgetsLast server s
      have hreply := hrun.map Reply.link
      rwa [← run_map] at hreply
    | _ => cases h
  | postConnect server =>
    have hrun : ForgetsLast s (desk.postConnect server s) := postConnect_forgetsLast server s
    have hreply := hrun.map fun _ => Reply.nothing
    rw [← run_map, map_eq_pure_bind] at hreply
    exact hreply
  | resetDatabases => rfl
  | _ => cases h

/-- Every other request leaves the list that it found, unless it looks into the list. -/
theorem perform_remembers {r : Request} (h : mayReset r = false) (s : DeskState σ) :
    let t := (desk.perform r s).2
    KeepsNames s t ∨ KeepsNames (desk.databaseNames s).2 t := by
  intro t
  by_cases hparts : .databases ∈ parts r
  · cases r with
    | connect role server =>
      have hrole : role ≠ .user := by
        rintro rfl
        cases h
      have ht : t = (desk.connect role server s).2 := snd_map Reply.link _ s
      rw [ht]
      exact .inl (connect_keepsNames hrole server s)
    | postConnect | resetDatabases => cases h
    | databaseNames =>
      have ht : t = (desk.databaseNames s).2 := snd_map Reply.texts _ s
      rw [ht]
      exact .inr rfl
    | databases like totals view role =>
      have ht : t = (desk.databases like totals view role s).2 := snd_map Reply.databases _ s
      rw [ht]
      by_cases hview : view.Unsortable
      · obtain ⟨e, hrun⟩ := desk.databases_of_unsortable like totals role hview s
        left
        rw [hrun]
        rfl
      · rw [desk.databases_state like totals role hview]
        have hall : KeepsNames (if like = none then (desk.databaseNames s).2 else s)
            (desk.allDatabases like totals role s).2 := allDatabases_remembers like totals role s
        split at hall
        · exact .inr hall
        · exact .inl hall
    | _ => simp [parts] at hparts
  · left
    exact perform_within (keepsNames_steady hparts) s

/-! ## Runs -/

variable (desk) in
/-- No request of a run makes the desk forget the databases. -/
def Unreset : List Move → DeskState σ → Prop
  | [], _ => True
  | m :: ms, s => (∀ r, m = .ask r → ¬ desk.Resets r s) ∧ Unreset ms (desk.move s m).2

theorem unreset_append (ms ns : List Move) (s : DeskState σ) :
    desk.Unreset (ms ++ ns) s ↔ desk.Unreset ms s ∧ desk.Unreset ns (desk.run ms s).2 := by
  induction ms generalizing s with
  | nil => exact (and_iff_right trivial).symm
  | cons m ms ih =>
    show (_ ∧ desk.Unreset (ms ++ ns) _) ↔ (_ ∧ desk.Unreset ms _) ∧ _
    rw [ih, and_assoc]
    rfl

theorem ForgetsLast.databases {α : Type} {s : DeskState σ} {p : Except Error α × DeskState σ}
    (h : ForgetsLast s p) :
    (p.1.isOk = true → p.2.memory.databases = none) ∧ (p.1.isOk = false → KeepsNames s p.2) := by
  rcases p with ⟨e | x, t⟩
  · exact ⟨nofun, fun _ => h⟩
  · exact ⟨fun _ => h, nofun⟩

/-- A move that does not reset leaves a list that is remembered as it is, and makes at most the list
that the state before it gives. -/
theorem move_remembers {m : Move} {s : DeskState σ} (h : ∀ r, m = .ask r → ¬ desk.Resets r s) :
    KeepsNames s (desk.move s m).2 ∨ KeepsNames (desk.databaseNames s).2 (desk.move s m).2 := by
  cases m with
  | drive r => exact .inl rfl
  | ask r =>
    rcases hreset : mayReset r with _ | _
    · exact perform_remembers hreset s
    · have hfails : (desk.perform r s).1.isOk = false := by
        rcases hok : (desk.perform r s).1.isOk with _ | _
        · rfl
        · exact absurd ⟨hreset, hok⟩ (h r rfl)
      exact .inl ((perform_forgetsLast hreset s).databases.2 hfails)

theorem kept_of_unreset {names : List String} {ms : List Move} {s : DeskState σ}
    (hs : s.memory.databases = some names) (h : desk.Unreset ms s) :
    (desk.run ms s).2.memory.databases = some names := by
  induction ms generalizing s with
  | nil => exact hs
  | cons m ms ih =>
    obtain ⟨hfirst, hrest⟩ := h
    refine ih ?_ hrest
    rcases move_remembers hfirst with hkept | hkept
    · exact hkept.trans hs
    · rw [databaseNames_of_some hs] at hkept
      exact hkept.trans hs

/-- The list that is given is the one that is remembered from then on. -/
theorem databaseNames_eq_ok_iff_remembers {names : List String} :
    (desk.databaseNames s).1 = .ok names ↔
      (desk.databaseNames s).2.memory.databases = some names := by
  have hsame (known : List String) :
      (.ok known : Except Error (List String)) = .ok names ↔ some known = some names := by
    rw [Except.ok.injEq, Option.some.injEq]
  rcases hknown : s.memory.databases with _ | known
  · have hasked : (desk.ask Sql.databaseNames .user s).2.memory.databases = none := by
      rw [ask_memory]
      exact hknown
    rw [run_databaseNames, hknown]
    dsimp only
    rcases (desk.ask Sql.databaseNames .user s).1 >>= namesIn >>= visible desk.settings.server
      with e | shown
    · dsimp only
      rw [hasked]
      exact ⟨nofun, nofun⟩
    · exact hsame shown
  · rw [databaseNames_of_some hknown, hknown]
    exact hsame known

variable (desk) in
/-- A list of databases was made at the start of a run that does not reset: nothing is remembered
there, and the list is what settings let through of the names that the server gives. -/
structure MadeAt (hidden : Option Pattern) (names : List String) (ms : List Move)
    (s : DeskState σ) : Prop where
  unknown : s.memory.databases = none
  unreset : desk.Unreset ms s
  given : ∃ all, desk.Gives s all ∧ names = all.filter (Passes desk.settings.server hidden ·)

/-- A list that is remembered after a run was made in the course of it, since the last reset. -/
theorem madeAt_of_run (hclock : desk.CountsSeconds) {hidden : Option Pattern}
    (hpattern : hidingPattern desk.settings.server.hideDb = .ok hidden)
    (hnone : s.memory.databases = none) {ms : List Move} {names : List String}
    (h : (desk.run ms s).2.memory.databases = some names) :
    ∃ before after, ms = before ++ after ∧
      desk.MadeAt hidden names after (desk.run before s).2 := by
  -- on the last move: it kept the list, or it made it because none was known
  induction ms using List.reverseRecOn with
  | nil => cases hnone.symm.trans h
  | append_singleton ms m ih =>
    let u := (desk.run ms s).2
    rw [run_append] at h
    have hlast : (desk.move u m).2.memory.databases = some names := h
    have hunreset : ∀ r, m = .ask r → ¬ desk.Resets r u := by
      rintro r rfl ⟨hreset, hok⟩
      have hforgot := (perform_forgetsLast hreset u).databases.1 hok
      cases hforgot.symm.trans hlast
    rcases hu : u.memory.databases with _ | known
    · have hmade : (desk.databaseNames u).1 = .ok names := by
        rcases move_remembers hunreset with hkept | hkept
        · cases (hkept.trans hu).symm.trans hlast
        · exact databaseNames_eq_ok_iff_remembers.mpr (hkept.symm.trans hlast)
      exact ⟨ms, [m], rfl, hu, ⟨hunreset, trivial⟩,
        (databaseNames_eq_ok hclock hpattern hu).mp hmade⟩
    · have hkept : (desk.move u m).2.memory.databases = some known := by
        have hmove := move_remembers hunreset
        rw [databaseNames_of_some hu, or_self] at hmove
        exact hmove.trans hu
      obtain rfl : known = names := Option.some.inj (hkept.symm.trans hlast)
      obtain ⟨before, after, rfl, hmade⟩ := ih hu
      refine ⟨before, after ++ [m], List.append_assoc .., hmade.unknown, ?_, hmade.given⟩
      rw [unreset_append, ← run_append]
      exact ⟨hmade.unreset, hunreset, trivial⟩

/-! ## The listing without the catalog -/

theorem names_of_mapM_statsOf {totals : Bool} {role : Role} {names : List String}
    {ds : List DatabaseStats} (h : (names.mapM (desk.statsOf totals role) s).1 = .ok ds) :
    ds.map (·.name) = names := by
  induction names generalizing s ds with
  | nil =>
    obtain rfl : [] = ds := Except.ok.inj h
    rfl
  | cons name names ih =>
    rw [List.mapM_cons, fst_bind] at h
    obtain ⟨d, hd, h⟩ := Except.bind_eq_ok.mp h
    rw [fst_bind] at h
    obtain ⟨rest, hrest, h⟩ := Except.bind_eq_ok.mp h
    obtain rfl : d :: rest = ds := Except.ok.inj h
    rw [List.map_cons, (desk.facts_of_statsOf hd).1, ih hrest]

/-- A listing that is not cut is what was read, sorted. -/
theorem databases_eq_ok_iff (hoff : desk.settings.server.disableCatalog = true)
    {view : DatabaseView} (hoffset : view.offset = 0) (hlimit : view.limit = some 0)
    {totals : Bool} {role : Role} {ds : List DatabaseStats} :
    (desk.databases none totals view role s).1 = .ok ds ↔
      databaseColumns.contains view.sortBy = true ∧
      ∃ order names read, Order.direction view.order = .ok order ∧
        (desk.databaseNames s).1 = .ok names ∧
        (names.mapM (desk.statsOf totals role) (desk.databaseNames s).2).1 = .ok read ∧
        Order.sortDatabases read view.sortBy order desk.settings.naturalOrder = .ok ds := by
  have hread : (desk.allDatabases none totals role s).1 = (desk.databaseNames s).1 >>= fun names =>
      (names.mapM (desk.statsOf totals role) (desk.databaseNames s).2).1 := by
    unfold allDatabases
    rw [if_pos hoff, statusDatabases_eq, fst_bind]
    rfl
  have hpage (xs : List DatabaseStats) :
      Order.page xs view.offset (view.limit.getD desk.settings.maxDbList) = xs := by
    rw [hoffset, hlimit]
    exact Order.page_zero xs
  rw [databases_fst, hread]
  unfold databaseListing
  rcases hcolumn : databaseColumns.contains view.sortBy with _ | _
  · simp
  · simp only [hpage, Bool.not_true, Bool.false_eq_true, if_false, true_and]
    constructor
    · intro h
      obtain ⟨order, horder, h⟩ := Except.bind_eq_ok.mp h
      obtain ⟨read, hread, h⟩ := Except.bind_eq_ok.mp h
      obtain ⟨names, hnames, hread⟩ := Except.bind_eq_ok.mp hread
      obtain ⟨sorted, hsorted, h⟩ := Except.bind_eq_ok.mp h
      obtain rfl : sorted = ds := Except.ok.inj h
      exact ⟨order, names, read, horder, hnames, hread, Error.ofFault_eq_ok.mp hsorted⟩
    · rintro ⟨order, names, read, horder, hnames, hread, hsorted⟩
      rw [horder, Except.ok_bind, hnames, Except.ok_bind, hread, Except.ok_bind, hsorted]
      rfl

variable (desk) in
/-- The unpaged listing goes through a list of databases: it returns if they can be read and
compared, and what it returns has one entry for each name. -/
structure ListsEach (names : List String) (s : DeskState σ) (view : DatabaseView) (totals : Bool)
    (role : Role) : Prop where
  each : ∀ {ds}, (desk.databases none totals view role s).1 = .ok ds →
    (ds.map (·.name)).Perm names
  returns : ∀ {order read}, databaseColumns.contains view.sortBy = true →
    Order.direction view.order = .ok order →
    (names.mapM (desk.statsOf totals role) s).1 = .ok read →
    (∀ a ∈ read, ∀ b ∈ read, ∃ n,
      Order.compareDatabases a b view.sortBy order desk.settings.naturalOrder = .ok n) →
    ∃ ds, (desk.databases none totals view role s).1 = .ok ds

theorem listsEach_of_some {names : List String} (h : s.memory.databases = some names)
    (hoff : desk.settings.server.disableCatalog = true) {view : DatabaseView}
    (hoffset : view.offset = 0) (hlimit : view.limit = some 0) (totals : Bool) (role : Role) :
    desk.ListsEach names s view totals role := by
  have hnames : desk.databaseNames s = (.ok names, s) := databaseNames_of_some h
  constructor
  · intro ds hds
    obtain ⟨-, order, known, read, -, hknown, hread, hsorted⟩ :=
      (databases_eq_ok_iff hoff hoffset hlimit).mp hds
    rw [hnames] at hknown hread
    obtain rfl := Except.ok.inj hknown
    rw [← names_of_mapM_statsOf hread]
    exact (Order.perm_of_sortWith hsorted).map _
  · intro order read hcolumn horder hread hcompare
    obtain ⟨ds, hds⟩ := Order.exists_sortWith hcompare
    refine ⟨ds, (databases_eq_ok_iff hoff hoffset hlimit).mpr ⟨hcolumn, order, names, read, horder,
      ?_, ?_, hds⟩⟩
    · rw [hnames]
    · rw [hnames]
      exact hread

/-! ## The list between resets -/

/-- A list of databases, once returned, was made of an answer of the server since the last reset. It
is returned again, without a question to the server, until the next reset, and the listing without
the catalog goes through it. After a reset the server is asked again. -/
theorem databaseNames_until_reset (hclock : desk.CountsSeconds) {hidden : Option Pattern}
    (hpattern : hidingPattern desk.settings.server.hideDb = .ok hidden)
    (hnone : s.memory.databases = none) (ms : List Move) {names : List String}
    (h : (desk.databaseNames (desk.run ms s).2).1 = .ok names) :
    (∃ before after, ms = before ++ after ∧
      desk.MadeAt hidden names after (desk.run before s).2) ∧
    ∀ later, desk.Unreset later (desk.databaseNames (desk.run ms s).2).2 →
      let t := (desk.run later (desk.databaseNames (desk.run ms s).2).2).2
      desk.databaseNames t = (.ok names, t) ∧
      (desk.settings.server.disableCatalog = true → ∀ view : DatabaseView, view.offset = 0 →
        view.limit = some 0 → ∀ totals role, desk.ListsEach names t view totals role) ∧
      ∀ r, desk.Resets r t →
        let u := (desk.perform r t).2
        (desk.databaseNames u).2.world.calls = u.world.calls ++
          ((u.memory.linkOf .user).map fun link => .query link Sql.databaseNames false).toList ∧
        ∀ names', (desk.databaseNames u).1 = .ok names' ↔
          ∃ all, desk.Gives u all ∧
            names' = all.filter (Passes desk.settings.server hidden ·) := by
  have hmade : (desk.databaseNames (desk.run ms s).2).2.memory.databases = some names :=
    databaseNames_eq_ok_iff_remembers.mp h
  refine ⟨?_, fun later hlater => ?_⟩
  · rcases hknown : (desk.run ms s).2.memory.databases with _ | known
    · exact ⟨ms, [], (List.append_nil ms).symm, hknown, trivial,
        (databaseNames_eq_ok hclock hpattern hknown).mp h⟩
    · rw [databaseNames_of_some hknown] at h
      obtain rfl := Except.ok.inj h
      exact madeAt_of_run hclock hpattern hnone hknown
  · intro t
    have hkept : t.memory.databases = some names := kept_of_unreset hmade hlater
    refine ⟨databaseNames_of_some hkept, fun hoff view hoffset hlimit totals role =>
      listsEach_of_some hkept hoff hoffset hlimit totals role, fun r hr => ?_⟩
    have hforgot := (perform_forgetsLast hr.1 t).databases.1 hr.2
    exact ⟨calls_of_databaseNames hforgot, fun names' =>
      databaseNames_eq_ok hclock hpattern hforgot⟩

/-- A desk without the catalog, and its start, with what the server will answer. -/
def listingDesk : Desk Script :=
  scripted { server := { disableCatalog := true, onlyDb := ["app%"], hideDb := "secret" } }

def listingStart : DeskState Script :=
  let listed (names : List String) : ScriptedAnswer :=
    .rows { columns := ["Database"], rows := names.map fun name => [.text name] }
  let answers := [listed ["web", "app2", "app_secret", "app1", "app2"], listed ["utf8_bin"],
    .fails noAnswer, listed ["utf8_bin"], listed ["app3", "secret"]]
  ⟨{ listingDesk.newMemory with links := [(.user, some ⟨"c"⟩)] },
    { journal := { state := { answers } } }⟩

/-- A name that the server gives twice is listed twice, and a new one only after a reset. -/
theorem repeated_database_until_reset :
    let s := listingStart
    let names := ["app2", "app1", "app2"]
    let later : List Move := [.ask (.databases none false {} .user), .ask .databaseNames]
    let t := (listingDesk.run later (listingDesk.databaseNames s).2).2
    let u := (listingDesk.perform .resetDatabases t).2
    (listingDesk.CountsSeconds ∧
      (∃ hidden, hidingPattern listingDesk.settings.server.hideDb = .ok hidden) ∧
      s.memory.databases = none ∧ (listingDesk.databaseNames s).1 = .ok names ∧
      listingDesk.Unreset later (listingDesk.databaseNames s).2 ∧
      listingDesk.Resets .resetDatabases t) ∧
    listingDesk.databaseNames t = (.ok names, t) ∧
    (∃ ds, (listingDesk.databases none false {} .user t).1 = .ok ds ∧
      (ds.map (·.name)).Perm names) ∧
    (listingDesk.databaseNames u).2.world.calls = u.world.calls ++
      [.query ⟨"c"⟩ Sql.databaseNames false] ∧
    (listingDesk.databaseNames u).1 = .ok ["app3"] := by
  intro s names later t u
  have hclock : listingDesk.CountsSeconds := scripted_countsSeconds _
  have hcompiles : (hidingPattern listingDesk.settings.server.hideDb).isOk = true := by
    decide +kernel
  obtain ⟨hidden, hpattern⟩ : ∃ hidden,
      hidingPattern listingDesk.settings.server.hideDb = .ok hidden := by
    rcases hrun : hidingPattern listingDesk.settings.server.hideDb with e | hidden
    · rw [hrun] at hcompiles
      cases hcompiles
    · exact ⟨hidden, rfl⟩
  have hreturns {s : DeskState Script} {names : List String}
      (h : (listingDesk.databaseNames s).1.toOption = some names) :
      (listingDesk.databaseNames s).1 = .ok names := by
    rcases hrun : (listingDesk.databaseNames s).1 with e | known <;> rw [hrun] at h
    · cases h
    · exact congrArg Except.ok (Option.some.inj h)
  have hnames : (listingDesk.databaseNames s).1 = .ok names := hreturns (by decide +kernel)
  have hlater : listingDesk.Unreset later (listingDesk.databaseNames s).2 := by
    refine ⟨?_, ?_, trivial⟩ <;> rintro r hr ⟨hreset, -⟩ <;> obtain rfl := Move.ask.inj hr <;>
      cases hreset
  have hresets : listingDesk.Resets .resetDatabases t := ⟨rfl, rfl⟩
  obtain ⟨-, hkept⟩ := databaseNames_until_reset (s := s) hclock hpattern rfl [] hnames
  obtain ⟨hagain, hlisting, hreset⟩ := hkept later hlater
  obtain ⟨hcalls, -⟩ := hreset .resetDatabases hresets
  refine ⟨⟨hclock, ⟨hidden, hpattern⟩, rfl, hnames, hlater, hresets⟩, hagain, ?_, ?_, ?_⟩
  · have hlisted : (listingDesk.databases none false {} .user t).1.isOk = true := by
      decide +kernel
    rcases hds : (listingDesk.databases none false {} .user t).1 with e | ds
    · rw [hds] at hlisted
      cases hlisted
    · exact ⟨ds, rfl, (hlisting rfl {} rfl rfl false .user).each hds⟩
  · have hlink : u.memory.linkOf .user = some ⟨"c"⟩ := by decide +kernel
    have hasked : (listingDesk.databaseNames u).2.world.calls = u.world.calls ++
        ((u.memory.linkOf .user).map fun link => .query link Sql.databaseNames false).toList :=
      hcalls
    rw [hasked, hlink]
    rfl
  · exact hreturns (by decide +kernel)

end SqlDesk.Desk
