import Mathlib.Logic.Function.Iterate
import SqlDesk.Desk.Databases
import SqlDesk.Proofs.Act
import SqlDesk.Proofs.Settings.Environment
import SqlDesk.Proofs.Settings.Server

/-!
# Server settings after assignments

Ports stay within their range whatever is assigned. The pattern of hidden databases is checked when
it is given, but the assignment of any other field expands the references in it, and what comes out
is not checked again. So the pattern still compiles after every run of assignments exactly if the
patterns that may be given do, however often the references in them are expanded.
-/

namespace SqlDesk

open Settings Act

/-! ## The list of databases -/

namespace Desk

variable {σ : Type} (desk : Desk σ)

/-- The names of databases that the server answers. -/
def answeredNames : Act σ (List String) := do namesOf (← desk.ask Sql.databaseNames)

/-- A list of databases that is not remembered is what settings let through of the answer. -/
theorem databaseNames_fst {st : DeskState σ} (h : st.memory.databases = none) :
    (desk.databaseNames st).1 =
      (desk.answeredNames st).1 >>= visible desk.settings.server := by
  unfold databaseNames answeredNames
  rw [fst_bind, run_memory, Except.ok_bind, h]
  dsimp only
  rw [fst_bind, fst_bind]
  rcases (desk.ask Sql.databaseNames .user st).1 with e | r
  · rfl
  · rw [Except.ok_bind, Except.ok_bind, fst_bind]
    rcases ((namesOf r : Act σ _) (desk.ask Sql.databaseNames .user st).2).1 with e | names
    · rfl
    · rw [Except.ok_bind, Except.ok_bind, fst_bind, run_ofExcept]
      rcases visible desk.settings.server names with e | shown <;> rfl

end Desk

namespace ServerSettings

/-- Settings let names through exactly if their pattern is one that is accepted. -/
theorem exists_visible_iff {s : ServerSettings} {names : List String} :
    (∃ shown, Desk.visible s names = .ok shown) ↔ Accepted s.hideDb := by
  unfold Accepted Desk.visible Desk.hidingPattern
  by_cases hempty : s.hideDb.isEmpty = true
  · rw [if_pos hempty]
    exact iff_of_true ⟨_, rfl⟩ (.inl hempty)
  · rw [if_neg hempty]
    rcases hcompile : Pattern.compile s.hideDb with e | p
    · refine iff_of_false ?_ ?_
      · rintro ⟨shown, h⟩
        cases e <;> cases h
      · rintro (h | ⟨p, h⟩)
        · exact hempty h
        · cases h
    · exact iff_of_true ⟨_, rfl⟩ (.inr ⟨p, rfl⟩)

/-- With these settings a list of databases fails only as the question to the server does. -/
def ListsDatabases (s : ServerSettings) : Prop :=
  ∀ {σ : Type} (desk : Desk σ) (st : DeskState σ) (e : Error), desk.settings.server = s →
    (desk.databaseNames st).1 = .error e → (desk.answeredNames st).1 = .error e

theorem Accepted.listsDatabases {s : ServerSettings} (h : Accepted s.hideDb) :
    s.ListsDatabases := by
  intro σ desk st e hserver hfails
  rcases hknown : st.memory.databases with _ | known
  · rw [desk.databaseNames_fst hknown, hserver] at hfails
    rcases hanswer : (desk.answeredNames st).1 with e' | names <;> rw [hanswer] at hfails
    · exact congrArg Except.error (Except.error.inj hfails)
    · obtain ⟨shown, hshown⟩ := exists_visible_iff.mpr h
      rw [Except.ok_bind, hshown] at hfails
      cases hfails
  · unfold Desk.databaseNames at hfails
    rw [fst_bind, run_memory, Except.ok_bind, hknown] at hfails
    cases hfails

/-! ## One assignment -/

variable {env : Environment} {field : String} {v : Value} {s t : ServerSettings}

theorem PortsFit.assign (hs : s.PortsFit) (h : model.assign env field v s = .ok t) :
    t.PortsFit :=
  Model.of_assign PortsFit.write (fun hs => ⟨hs.port, hs.controlPort⟩) hs h

/-- An assignment gives a pattern that is accepted, expands the present one, or does nothing. -/
theorem hideDb_of_assign (h : model.assign env field v s = .ok t) :
    t = s ∨ field = "hide_db" ∧ Accepted t.hideDb ∨ t.hideDb = env.expand s.hideDb := by
  rcases Model.assign_cases h with h | h
  · exact .inl h
  · rcases write_checked h with ⟨-, -, h⟩ | ⟨-, -, -, h⟩ | ⟨-, -, -, h⟩ | ⟨hfield, -, -, h⟩
    · exact .inr (.inr h)
    · exact .inr (.inr h)
    · exact .inr (.inr h)
    · exact .inr (.inl ⟨hfield, h⟩)

/-- The settings after an assignment; where it is refused they stay as they are. -/
def assigned (env : Environment) (field : String) (v : Value) (s : ServerSettings) :
    ServerSettings :=
  match model.assign env field v s with
  | .ok t => t
  | .error _ => s

theorem assign_text (hfield : field ∈ texts) {x : String} (hx : Passes field x)
    (s : ServerSettings) :
    model.assign env field (.text x) s = .ok ((expand env s).setText field x) := by
  have hmem : model.fields.contains field = true := by
    have hsub : texts ⊆ model.fields := by decide
    exact List.contains_iff_mem.mpr (hsub hfield)
  unfold Model.assign
  rw [if_pos hmem]
  exact write_text_of_passes hfield hx _

theorem assigned_text (hfield : field ∈ texts) {x : String} (hx : Passes field x)
    (s : ServerSettings) :
    assigned env field (.text x) s = (expand env s).setText field x := by
  unfold assigned
  rw [assign_text hfield hx]

/-! ## Runs of assignments -/

/-- The settings that are reached from settings that were read by assigning fields one after the
other, where the patterns of hidden databases that are given are among those allowed. -/
inductive Reached (env : Environment) (allowed : String → Prop) : ServerSettings → Prop where
  | read {given : Value} {s : ServerSettings} (h : model.read env given = .ok s)
      (hpattern : s.hideDb = "" ∨ allowed s.hideDb) : Reached env allowed s
  | assign {s : ServerSettings} (field : String) (v : Value) (hs : Reached env allowed s)
      (hpattern : ∀ t, field = "hide_db" → model.assign env field v s = .ok t →
        allowed t.hideDb) : Reached env allowed (assigned env field v s)

variable {allowed : String → Prop}

theorem read_nothing (env : Environment) : model.read env (.map []) = .ok {} := rfl

theorem reached_default (env : Environment) : Reached env allowed {} :=
  .read (read_nothing env) (.inl rfl)

theorem Reached.portsFit (h : Reached env allowed s) : s.PortsFit := by
  induction h with
  | read h _ => exact Model.of_read PortsFit.write portsFit_default h
  | @assign s field v _ _ ih =>
    unfold assigned
    rcases h : model.assign env field v s with e | t
    · exact ih
    · exact ih.assign h

/-- The pattern of reached settings is one that was given, expanded some number of times. -/
theorem Reached.exists_given (h : Reached env allowed s) :
    ∃ p n, (p = "" ∨ allowed p) ∧ Accepted p ∧ s.hideDb = env.expand^[n] p := by
  induction h with
  | @read given s h hpattern =>
    have haccepted : Accepted s.hideDb :=
      Model.of_read (I := fun s => Accepted s.hideDb) Accepted.write accepted_empty h
    exact ⟨s.hideDb, 0, hpattern, haccepted, rfl⟩
  | @assign s field v _ hpattern ih =>
    unfold assigned
    rcases h : model.assign env field v s with e | t
    · exact ih
    · rcases hideDb_of_assign h with rfl | ⟨hfield, haccepted⟩ | hexpanded
      · exact ih
      · -- the new pattern is written after the expansion, so nothing of it is expanded yet
        exact ⟨t.hideDb, 0, .inr (hpattern t hfield h), haccepted, rfl⟩
      · obtain ⟨p, n, hp, haccepted, hn⟩ := ih
        refine ⟨p, n + 1, hp, haccepted, ?_⟩
        show t.hideDb = _
        rw [hexpanded, hn, Function.iterate_succ_apply']

/-- Every pattern that may be given is reached, expanded any number of times. -/
theorem exists_reached (env : Environment) {p : String} (hp : allowed p) (haccepted : Accepted p) (n : Nat) :
    ∃ s, Reached env allowed s ∧ s.hideDb = env.expand^[n] p := by
  induction n with
  | zero =>
    have hgiven : model.assign env "hide_db" (.text p) {} =
        .ok ((expand env {}).setText "hide_db" p) :=
      assign_text (by decide) (fun _ => haccepted) {}
    refine ⟨assigned env "hide_db" (.text p) {}, .assign _ _ (reached_default env) ?_, ?_⟩
    · intro t _ ht
      obtain rfl := Except.ok.inj (hgiven.symm.trans ht)
      exact hp
    · rw [assigned_text (by decide) fun _ => haccepted]
      rfl
  | succ n ih =>
    obtain ⟨s, hs, hn⟩ := ih
    -- the assignment of any other field expands the pattern once more
    have hother : "host" ≠ "hide_db" := by decide
    refine ⟨assigned env "host" (.text "localhost") s, .assign _ _ hs ?_, ?_⟩
    · exact fun t hfield => absurd hfield hother
    · rw [assigned_text (by decide) fun hfield => absurd hfield hother,
        Function.iterate_succ_apply', ← hn]
      rfl

/-- A pattern is accepted however often its references are expanded. -/
def Settled (env : Environment) (p : String) : Prop := ∀ n, Accepted (env.expand^[n] p)

theorem Accepted.settled {p : String} (h : Accepted p) (hp : ¬ ['$', '\x7b'] <:+: p.toList) :
    Settled env p := by
  intro n
  rw [Function.iterate_fixed (env.expand_eq_self hp)]
  exact h

/-- The ports of reached settings are in range. Their patterns compile, so that databases can be
listed, exactly if all patterns that may be given are settled; those in which no reference starts
are. -/
theorem reached_fits_iff (env : Environment) (allowed : String → Prop) :
    (∀ s, Reached env allowed s → s.PortsFit) ∧
      ((∀ s, Reached env allowed s → Accepted s.hideDb ∧ s.ListsDatabases) ↔
        ∀ p, allowed p → Accepted p → Settled env p) ∧
      ∀ p, ¬ ['$', '\x7b'] <:+: p.toList → Accepted p → Settled env p := by
  refine ⟨fun s hs => hs.portsFit, ⟨fun h p hp haccepted n => ?_, fun h s hs => ?_⟩,
    fun p hp haccepted => haccepted.settled hp⟩
  · obtain ⟨s, hs, hn⟩ := exists_reached env hp haccepted n
    rw [← hn]
    exact (h s hs).1
  · obtain ⟨p, n, hp, haccepted, hn⟩ := hs.exists_given
    have hsettled : Settled env p := by
      rcases hp with rfl | hp
      · exact accepted_empty.settled (by decide)
      · exact h p hp haccepted
    have hpattern : Accepted s.hideDb := hn ▸ hsettled n
    exact ⟨hpattern, hpattern.listsDatabases⟩

/-- A pattern that is a reference is accepted as it is; when the host is assigned it becomes what the
variable holds, which does not compile, and databases cannot be listed any more. -/
theorem expanded_pattern_refused :
    let env : Environment := [("A", "(")]
    ∃ s t, model.read env (.map []) = .ok {} ∧
      model.assign env "hide_db" (.text "$\x7bA\x7d") {} = .ok s ∧ s.hideDb = "$\x7bA\x7d" ∧
      model.assign env "host" (.text "h") s = .ok t ∧ t.hideDb = "(" ∧
      Reached env (fun _ => True) t ∧ ¬ Accepted t.hideDb ∧
      ∀ names, ¬ ∃ shown, Desk.visible t names = .ok shown := by
  intro env
  have hfirst : Passes "hide_db" "$\x7bA\x7d" := by decide +kernel
  have hsecond : Passes "host" "h" := fun h => absurd h (by decide)
  have hrefused : ¬ Accepted "(" := by decide +kernel
  have hdefault : Reached env (fun _ => True) {} := reached_default env
  have hpattern := hdefault.assign "hide_db" (.text "$\x7bA\x7d") fun _ _ _ => trivial
  have hhost := hpattern.assign "host" (.text "h") fun _ _ _ => trivial
  rw [assigned_text (by decide) hfirst, assigned_text (by decide) hsecond] at hhost
  have hexpanded : env.expand "$\x7bA\x7d" = "(" := by decide +kernel
  refine ⟨_, _, read_nothing env, assign_text (by decide) hfirst {}, rfl, assign_text (by decide) hsecond _,
    hexpanded, hhost, ?_⟩
  have hcompiles : ¬ Accepted (env.expand "$\x7bA\x7d") := by rwa [hexpanded]
  refine ⟨hcompiles, fun names h => ?_⟩
  have haccepted := exists_visible_iff.mp h
  exact hcompiles haccepted

end ServerSettings

end SqlDesk
