import SqlDesk.Proofs.Assoc
import SqlDesk.Proofs.Except
import SqlDesk.Proofs.Log.Tally
import SqlDesk.Proofs.Log.Works

/-!
# Which level a logger gets

A factory keeps a logger under its name and the level that was asked for, and gives it again when both
are asked for again. The level is set when the logger is made and not when it is given again. So what
a logger has is the level that was asked for last among those that were new for its name.
-/

namespace SqlDesk.Log

/-! ## Levels -/

/-- Two names are those of one logger: they are equal, or both those of the root logger. -/
def SameLogger (a b : String) : Prop := a = b ∨ isRootName a = true ∧ isRootName b = true

instance (a b : String) : Decidable (SameLogger a b) := inferInstanceAs (Decidable (_ ∨ _))

namespace Levels

/-- The level that a logger has without one of its own: that of its nearest ancestor with one. Nothing
is above the root logger. -/
def inherited (ls : Levels) (name : String) : Nat :=
  if isRootName name then 0
  else (((ancestors name).map fun a => (Assoc.get? ls.own a).getD 0).find? (· != 0)).getD ls.root

theorem effective_eq (ls : Levels) (name : String) :
    ls.effective name = if ls.ownOf name = 0 then ls.inherited name else ls.ownOf name := by
  unfold effective ownOf inherited
  cases isRootName name with
  | true => by_cases hroot : ls.root = 0 <;> simp [hroot]
  | false => by_cases hown : (Assoc.get? ls.own name).getD 0 = 0 <;> simp [hown]

theorem ownOf_set (ls : Levels) (a b : String) (n : Nat) :
    (ls.set a n).ownOf b = if SameLogger a b then n else ls.ownOf b := by
  unfold set ownOf SameLogger
  by_cases hab : a = b
  · subst hab
    by_cases ha : isRootName a = true <;> simp [ha, Assoc.get?_put]
  · by_cases ha : isRootName a = true <;> by_cases hb : isRootName b = true <;>
      simp [ha, hb, hab, Assoc.get?_put]

end Levels

/-- The number of a level that is asked for, if there is such a level. -/
def levelNumber (level : Option String) : Option Nat := (readLevelName level).toOption

/-- A level with which a logger can be made: none at all, or one that there is. -/
def ValidLevel (level : Option String) : Prop := level = none ∨ ∃ n, readLevelName level = .ok n

theorem levelNumber_of_ok {level : Option String} {n : Nat} (h : readLevelName level = .ok n) :
    levelNumber level = some n := by
  unfold levelNumber
  rw [h]
  rfl

theorem levelNumber_of_not_valid {level : Option String} (h : ¬ ValidLevel level) :
    levelNumber level = none := by
  unfold levelNumber
  rcases hread : readLevelName level with e | n
  · rfl
  · exact absurd (.inr ⟨n, hread⟩) h

theorem not_validLevel {level : String} (h : levelNumber (some level) = none) :
    ¬ ValidLevel (some level) := by
  rintro (hnone | ⟨n, hread⟩)
  · cases hnone
  · rw [levelNumber_of_ok hread] at h
    cases h

theorem makeLogger_of_valid (ls : Levels) (name : String) {level : Option String}
    (h : ValidLevel level) :
    ls.makeLogger name level =
      .ok ({ name }, (levelNumber level).elim ls (ls.set name)) := by
  unfold Levels.makeLogger
  rcases h with rfl | ⟨n, hread⟩
  · rfl
  · rw [levelNumber_of_ok hread]
    cases level with
    | none => cases hread
    | some l =>
      dsimp only
      rw [hread]
      rfl

theorem makeLogger_of_not_valid (ls : Levels) (name : String) {level : Option String}
    (h : ¬ ValidLevel level) : ∃ e, ls.makeLogger name level = .error e := by
  unfold Levels.makeLogger
  cases level with
  | none => exact absurd (.inl rfl) h
  | some l =>
    rcases hread : readLevelName (some l) with e | n
    · exact ⟨e, rfl⟩
    · exact absurd (.inr ⟨n, hread⟩) h

/-! ## Keys -/

theorem mem_levelNames {name : String} {n : Nat} (h : levelOfName? name = some n) :
    (name, n) ∈ levelNames := by
  obtain ⟨before, after, hsplit, -⟩ := List.lookup_eq_some_iff.mp h
  rw [hsplit]
  simp

theorem underscore_notMem_of_levelOfName? {name : String} {n : Nat}
    (h : levelOfName? name = some n) : '_' ∉ name.toList := by
  have hall : ∀ e ∈ levelNames, '_' ∉ e.1.toList := by decide
  exact hall (name, n) (mem_levelNames h)

theorem underscore_mem_upper {s : String} (h : '_' ∈ s.toList) : '_' ∈ (Text.upper s).toList := by
  unfold Text.upper
  rw [String.toList_ofList, List.mem_flatMap]
  exact ⟨'_', h, by decide⟩

/-- The name of a level has no underscore. -/
theorem underscore_notMem_of_ok {level : String} {n : Nat}
    (h : readLevelName (some level) = .ok n) : '_' ∉ level.toList := by
  intro hmem
  unfold readLevelName at h
  dsimp only at h
  split at h
  · cases h
  · split at h
    · rename_i hnumber
      exact underscore_notMem_of_levelOfName? hnumber (underscore_mem_upper hmem)
    · cases h

theorem append_cons_inj_of_notMem {α : Type} {a : α} {xs ys s t : List α} (hs : a ∉ s) (ht : a ∉ t)
    (h : xs ++ a :: s = ys ++ a :: t) : xs = ys ∧ s = t := by
  have hend {rest u v : List α} (hu : a ∉ u) (huv : a :: u = rest ++ a :: v) : rest = [] ∧ u = v := by
    rcases rest with _ | ⟨b, rest⟩
    · exact ⟨rfl, (List.cons.inj huv).2⟩
    · rw [(List.cons.inj huv).2] at hu
      simp at hu
  rcases List.append_eq_append_iff.mp h with ⟨rest, hys, hst⟩ | ⟨rest, hxs, hts⟩
  · obtain ⟨rfl, rfl⟩ := hend hs hst
    exact ⟨by rw [hys, List.append_nil], rfl⟩
  · obtain ⟨rfl, rfl⟩ := hend ht hts
    exact ⟨by rw [hxs, List.append_nil], rfl⟩

/-- Names and levels with which loggers can be made have keys of their own. -/
theorem keyOf_injective {name name' : String} {level level' : Option String} (h : ValidLevel level)
    (h' : ValidLevel level') (hkey : Factory.keyOf name level = Factory.keyOf name' level') :
    name = name' ∧ level = level' := by
  have hshown {level : Option String} (h : ValidLevel level) :
      '_' ∉ (level.getD "None").toList := by
    rcases h with rfl | ⟨n, hread⟩
    · decide
    · cases level with
      | none => cases hread
      | some l => exact underscore_notMem_of_ok hread
  have hlist (name : String) (level : Option String) :
      (Factory.keyOf name level).toList = name.toList ++ '_' :: (level.getD "None").toList := by
    unfold Factory.keyOf
    rw [String.toList_append, String.toList_append, List.append_assoc]
    rfl
  have hsplit := congrArg String.toList hkey
  rw [hlist, hlist] at hsplit
  obtain ⟨hname, hlevel⟩ := append_cons_inj_of_notMem (hshown h) (hshown h') hsplit
  have hgetD := String.toList_injective hlevel
  have hnone {level : String} (hvalid : ValidLevel (some level)) : "None" ≠ level := by
    rintro rfl
    exact not_validLevel (by decide +kernel) hvalid
  refine ⟨String.toList_injective hname, ?_⟩
  rcases level with _ | l <;> rcases level' with _ | l'
  · rfl
  · exact absurd hgetD (hnone h')
  · exact absurd hgetD.symm (hnone h)
  · exact congrArg some hgetD

/-! ## Calls -/

/-- A name and a level for which a logger is asked. -/
abbrev Call := String × Option String

namespace Call

/-- The level that the logger of a name gets when a call makes a logger. -/
def setFor (name : String) (c : Call) : Option Nat :=
  if SameLogger c.1 name then levelNumber c.2 else none

/-- The level that the logger of a name got last, a call that was made before setting none. -/
def lastSet (name : String) (cs : List Call) : Option Nat :=
  (cs.eraseDups.filterMap (setFor name)).getLast?

theorem lastSet_concat (name : String) (cs : List Call) (c : Call) :
    lastSet name (cs ++ [c]) =
      if c ∈ cs then lastSet name cs else (c.setFor name).or (lastSet name cs) := by
  unfold lastSet
  rw [eraseDups_concat]
  split
  · rfl
  · rw [List.filterMap_append, List.getLast?_append]
    cases hset : c.setFor name <;> simp [hset]

/-- A level that was asked for was set, by this call or by one before. -/
theorem exists_lastSet {name : String} {cs : List Call} {c : Call} {n : Nat} (hc : c ∈ cs)
    (hset : c.setFor name = some n) : ∃ m, lastSet name cs = some m := by
  have hmem : n ∈ cs.eraseDups.filterMap (setFor name) :=
    List.mem_filterMap.mpr ⟨c, List.mem_eraseDups.mpr hc, hset⟩
  exact ⟨_, List.getLast?_eq_some_getLast (List.ne_nil_of_mem hmem)⟩

end Call

namespace Works

/-- The state after a logger was made. -/
def making (w : Works) (name : String) (level : Option String) : Works where
  factory := { w.factory with
    loggers := Assoc.put w.factory.loggers (Factory.keyOf name level) { id := w.factory.made, name }
    made := w.factory.made + 1 }
  system := { w.system with
    levels := (levelNumber level).elim w.system.levels (w.system.levels.set name) }

section Fetched

variable {w : Works} {name : String} {level : Option String}

theorem fetched_of_kept {made : Made}
    (h : Assoc.get? w.factory.loggers (Factory.keyOf name level) = some made) :
    w.fetched name level = (.ok made, w) := by
  unfold fetched
  rw [h]

theorem fetched_of_valid (h : Assoc.get? w.factory.loggers (Factory.keyOf name level) = none)
    (hvalid : ValidLevel level) :
    w.fetched name level = (.ok { id := w.factory.made, name }, w.making name level) := by
  unfold fetched
  rw [h, makeLogger_of_valid _ _ hvalid]
  rfl

theorem fetched_of_not_valid
    (h : Assoc.get? w.factory.loggers (Factory.keyOf name level) = none)
    (hinvalid : ¬ ValidLevel level) : ∃ e, w.fetched name level = (.error e, w) := by
  obtain ⟨e, he⟩ := makeLogger_of_not_valid w.system.levels name hinvalid
  unfold fetched
  rw [h, he]
  exact ⟨e, rfl⟩

end Fetched

/-- Fetch loggers one after the other. -/
def fetchAll (w : Works) (cs : List Call) : Works :=
  cs.foldl (fun w c => (w.fetched c.1 c.2).2) w

theorem fetchAll_concat (w : Works) (cs : List Call) (c : Call) :
    w.fetchAll (cs ++ [c]) = ((w.fetchAll cs).fetched c.1 c.2).2 := by
  unfold fetchAll
  rw [List.foldl_append]
  rfl

theorem unready_readied (w : Works) : w.readied.unready = false := by
  unfold readied
  cases hready : w.unready with
  | true => rfl
  | false => exact hready

theorem unready_fetchAll (w : Works) (cs : List Call) : (w.readied.fetchAll cs).unready = false := by
  induction cs using List.reverseRecOn with
  | nil => exact w.unready_readied
  | append_singleton cs c ih =>
    obtain ⟨loggers, made, levels, hfetched⟩ := (w.readied.fetchAll cs).fetched_eq c.1 c.2
    rw [fetchAll_concat, hfetched]
    exact ih

/-- The outputs are made ready once. -/
theorem readied_run (w : Works) (cs : List Call) :
    (w.run (cs.map fun c => .logger c.1 c.2)).readied = w.readied.fetchAll cs := by
  induction cs using List.reverseRecOn with
  | nil => rfl
  | append_singleton cs c ih =>
    have hrun : w.run ((cs ++ [c]).map fun c => .logger c.1 c.2) =
        ((w.readied.fetchAll cs).fetched c.1 c.2).2 := by
      rw [List.map_append, List.map_singleton, run_concat, perform_logger, ih]
    have hready := w.unready_fetchAll (cs ++ [c])
    rw [hrun, ← fetchAll_concat]
    unfold readied at hready ⊢
    rw [hready]
    rfl

/-! ## What is kept -/

/-- After calls, the loggers that are kept are those of the calls that were valid, under their own
names, and the level of each logger is the one that was set last. -/
structure Keeps (base : Levels) (cs : List Call) (w : Works) : Prop where
  called : ∀ {key made}, Assoc.get? w.factory.loggers key = some made →
    ∃ c ∈ cs, ValidLevel c.2 ∧ Factory.keyOf c.1 c.2 = key ∧ made.name = c.1
  kept : ∀ c ∈ cs, ValidLevel c.2 →
    ∃ made, Assoc.get? w.factory.loggers (Factory.keyOf c.1 c.2) = some made
  level : ∀ name, w.system.levels.ownOf name = (Call.lastSet name cs).getD (base.ownOf name)

section Keeps

variable {base : Levels} {cs : List Call} {w : Works} {name : String} {level : Option String}

/-- A valid call that was not made before has no logger kept for it. -/
theorem Keeps.get?_of_new (h : Keeps base cs w) (hvalid : ValidLevel level)
    (hnew : (name, level) ∉ cs) :
    Assoc.get? w.factory.loggers (Factory.keyOf name level) = none := by
  rcases hget : Assoc.get? w.factory.loggers (Factory.keyOf name level) with _ | made
  · rfl
  · obtain ⟨c, hc, hc', hkey, -⟩ := h.called hget
    obtain ⟨rfl, rfl⟩ := keyOf_injective hc' hvalid hkey
    exact absurd hc hnew

/-- A call that was made before or is not valid may leave everything as it is. -/
theorem Keeps.unchanged (h : Keeps base cs w) {c : Call} (hc : ValidLevel c.2 → c ∈ cs) :
    Keeps base (cs ++ [c]) w where
  called hget := by
    obtain ⟨d, hd, hrest⟩ := h.called hget
    exact ⟨d, List.mem_append_left _ hd, hrest⟩
  kept d hd hvalid := by
    rcases List.mem_append.mp hd with hd | hd
    · exact h.kept d hd hvalid
    · obtain rfl := List.mem_singleton.mp hd
      exact h.kept d (hc hvalid) hvalid
  level name := by
    rw [h.level, Call.lastSet_concat]
    split
    · rfl
    · rename_i hnew
      have hset : c.setFor name = none := by
        unfold Call.setFor
        rw [levelNumber_of_not_valid fun hvalid => hnew (hc hvalid), ite_self]
      rw [hset, Option.none_or]

theorem Keeps.making (h : Keeps base cs w) (hvalid : ValidLevel level)
    (hnew : (name, level) ∉ cs) : Keeps base (cs ++ [(name, level)]) (w.making name level) where
  called {key made} hget := by
    unfold Works.making at hget
    rw [Assoc.get?_put] at hget
    split at hget
    · rename_i hkey
      obtain rfl := Option.some.inj hget
      exact ⟨(name, level), by simp, hvalid, by simpa using hkey, rfl⟩
    · obtain ⟨d, hd, hrest⟩ := h.called hget
      exact ⟨d, List.mem_append_left _ hd, hrest⟩
  kept d hd hd' := by
    unfold Works.making
    rw [Assoc.get?_put]
    split
    · exact ⟨_, rfl⟩
    · rename_i hkey
      rcases List.mem_append.mp hd with hd | hd
      · exact h.kept d hd hd'
      · obtain rfl := List.mem_singleton.mp hd
        exact absurd (by simp) hkey
  level other := by
    rw [Call.lastSet_concat, if_neg hnew]
    unfold Works.making Call.setFor
    dsimp only
    rcases levelNumber level with _ | n
    · rw [ite_self, Option.none_or, Option.elim_none, h.level]
    · rw [Option.elim_some, Levels.ownOf_set, h.level]
      split <;> rfl

theorem Keeps.fetched (h : Keeps base cs w) (c : Call) :
    Keeps base (cs ++ [c]) (w.fetched c.1 c.2).2 := by
  by_cases hkept : ∃ made, Assoc.get? w.factory.loggers (Factory.keyOf c.1 c.2) = some made
  · obtain ⟨made, hget⟩ := hkept
    rw [fetched_of_kept hget]
    refine h.unchanged fun hvalid => ?_
    by_contra hnew
    rw [h.get?_of_new hvalid hnew] at hget
    cases hget
  · have hnone : Assoc.get? w.factory.loggers (Factory.keyOf c.1 c.2) = none :=
      Option.eq_none_iff_forall_ne_some.mpr fun made hmade => hkept ⟨made, hmade⟩
    by_cases hvalid : ValidLevel c.2
    · rw [fetched_of_valid hnone hvalid]
      exact h.making hvalid fun hc => hkept (h.kept c hc hvalid)
    · obtain ⟨e, he⟩ := fetched_of_not_valid hnone hvalid
      rw [he]
      exact h.unchanged fun hvalid' => absurd hvalid' hvalid

theorem keeps_fetchAll (w : Works) (hempty : w.factory.loggers = []) (cs : List Call) :
    Keeps w.system.levels cs (w.fetchAll cs) := by
  induction cs using List.reverseRecOn with
  | nil =>
    refine ⟨fun hget => ?_, nofun, fun _ => rfl⟩
    have hnone : (w.fetchAll []).factory.loggers = [] := hempty
    rw [hnone] at hget
    cases hget
  | append_singleton cs c ih =>
    rw [fetchAll_concat]
    exact ih.fetched c

/-- A valid call gives the logger of its name. -/
theorem Keeps.fetched_fst (h : Keeps base cs w) (name : String) (hvalid : ValidLevel level) :
    ∃ made, (w.fetched name level).1 = .ok made ∧ made.name = name := by
  rcases hget : Assoc.get? w.factory.loggers (Factory.keyOf name level) with _ | made
  · rw [fetched_of_valid hget hvalid]
    exact ⟨_, rfl, rfl⟩
  · obtain ⟨c, -, hc, hkey, hname⟩ := h.called hget
    obtain ⟨rfl, -⟩ := keyOf_injective hc hvalid hkey
    rw [fetched_of_kept hget]
    exact ⟨made, rfl, hname⟩

/-- An invalid call is refused unless a logger is kept under its key. -/
theorem Keeps.fetched_refused_iff (h : Keeps base cs w) (name : String)
    (hinvalid : ¬ ValidLevel level) :
    (∃ e, (w.fetched name level).1 = .error e) ↔
      ∀ c ∈ cs, ValidLevel c.2 → Factory.keyOf c.1 c.2 ≠ Factory.keyOf name level := by
  rcases hget : Assoc.get? w.factory.loggers (Factory.keyOf name level) with _ | made
  · obtain ⟨e, he⟩ := fetched_of_not_valid hget hinvalid
    refine ⟨fun _ c hc hvalid hkey => ?_, fun _ => ⟨e, congrArg Prod.fst he⟩⟩
    obtain ⟨made, hmade⟩ := h.kept c hc hvalid
    rw [hkey, hget] at hmade
    cases hmade
  · rw [fetched_of_kept hget]
    obtain ⟨c, hc, hvalid, hkey, -⟩ := h.called hget
    refine ⟨?_, fun hall => absurd hkey (hall c hc hvalid)⟩
    rintro ⟨e, he⟩
    cases he

end Keeps

/-- After any calls for loggers, a call without a level or with one that there is gives the logger of
its name. The level that it asks for is in force exactly if it is the one that was set last for the
logger, which it is if the call was not made before; a level of zero stands for that of the loggers
above. A call with a level that there is not is refused exactly if no logger is kept under its key. -/
theorem loggers_level (initial : LogSettings) (sys : System) (cs : List Call) (name : String)
    (level : Option String) :
    let start : Works := { factory := { settings := initial }, system := sys }
    let call := (start.run (cs.map fun c => .logger c.1 c.2)).perform (.logger name level)
    let levels := call.2.system.levels
    (ValidLevel level → ∃ made, call.1 = .ok (some made) ∧ made.name = name) ∧
      (∀ n, readLevelName level = .ok n →
        ∃ m, Call.lastSet name (cs ++ [(name, level)]) = some m ∧ ((name, level) ∉ cs → m = n) ∧
          (levels.effective name = n ↔ if m = 0 then levels.inherited name = n else m = n)) ∧
      (¬ ValidLevel level → ((∃ e, call.1 = .error e) ↔
        ∀ c ∈ cs, ValidLevel c.2 → Factory.keyOf c.1 c.2 ≠ Factory.keyOf name level)) := by
  intro start call levels
  have hloggers : start.readied.factory.loggers = [] := by
    unfold readied
    split <;> rfl
  have hkeeps := keeps_fetchAll start.readied hloggers cs
  have hcall : call = (some <$> ((start.readied.fetchAll cs).fetched name level).1,
      ((start.readied.fetchAll cs).fetched name level).2) := by
    rw [← readied_run]
    exact perform_logger _ name level
  refine ⟨fun hvalid => ?_, fun n hread => ?_, fun hinvalid => ?_⟩
  · obtain ⟨made, hmade, hname⟩ := hkeeps.fetched_fst name hvalid
    rw [hcall, hmade]
    exact ⟨made, rfl, hname⟩
  · have hset : Call.setFor name (name, level) = some n := by
      unfold Call.setFor
      rw [if_pos (.inl rfl), levelNumber_of_ok hread]
    have hmem : (name, level) ∈ cs ++ [(name, level)] := by simp
    -- the logger's own level is the one that was set for it last, this call included
    obtain ⟨m, hm⟩ := Call.exists_lastSet hmem hset
    have hown : levels.ownOf name = m := by
      have hlevel := (hkeeps.fetched (name, level)).level name
      rw [hm] at hlevel
      have hlevels : levels = ((start.readied.fetchAll cs).fetched name level).2.system.levels :=
        congrArg (fun call => call.2.system.levels) hcall
      rw [hlevels]
      exact hlevel
    refine ⟨m, hm, fun hnew => ?_, ?_⟩
    · rw [Call.lastSet_concat, if_neg hnew, hset] at hm
      exact (Option.some.inj hm).symm
    · rw [levels.effective_eq, hown]
      split <;> rfl
  · rw [← hkeeps.fetched_refused_iff name hinvalid, hcall]
    simp only [Except.map_eq_error]

/-- A new level is in force, also for a name that had none, and so is the last one of a name when it
is asked for again; a level that there is not is refused. -/
theorem new_levels_in_force :
    let cs : List Call := [("app", some "DEBUG"), ("app.db", none), ("app", some "error")]
    let w := run { factory := {}, system := { pipeline := .unset } }
      (cs.map fun c => .logger c.1 c.2)
    let levelAfter (name level : String) :=
      (w.perform (.logger name (some level))).2.system.levels.effective name
    (readLevelName (some "Info") = .ok 20 ∧ readLevelName (some "error") = .ok 40 ∧
      ¬ ValidLevel (some "LOUD")) ∧
      levelAfter "app.db" "Info" = 20 ∧ levelAfter "app" "error" = 40 ∧
      (∃ made, (w.perform (.logger "app.db" (some "Info"))).1 = .ok (some made) ∧
        made.name = "app.db") ∧
      ∃ e, (w.perform (.logger "app" (some "LOUD"))).1 = .error e := by
  intro cs w levelAfter
  have hinfo : readLevelName (some "Info") = .ok 20 := rfl
  have herror : readLevelName (some "error") = .ok 40 := rfl
  have hloud : ¬ ValidLevel (some "LOUD") := not_validLevel (by decide +kernel)
  have hcall := loggers_level {} { pipeline := .unset } cs
  obtain ⟨hlogger, hlevel, -⟩ := hcall "app.db" (some "Info")
  obtain ⟨m, hm, -, hiff⟩ := hlevel 20 hinfo
  obtain rfl : 20 = m := Option.some.inj hm
  obtain ⟨-, hagain, -⟩ := hcall "app" (some "error")
  obtain ⟨m, hm, -, hagain⟩ := hagain 40 herror
  obtain rfl : 40 = m := Option.some.inj hm
  obtain ⟨-, -, hrefused⟩ := hcall "app" (some "LOUD")
  have hkeys : ∀ c ∈ cs, Factory.keyOf c.1 c.2 ≠ Factory.keyOf "app" (some "LOUD") := by decide
  exact ⟨⟨hinfo, herror, hloud⟩, hiff.mpr rfl, hagain.mpr rfl, hlogger (.inr ⟨20, hinfo⟩),
    (hrefused hloud).mpr fun c hc _ => hkeys c hc⟩

/-- A level that is asked for again after another one is not set again. -/
theorem level_asked_again_lost :
    let cs : List Call := [("app", some "DEBUG"), ("app", some "ERROR")]
    let w := run { factory := {}, system := {} } (cs.map fun c => .logger c.1 c.2)
    let call := w.perform (.logger "app" (some "DEBUG"))
    readLevelName (some "DEBUG") = .ok 10 ∧ readLevelName (some "ERROR") = .ok 40 ∧
      call.2.system.levels.effective "app" = 40 := by
  intro cs w call
  exact ⟨rfl, rfl, by decide +kernel⟩

end Works

end SqlDesk.Log
