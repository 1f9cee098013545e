import SqlDesk.Proofs.Session.Facts

/-!
# Entries that stay

What a scope has under a key is what reading finds, whatever else the storage holds, and it stays
until a request removes it, clears its scope or writes over it. Of a computation the requests count
that it comes to make; one for a key that is there is not run.
-/

namespace SqlDesk.Session

variable {scope key : String} {v : Value} {st : Storage}

/-! ## Reading -/

theorem facts_eq_of_view {st' : Storage} (h : view st' scope = view st scope) :
    facts st' scope key = facts st scope key := by
  unfold facts
  rw [h]

/-- An entry is one of a mapping that its scope shows. -/
theorem view_of_facts (h : facts st scope key = some v) :
    ∃ es : Row, view st scope = .ok (some (.map es)) ∧ es.column? key = some v := by
  unfold facts at h
  split at h
  · exact ⟨_, ‹_›, h⟩
  · cases h

theorem lookup_of_facts (h : facts st scope key = some v) :
    lookup st scope (.text key) = .ok (some v) := by
  obtain ⟨es, hview, hes⟩ := view_of_facts h
  unfold lookup
  rw [entries_eq, hview]
  exact congrArg Except.ok hes

theorem get_of_facts (h : facts st scope key = some v) (default : Value) :
    get st scope (.text key) default = .ok v := by
  unfold get
  rw [lookup_of_facts h]
  rfl

theorem has_of_facts (h : facts st scope key = some v) : has st scope (.text key) = .ok true := by
  obtain ⟨es, hview, hes⟩ := view_of_facts h
  unfold has
  rw [entries_eq, hview]
  show Except.ok (Assoc.has es (.text key)) = .ok true
  unfold Row.column? Assoc.get? at hes
  unfold Assoc.has
  rw [← List.isSome_find?, ← Option.isSome_map, hes]
  rfl

theorem facts_of_lookup (h : lookup st scope (.text key) = .ok none) :
    facts st scope key = none := by
  rcases hfact : facts st scope key with _ | v
  · rfl
  · cases (lookup_of_facts hfact).symm.trans h

theorem facts_of_has (h : has st scope (.text key) = .ok false) : facts st scope key = none := by
  rcases hfact : facts st scope key with _ | v
  · rfl
  · cases (has_of_facts hfact).symm.trans h

/-! ## Writing -/

/-- What was written is there. -/
theorem facts_set (h : (set st scope (.text key) v).2 = .ok ()) :
    facts (set st scope (.text key) v).1 scope key = some v := by
  have hop := set_worksOn scope (.text key) v
  rw [hop.answer_eq] at h
  rcases hview : view st scope with w | c <;> rw [hview] at h
  · cases h
  · obtain ⟨es', hassign, -⟩ := Except.map_eq_ok.mp h
    have hview' : view (set st scope (.text key) v).1 scope = .ok (some es') := by
      rw [hop.view_eq, hview]
      show Except.ok (viewSet (.text key) v c) = _
      unfold viewSet
      rw [hassign]
      rfl
    unfold assign at hassign
    split at hassign
    · obtain rfl := Except.ok.inj hassign
      unfold facts
      rw [hview']
      exact (Row.column?_put _ key key v).trans (if_pos rfl)
    · cases hassign

/-- An operation keeps an entry if it works on another scope or leaves the entry in its place. -/
theorem WorksOn.facts_eq {s : String} {op : Storage → Storage × Except Fault Unit}
    {answer : Except Value (Option Value) → Except Fault Unit} {next : Option Value → Option Value}
    (hop : WorksOn s op answer next) (h : facts st scope key = some v)
    (hnext : s = scope → ∀ es : Row, es.column? key = some v →
      ∃ es' : Row, next (some (.map es)) = some (.map es') ∧ es'.column? key = some v) :
    facts (op st).1 scope key = some v := by
  by_cases hs : scope = s
  · subst hs
    obtain ⟨es, hview, hes⟩ := view_of_facts h
    obtain ⟨es', hes', hkey⟩ := hnext rfl es hes
    have hview' : view (op st).1 scope = .ok (some (.map es')) := by
      rw [hop.view_eq, hview, ← hes']
      rfl
    unfold facts
    rw [hview']
    exact hkey
  · rw [facts_eq_of_view ((hop.outside st).view_eq hs), h]

/-- What a mapping becomes when a value is written; a refused key changes nothing. -/
def entered (k w : Value) (es : Row) : Row := if k.isKey then Assoc.put es k w else es

/-- What a mapping becomes when a key is removed; a refused key changes nothing. -/
def without (k : Value) (es : Row) : Row :=
  if es.isEmpty || k.isKey then Assoc.erase es k else es

theorem viewSet_map (k w : Value) (es : Option Row) :
    viewSet k w (es.map .map) = some (.map (entered k w (es.getD []))) := by
  have hplace : (es.map Value.map).getD (.map []) = .map (es.getD []) := by
    rcases es with _ | es <;> rfl
  unfold viewSet entered
  rw [hplace]
  rcases hkey : k.isKey with _ | _ <;> simp [assign, hkey, Except.toOption]

theorem viewRemove_map (k : Value) (es : Option Row) :
    viewRemove k (es.map .map) = (es.map (without k)).map .map := by
  rcases es with _ | es
  · rfl
  · unfold viewRemove without takeOut
    simp only [Option.map_some]
    split <;> rfl

theorem column?_entered {k : Value} (h : k ≠ .text key) (w : Value) (es : Row) :
    (entered k w es).column? key = es.column? key := by
  unfold entered
  split
  · exact Row.column?_put_of_ne h es w
  · rfl

theorem column?_without {k : Value} (h : k ≠ .text key) (es : Row) :
    (without k es).column? key = es.column? key := by
  unfold without
  split
  · exact Row.column?_erase_of_ne h es
  · rfl

/-- An entry is kept when another one is written. -/
theorem facts_set_of_ne (h : facts st scope key = some v) {s : String} {k : Value}
    (hne : ¬ (s = scope ∧ k = .text key)) (w : Value) :
    facts (set st s k w).1 scope key = some v := by
  refine (set_worksOn s k w).facts_eq h fun hs es hes => ?_
  have hk : k ≠ .text key := fun hk => hne ⟨hs, hk⟩
  exact ⟨_, viewSet_map k w (some es), (column?_entered hk w es).trans hes⟩

/-- An entry is kept when another one is removed. -/
theorem facts_remove_of_ne (h : facts st scope key = some v) {s : String} {k : Value}
    (hne : ¬ (s = scope ∧ k = .text key)) : facts (remove st s k).1 scope key = some v := by
  refine (remove_worksOn s k).facts_eq h fun hs es hes => ?_
  have hk : k ≠ .text key := fun hk => hne ⟨hs, hk⟩
  exact ⟨_, viewRemove_map k (some es), (column?_without hk es).trans hes⟩

theorem facts_clear_of_ne (h : facts st scope key = some v) {s : String} (hne : s ≠ scope) :
    facts (clear st s).1 scope key = some v :=
  (clear_worksOn s).facts_eq h fun hs => absurd hs hne

/-! ## Requests -/

mutual

/-- A request removes or clears an entry or writes over it, itself or in its computation. -/
def Request.Disturbs (scope key : String) (st : Storage) (s : String) : Request → Prop
  | .set k _ | .remove k => s = scope ∧ k = .text key
  | .clear => s = scope
  | .compute k c => lookup st s k = .ok none ∧ c.Disturbs scope key st
  | .has _ | .get _ _ | .describe => False

/-- A computation comes to make a request that does so. -/
def Computation.Disturbs (scope key : String) (st : Storage) : Computation → Prop
  | .done _ => False
  | .ask s r next => r.Disturbs scope key st s ∨
      (next (perform st s r).2).Disturbs scope key (perform st s r).1

end

mutual

/-- An entry stays unless a request disturbs it. -/
theorem facts_perform {s : String} : ∀ {r : Request} {st : Storage},
    facts st scope key = some v → ¬ r.Disturbs scope key st s →
    facts (perform st s r).1 scope key = some v
  | .has _, _, h, _ => h
  | .get _ _, _, h, _ => h
  | .describe, _, h, _ => h
  | .set _ w, _, h, hr => facts_set_of_ne h hr w
  | .remove _, _, h, hr => facts_remove_of_ne h hr
  | .clear, _, h, hr => facts_clear_of_ne h hr
  | .compute k c, st, h, hr => by
    rw [perform_compute]
    rcases hlookup : lookup st s k with f | _ | w
    · exact h
    · have hc := facts_run h fun hc => hr ⟨hlookup, hc⟩
      -- the key that is computed was missing, so it is not that of the entry
      have hne : ¬ (s = scope ∧ k = .text key) := by
        rintro ⟨rfl, rfl⟩
        rw [lookup_of_facts h] at hlookup
        cases hlookup
      dsimp only
      rcases (c.run st).2 with e | w
      · exact hc
      · exact facts_set_of_ne hc hne w
    · exact h

theorem facts_run : ∀ {c : Computation} {st : Storage},
    facts st scope key = some v → ¬ c.Disturbs scope key st →
    facts (c.run st).1 scope key = some v
  | .done _, _, h, _ => h
  | .ask s r next, st, h, hc => by
    rw [run_ask]
    exact facts_run (facts_perform h fun hr => hc (.inl hr)) fun hn => hc (.inr hn)

end

/-! ## Scopes that take entries -/

/-- A scope has no place in a storage, or a mapping in its place. -/
def Ready (scope : String) (st : Storage) : Prop :=
  ∃ es : Option Row, view st scope = .ok (es.map .map)

theorem set_of_ready (h : Ready scope st) (key : String) (v : Value) :
    (set st scope (.text key) v).2 = .ok () := by
  obtain ⟨es, hes⟩ := h
  rw [(set_worksOn scope (.text key) v).answer_eq, hes]
  unfold setAnswer
  dsimp only
  rw [assign_text]
  rfl

/-- An operation leaves a scope ready that it does not fill with something else. -/
theorem WorksOn.ready {s : String} {op : Storage → Storage × Except Fault Unit}
    {answer : Except Value (Option Value) → Except Fault Unit} {next : Option Value → Option Value}
    (hop : WorksOn s op answer next)
    (hnext : ∀ es : Option Row, ∃ es' : Option Row, next (es.map .map) = es'.map .map)
    (h : Ready scope st) : Ready scope (op st).1 := by
  obtain ⟨es, hview⟩ := h
  by_cases hs : scope = s
  · subst hs
    obtain ⟨es', hes'⟩ := hnext es
    refine ⟨es', ?_⟩
    rw [hop.view_eq, hview, ← hes']
    rfl
  · exact ⟨es, ((hop.outside st).view_eq hs).trans hview⟩

/-- Whatever is asked of the caches over a storage, a scope that is ready stays so. -/
theorem ready_kept (scope : String) :
    Kept (fun _ _ => True) fun st st' => Ready scope st → Ready scope st' where
  refl _ h := h
  trans h h' hst := h' (h hst)
  set _ hst := (set_worksOn _ _ _).ready (fun es => ⟨some _, viewSet_map _ _ es⟩) hst
  remove _ hst := (remove_worksOn _ _).ready (fun es => ⟨_, viewRemove_map _ es⟩) hst
  clear _ hst := (clear_worksOn _).ready (fun _ => ⟨none, rfl⟩) hst
  computed _ hst := (set_worksOn _ _ _).ready (fun es => ⟨some _, viewSet_map _ _ es⟩) hst

theorem ready_perform (h : Ready scope st) (s : String) (r : Request) :
    Ready scope (perform st s r).1 :=
  (ready_kept scope).perform st s (r.every fun _ _ => trivial) h

end SqlDesk.Session
