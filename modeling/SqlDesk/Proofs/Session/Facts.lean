import SqlDesk.Proofs.Session.Request

/-!
# One mapping for all scopes

Over a storage whose cache is in order, the caches of all logins are one mapping from scope and key
to value: every request is answered as that mapping would answer it, also the requests that a
computation makes while its own request waits for it. What the levels of the storage add to the
mapping, places made for entries and nulls in place of entries, is never seen.
-/

namespace SqlDesk.Session

/-- What is known under a scope and a key. -/
abbrev Facts := String → String → Option Value

namespace Facts

/-- A value under a scope and a key. -/
def put (A : Facts) (scope key : String) (v : Value) : Facts := fun s k =>
  if s = scope ∧ k = key then some v else A s k

/-- Nothing under a scope and a key. -/
def remove (A : Facts) (scope key : String) : Facts := fun s k =>
  if s = scope ∧ k = key then none else A s k

/-- Nothing under a scope. -/
def clear (A : Facts) (scope : String) : Facts := fun s k => if s = scope then none else A s k

mutual

/-- The mapping after a request, and the answer. -/
def perform (A : Facts) (scope : String) : Request → Facts × Except Error Value
  | .has key => (A, .ok (.bool (A scope key.plain).isSome))
  | .get key default => (A, .ok ((A scope key.plain).getD default))
  | .set key value => (A.put scope key.plain value, .ok .null)
  | .remove key => (A.remove scope key.plain, .ok .null)
  | .clear => (A.clear scope, .ok .null)
  | .compute key c =>
    match A scope key.plain with
    | some v => (A, .ok v)
    | none =>
      match compute A c with
      | (A, .error e) => (A, .error e)
      | (A, .ok v) => (A.put scope key.plain v, .ok v)
  | .describe => (A, .ok (.text (describe scope)))

/-- The mapping after a computation, and its outcome. -/
def compute (A : Facts) : Computation → Facts × Except Error Value
  | .done outcome => (A, outcome)
  | .ask scope r next =>
    let (A, answer) := perform A scope r
    compute A (next answer)

end

/-- A computation is run for a key that is missing. -/
def computes (A : Facts) (scope : String) : Request → Bool
  | .compute key _ => (A scope key.plain).isNone
  | _ => false

/-- The mapping after requests of logins, and what they show. -/
def run (A : Facts) : List (Login × Request) → Facts × List Shown
  | [] => (A, [])
  | (l, r) :: steps =>
    let (A', answer) := A.perform l.scope r
    let (A'', rest) := run A' steps
    (A'', ⟨answer, A.computes l.scope r⟩ :: rest)

end Facts

/-- The mapping that a storage stands for. -/
def facts (st : Storage) : Facts := fun scope key =>
  match view st scope with
  | .ok (some (.map es)) => Row.column? es key
  | _ => none

/-- The cache of a storage is missing, null or a mapping from scopes to mappings or nulls. -/
structure Orderly (st : Storage) : Prop where
  cache : ∀ v, present (Assoc.get? st rootKey) = some v → ∃ scopes, v = .map scopes
  entries : ∀ scopes : Row, Assoc.get? st rootKey = some (.map scopes) → ∀ scope v,
    present (scopes.column? scope) = some v → ∃ es, v = .map es

/-! ## Storages in order -/

theorem Orderly.view_eq {st : Storage} (h : Orderly st) (scope : String) :
    ∃ es : Option Row, view st scope = .ok (es.map .map) := by
  rcases root_cases st with ⟨-, hroot⟩ | ⟨scopes, hv, hroot⟩ | ⟨v, hv, -, hne⟩
  · exact ⟨none, view_of_ok hroot scope⟩
  · rw [view_of_ok hroot]
    rcases hplace : present (scopes.column? scope) with _ | v
    · exact ⟨none, rfl⟩
    · obtain ⟨es, rfl⟩ := h.entries scopes hv scope v hplace
      exact ⟨some es, rfl⟩
  · obtain ⟨scopes, rfl⟩ := h.cache v hv
    exact absurd rfl (hne scopes)

theorem Orderly.of_view {st : Storage}
    (h : ∀ scope, ∃ es : Option Row, view st scope = .ok (es.map .map)) : Orderly st where
  cache v hv := by
    by_contra hne
    obtain ⟨es, hview⟩ := h ""
    rcases root_cases st with ⟨habsent, -⟩ | ⟨scopes, hscopes, -⟩ | ⟨w, -, hroot, -⟩
    · rw [habsent] at hv
      cases hv
    · rw [hscopes, present_map] at hv
      exact hne ⟨scopes, (Option.some.inj hv).symm⟩
    · rw [view_of_error hroot] at hview
      cases hview
  entries scopes hscopes scope v hv := by
    obtain ⟨es, hview⟩ := h scope
    rw [view_of_ok (root_of_get? hscopes), hv] at hview
    rcases es with _ | es
    · cases hview
    · exact ⟨es, Option.some.inj (Except.ok.inj hview)⟩

theorem facts_of_view {st : Storage} {scope : String} {es : Option Row}
    (h : view st scope = .ok (es.map .map)) (key : String) :
    facts st scope key = es.bind fun es => Row.column? es key := by
  unfold facts
  rw [h]
  rcases es with _ | es <;> rfl

/-- What an operation on a scope does to a storage in order, given the entries that it leaves. -/
theorem WorksOn.orderly {scope : String} {op : Storage → Storage × Except Fault Unit}
    {answer : Except Value (Option Value) → Except Fault Unit} {next : Option Value → Option Value}
    (hop : WorksOn scope op answer next) {st : Storage} (h : Orderly st) {es es' : Option Row}
    (hes : view st scope = .ok (es.map .map)) (hnext : next (es.map .map) = es'.map .map) :
    Orderly (op st).1 ∧ facts (op st).1 = fun s k =>
      if s = scope then es'.bind (fun es => Row.column? es k) else facts st s k := by
  have hview : view (op st).1 scope = .ok (es'.map .map) := by
    rw [hop.view_eq, hes, ← hnext]
    rfl
  have hother (s : String) (hs : s ≠ scope) : view (op st).1 s = view st s :=
    (hop.outside st).view_eq hs
  constructor
  · refine .of_view fun s => ?_
    by_cases hs : s = scope
    · exact ⟨es', hs ▸ hview⟩
    · rw [hother s hs]
      exact h.view_eq s
  · funext s k
    by_cases hs : s = scope
    · rw [if_pos hs, hs, facts_of_view hview]
    · rw [if_neg hs]
      unfold facts
      rw [hother s hs]

theorem assign_text (es : Option Row) (key : String) (v : Value) :
    assign ((es.map Value.map).getD (.map [])) (.text key) v =
      .ok (.map (Row.put (es.getD []) key v)) := by
  rcases es with _ | es <;> rfl

theorem set_orderly {st : Storage} (h : Orderly st) (scope key : String) (v : Value) :
    (set st scope (.text key) v).2 = .ok () ∧ Orderly (set st scope (.text key) v).1 ∧
      facts (set st scope (.text key) v).1 = (facts st).put scope key v := by
  obtain ⟨es, hes⟩ := h.view_eq scope
  have hop := set_worksOn scope (.text key) v
  have hnext : viewSet (.text key) v (es.map .map) =
      (some (Row.put (es.getD []) key v)).map .map := by
    unfold viewSet
    rw [assign_text]
    rfl
  obtain ⟨horderly, hfacts⟩ := hop.orderly h hes hnext
  refine ⟨?_, horderly, hfacts.trans ?_⟩
  · rw [hop.answer_eq st, hes]
    unfold setAnswer
    dsimp only
    rw [assign_text]
    rfl
  · funext s k
    unfold Facts.put
    by_cases hs : s = scope
    · rw [if_pos hs, hs, facts_of_view hes, Option.bind_some, Row.column?_put]
      by_cases hk : key = k
      · rw [if_pos hk, if_pos ⟨rfl, hk.symm⟩]
      · rw [if_neg hk, if_neg fun hsk => hk hsk.2.symm]
        rcases es with _ | es <;> rfl
    · rw [if_neg hs, if_neg fun hsk => hs hsk.1]

theorem remove_orderly {st : Storage} (h : Orderly st) (scope key : String) :
    (remove st scope (.text key)).2 = .ok () ∧ Orderly (remove st scope (.text key)).1 ∧
      facts (remove st scope (.text key)).1 = (facts st).remove scope key := by
  obtain ⟨es, hes⟩ := h.view_eq scope
  have hop := remove_worksOn scope (.text key)
  have htake (es : Row) : takeOut (.text key) (.map es) = .ok (.map (es.erase key)) :=
    takeOut_map rfl es
  have hnext : viewRemove (.text key) (es.map .map) = (es.map (·.erase key)).map .map := by
    rcases es with _ | es
    · rfl
    · unfold viewRemove
      rw [Option.map_some, Option.map_some, htake]
      rfl
  obtain ⟨horderly, hfacts⟩ := hop.orderly h hes hnext
  refine ⟨?_, horderly, hfacts.trans ?_⟩
  · rw [hop.answer_eq st, hes]
    rcases es with _ | es
    · rfl
    · unfold removeAnswer
      rw [Option.map_some]
      dsimp only
      rw [htake]
      rfl
  · funext s k
    unfold Facts.remove
    by_cases hs : s = scope
    · rw [if_pos hs, hs, facts_of_view hes]
      rcases es with _ | es
      · simp
      · rw [Option.map_some, Option.bind_some, Option.bind_some, Row.column?_erase]
        by_cases hk : key = k
        · rw [if_pos hk, if_pos ⟨rfl, hk.symm⟩]
        · rw [if_neg hk, if_neg fun hsk => hk hsk.2.symm]
    · rw [if_neg hs, if_neg fun hsk => hs hsk.1]

theorem clear_orderly {st : Storage} (h : Orderly st) (scope : String) :
    (clear st scope).2 = .ok () ∧ Orderly (clear st scope).1 ∧
      facts (clear st scope).1 = (facts st).clear scope := by
  obtain ⟨es, hes⟩ := h.view_eq scope
  have hop := clear_worksOn scope
  have hnext : (fun _ : Option Value => (none : Option Value)) (es.map .map) =
      (none : Option Row).map .map := rfl
  obtain ⟨horderly, hfacts⟩ := hop.orderly h hes hnext
  refine ⟨?_, horderly, hfacts⟩
  rw [hop.answer_eq st, hes]
  rfl

theorem lookup_orderly {st : Storage} (h : Orderly st) (scope key : String) :
    lookup st scope (.text key) = .ok (facts st scope key) := by
  obtain ⟨es, hes⟩ := h.view_eq scope
  unfold lookup
  rw [entries_eq, facts_of_view hes, hes]
  rcases es with _ | es <;> rfl

theorem has_orderly {st : Storage} (h : Orderly st) (scope key : String) :
    has st scope (.text key) = .ok (facts st scope key).isSome := by
  obtain ⟨es, hes⟩ := h.view_eq scope
  unfold has
  rw [entries_eq, facts_of_view hes, hes]
  rcases es with _ | es
  · rfl
  · show Except.ok (Assoc.has es (.text key)) = .ok (Row.column? es key).isSome
    unfold Assoc.has Row.column? Assoc.get?
    rw [Option.isSome_map, List.isSome_find?]

/-- A missing key is removed by doing nothing. -/
theorem remove_of_facts_none {st : Storage} (h : Orderly st) {scope key : String}
    (hkey : facts st scope key = none) : remove st scope (.text key) = (st, .ok ()) := by
  obtain ⟨es, hes⟩ := h.view_eq scope
  rw [facts_of_view hes] at hkey
  unfold remove
  rw [entries_eq, hes]
  rcases es with _ | es
  · rfl
  · rw [Option.map_some]
    dsimp only [Except.mapError]
    rw [takeOut_map rfl]
    dsimp only
    have hself : Assoc.erase es (.text key) = es := Row.erase_of_column?_eq_none hkey
    rw [hself, replace_self hes]

/-! ## Requests -/

/-- The key that a request is about. -/
def Request.key? : Request → Option Value
  | .has key | .get key _ | .set key _ | .remove key | .compute key _ => some key
  | .clear | .describe => none

/-- A request is about a text, if it is about a key. -/
def Textual (_ : String) (r : Request) : Prop := ∀ key, r.key? = some key → ∃ name, key = .text name

/-- A turn at a storage in order is one at the mapping that it stands for. -/
structure Agrees {α : Type} (x : Storage × α) (y : Facts × α) : Prop where
  orderly : Orderly x.1
  facts_eq : facts x.1 = y.1
  answer_eq : x.2 = y.2

theorem lookup_agrees {st : Storage} (h : Orderly st) (scope : String) {key : Value}
    (hkey : ∃ name, key = .text name) : lookup st scope key = .ok (facts st scope key.plain) := by
  obtain ⟨name, rfl⟩ := hkey
  exact lookup_orderly h scope name

theorem set_agrees {st : Storage} (h : Orderly st) (scope : String) {key : Value}
    (hkey : ∃ name, key = .text name) (v answer : Value) :
    Agrees ((set st scope key v).1, (fun _ => answer) <$> Error.ofFault (set st scope key v).2)
      ((facts st).put scope key.plain v, .ok answer) := by
  obtain ⟨name, rfl⟩ := hkey
  obtain ⟨hset, horderly, hfacts⟩ := set_orderly h scope name v
  exact ⟨horderly, hfacts, by rw [hset]; rfl⟩

mutual

theorem perform_agrees {scope : String} : ∀ {r : Request} {st : Storage}, r.Every Textual scope →
    Orderly st → Agrees (perform st scope r) ((facts st).perform scope r)
  | .has key, st, hr, h => by
    obtain ⟨name, rfl⟩ := hr _ rfl
    refine ⟨h, rfl, ?_⟩
    rw [perform, has_orderly h]
    rfl
  | .get key default, st, hr, h => by
    refine ⟨h, rfl, ?_⟩
    rw [perform, Session.get, lookup_agrees h scope (hr _ rfl)]
    rfl
  | .set key value, st, hr, h => set_agrees h scope (hr _ rfl) value .null
  | .remove key, st, hr, h => by
    obtain ⟨name, rfl⟩ := hr _ rfl
    obtain ⟨hremove, horderly, hfacts⟩ := remove_orderly h scope name
    refine ⟨horderly, hfacts, ?_⟩
    show (fun _ => Value.null) <$> Error.ofFault (remove st scope (.text name)).2 = _
    rw [hremove]
    rfl
  | .clear, st, _, h => by
    obtain ⟨hclear, horderly, hfacts⟩ := clear_orderly h scope
    refine ⟨horderly, hfacts, ?_⟩
    show (fun _ => Value.null) <$> Error.ofFault (clear st scope).2 = _
    rw [hclear]
    rfl
  | .describe, st, _, h => ⟨h, rfl, rfl⟩
  | .compute key c, st, hr, h => by
    have hkey := hr.1 _ rfl
    -- what a computation asks of the caches is the other half of the induction
    have hc := run_agrees hr.2 h
    rw [perform_compute, Facts.perform, lookup_agrees h scope hkey]
    rcases facts st scope key.plain with _ | v
    · -- the value is written into what the computation leaves, not into what it found
      dsimp only
      rcases hcompute : (facts st).compute c with ⟨A, outcome⟩
      rw [hcompute] at hc
      rw [hc.answer_eq]
      rcases outcome with e | v
      · exact ⟨hc.orderly, hc.facts_eq, rfl⟩
      · have hset := set_agrees hc.orderly scope hkey v v
        rw [hc.facts_eq] at hset
        exact hset
    · exact ⟨h, rfl, rfl⟩

theorem run_agrees : ∀ {c : Computation} {st : Storage}, c.Every Textual → Orderly st →
    Agrees (c.run st) ((facts st).compute c)
  | .done _, _, _, h => ⟨h, rfl, rfl⟩
  | .ask scope r next, st, hc, h => by
    have hr := perform_agrees hc.1 h
    have hrest := run_agrees (hc.2 (perform st scope r).2) hr.orderly
    rw [run_ask, Facts.compute]
    rw [hr.facts_eq, hr.answer_eq] at hrest
    rw [hr.answer_eq]
    exact hrest

end

theorem computes_agrees {st : Storage} (h : Orderly st) {scope : String} {r : Request}
    (hr : r.Every Textual scope) : computes st scope r = (facts st).computes scope r := by
  cases r with
  | compute key c =>
    unfold computes Facts.computes
    dsimp only
    rw [lookup_agrees h scope (hr.1 _ rfl)]
    rcases facts st scope key.plain with _ | v <;> rfl
  | _ => rfl

/-! ## Runs -/

theorem run_cons (st : Storage) (l : Login) (r : Request) (steps : List (Login × Request)) :
    run st ((l, r) :: steps) =
      ((run (perform st l.scope r).1 steps).1,
        ⟨(perform st l.scope r).2, computes st l.scope r⟩ ::
          (run (perform st l.scope r).1 steps).2) := by
  rw [run, step]

/-- All requests of a run satisfy `P` together with the scopes that they ask. -/
def EveryStep (P : String → Request → Prop) (steps : List (Login × Request)) : Prop :=
  ∀ s ∈ steps, s.2.Every P s.1.scope

theorem Kept.runs {P : String → Request → Prop} {R : Storage → Storage → Prop} (hR : Kept P R)
    {steps : List (Login × Request)} (hsteps : EveryStep P steps) (st : Storage) :
    R st (Session.run st steps).1 := by
  induction steps generalizing st with
  | nil => exact hR.refl st
  | cons s steps ih =>
    obtain ⟨l, r⟩ := s
    obtain ⟨hr, hrest⟩ := List.forall_mem_cons.mp hsteps
    rw [run_cons]
    exact hR.trans (hR.perform st l.scope hr) (ih hrest _)

theorem runs_agree {steps : List (Login × Request)} (hsteps : EveryStep Textual steps)
    {st : Storage} (h : Orderly st) : Agrees (run st steps) ((facts st).run steps) := by
  induction steps generalizing st with
  | nil => exact ⟨h, rfl, rfl⟩
  | cons s steps ih =>
    obtain ⟨l, r⟩ := s
    obtain ⟨hr, hrest⟩ := List.forall_mem_cons.mp hsteps
    have hperform := perform_agrees hr h
    have hruns := ih hrest hperform.orderly
    rw [hperform.facts_eq] at hruns
    rw [run_cons, Facts.run]
    refine ⟨hruns.orderly, hruns.facts_eq, ?_⟩
    dsimp only
    rw [hperform.answer_eq, computes_agrees h hr, hruns.answer_eq]

/-- A request leaves a key of a scope where it is. -/
def Spares (scope key : String) (s : String) (r : Request) : Prop :=
  s = scope → r ≠ .clear ∧ r ≠ .remove (.text key)

/-- The storage stays in order, and a key that it has under a scope stays there. -/
def Retains (scope key : String) (st st' : Storage) : Prop :=
  Orderly st → Orderly st' ∧ (facts st scope key ≠ none → facts st' scope key ≠ none)

theorem retains_set (scope key : String) {st : Storage} {s : String} {k : Value} (v : Value)
    (hk : ∃ name, k = .text name) : Retains scope key st (set st s k v).1 := by
  intro h
  obtain ⟨name, rfl⟩ := hk
  obtain ⟨-, horderly, hfacts⟩ := set_orderly h s name v
  refine ⟨horderly, fun hkey => ?_⟩
  rw [hfacts]
  unfold Facts.put
  split
  · exact Option.some_ne_none v
  · exact hkey

theorem retains_kept (scope key : String) :
    Kept (fun s r => Textual s r ∧ Spares scope key s r) (Retains scope key) where
  refl _ h := ⟨h, id⟩
  trans h h' hst := ⟨(h' (h hst).1).1, (h' (h hst).1).2 ∘ (h hst).2⟩
  set h := retains_set scope key _ (h.1 _ rfl)
  computed h := retains_set scope key _ (h.1 _ rfl)
  remove {st s k} h hst := by
    obtain ⟨name, rfl⟩ := h.1 _ rfl
    obtain ⟨-, horderly, hfacts⟩ := remove_orderly hst s name
    refine ⟨horderly, fun hkey => ?_⟩
    rw [hfacts]
    unfold Facts.remove
    rw [if_neg]
    · exact hkey
    · rintro ⟨rfl, rfl⟩
      exact (h.2 rfl).2 rfl
  clear {st s} h hst := by
    obtain ⟨-, horderly, hfacts⟩ := clear_orderly hst s
    refine ⟨horderly, fun hkey => ?_⟩
    rw [hfacts]
    unfold Facts.clear
    rw [if_neg]
    · exact hkey
    · rintro rfl
      exact (h.2 rfl).1 rfl

/-! ## The mapping along a run -/

/-- Requests at a storage that need not change it do not change it. -/
structure Sparing (st : Storage) : Prop where
  reading : ∀ scope key default, (perform st scope (.has key)).1 = st ∧
    (perform st scope (.get key default)).1 = st
  removing : ∀ scope key, facts st scope key = none →
    perform st scope (.remove (.text key)) = (st, .ok .null)
  clearing : ∀ scope, place st scope = .ok none → perform st scope .clear = (st, .ok .null)
  /-- A key that is there is not computed, whatever it holds. -/
  known : ∀ scope key v c, facts st scope key = some v →
    perform st scope (.compute (.text key) c) = (st, .ok v)
  /-- Of a computation that fails nothing is stored but what it stored itself. -/
  failing : ∀ scope key c e, facts st scope key = none → (c.run st).2 = .error e →
    perform st scope (.compute (.text key) c) = ((c.run st).1, .error e)

theorem Orderly.sparing {st : Storage} (h : Orderly st) : Sparing st where
  reading _ _ _ := ⟨rfl, rfl⟩
  removing scope key hkey := by
    rw [perform, remove_of_facts_none h hkey]
    rfl
  clearing scope hscope := by
    rw [perform, clear_of_place_none hscope]
    rfl
  known scope key v c hkey := by
    rw [perform_compute, lookup_orderly h, hkey]
  failing scope key c e hkey hc := by
    rw [perform_compute, lookup_orderly h, hkey, hc]

/-- The caches over a storage are one mapping along a run of requests. -/
structure OneMapping (st : Storage) (steps : List (Login × Request)) : Prop where
  /-- Every request is answered, and runs its computation, as it would with the mapping. -/
  shown : (run st steps).2 = ((facts st).run steps).2
  /-- The storage afterwards stands for the mapping afterwards. -/
  facts_eq : facts (run st steps).1 = ((facts st).run steps).1
  orderly : Orderly (run st steps).1
  sparing : Sparing (run st steps).1
  /-- Outside of the cache, and in it under scopes that are not asked, all is as before. -/
  outside : ∀ inside, EveryStep (fun scope _ => inside scope) steps →
    SameOutside inside st (run st steps).1
  /-- A key that is there stays until it is removed or its scope is cleared. -/
  retained : ∀ scope key, EveryStep (Spares scope key) steps → facts st scope key ≠ none →
    facts (run st steps).1 scope key ≠ none

theorem run_one_mapping {st : Storage} (h : Orderly st) {steps : List (Login × Request)}
    (hsteps : EveryStep Textual steps) : OneMapping st steps := by
  have hruns := runs_agree hsteps h
  refine ⟨hruns.answer_eq, hruns.facts_eq, hruns.orderly, hruns.orderly.sparing, ?_, ?_⟩
  · intro inside hinside
    exact (sameOutside_kept inside).runs hinside st
  · intro scope key hspares hkey
    have hboth : EveryStep (fun s r => Textual s r ∧ Spares scope key s r) steps :=
      fun s hs => (hsteps s hs).and (hspares s hs)
    exact ((retains_kept scope key).runs hboth st h).2 hkey

/-- A scope that is null, and one with a value that is null. -/
def sharedScopes : Row := Row.ofFacts
  [("server_db1/alice", .null), ("server_db1/bob", .map (Row.ofFacts [("role", .null)]))]

/-- A storage with these scopes and another entry. -/
def sharedStorage : Storage := Row.ofFacts [("cache", .map sharedScopes), ("theme", .text "dark")]

/-- A computation that leaves a note with another login and fails. -/
def failingComputation : Computation :=
  .ask (Login.scope ⟨"db1", "bob"⟩) (.set (.text "note") (.int 1)) fun _ =>
    .done (.error (.raised "RuntimeError" "no answer"))

/-- Two logins in turns. -/
def sharedSteps : List (Login × Request) :=
  [(⟨"db1", "alice"⟩, .compute (.text "role") failingComputation),
   (⟨"db1", "bob"⟩, .compute (.text "role") failingComputation),
   (⟨"db1", "alice"⟩, .compute (.text "role") (.done (.ok (.bool false)))),
   (⟨"db1", "bob"⟩, .get (.text "note") .null),
   (⟨"db1", "bob"⟩, .clear),
   (⟨"db1", "alice"⟩, .has (.text "role"))]

theorem get?_sharedStorage : Assoc.get? sharedStorage rootKey = some (.map sharedScopes) := rfl

theorem sharedStorage_orderly : Orderly sharedStorage where
  cache v hv := by
    rw [get?_sharedStorage, present_map] at hv
    exact ⟨sharedScopes, (Option.some.inj hv).symm⟩
  entries scopes hscopes scope v hv := by
    rw [get?_sharedStorage] at hscopes
    obtain rfl := Value.map.inj (Option.some.inj hscopes)
    simp only [sharedScopes, Row.ofFacts, Row.column?, List.map_cons, List.map_nil,
      Assoc.get?_cons, Assoc.get?_nil, Value.beq_text] at hv
    split at hv
    · cases hv
    · split at hv
      · exact ⟨_, (Option.some.inj hv).symm⟩
      · cases hv

theorem sharedSteps_textual : EveryStep Textual sharedSteps := by
  simp [sharedSteps, failingComputation, EveryStep, Request.Every, Computation.Every, Textual,
    Request.key?]

theorem shared_storage_one_mapping : Orderly sharedStorage ∧ EveryStep Textual sharedSteps ∧
    OneMapping sharedStorage sharedSteps ∧
    (run sharedStorage sharedSteps).2.map (·.computed) =
      [true, false, true, false, false, false] :=
  ⟨sharedStorage_orderly, sharedSteps_textual,
    run_one_mapping sharedStorage_orderly sharedSteps_textual, rfl⟩

end SqlDesk.Session
