import SqlDesk.Proofs.Except
import SqlDesk.Proofs.Value
import SqlDesk.Session.Request

/-!
# What a scope shows

An operation of a session cache sees of the storage what stands under its scope: whether the cache
is a mapping at all and, if it is, the entries that are there. Its answer, and what the scope shows
after it, are functions of what the scope shows before, and outside of the scope it changes nothing.
This holds for every storage, also for one whose cache is something else than it should be.
-/

namespace SqlDesk.Session

/-- The scopes of a storage, none if it has no cache. A cache that is no mapping is a failure. -/
def root (st : Storage) : Except Value Row :=
  match present (Assoc.get? st rootKey) with
  | none => .ok []
  | some (.map scopes) => .ok scopes
  | some v => .error v

/-- What is written under a scope. -/
def place (st : Storage) (scope : String) : Except Value (Option Value) :=
  (·.column? scope) <$> root st

/-- The entries of a scope, if there are any. -/
def view (st : Storage) (scope : String) : Except Value (Option Value) := present <$> place st scope

/-- The storage with other scopes. -/
def withScopes (st : Storage) (scopes : Row) : Storage := Assoc.put st rootKey (.map scopes)

@[simp] theorem present_map (es : Row) : present (some (.map es)) = some (.map es) := rfl

theorem present_eq_some {o : Option Value} {v : Value} (h : present o = some v) : o = some v := by
  unfold present at h
  split at h
  · cases h
  · cases h
  · exact h

theorem root_of_get? {st : Storage} {scopes : Row}
    (h : Assoc.get? st rootKey = some (.map scopes)) : root st = .ok scopes := by
  unfold root
  rw [h]
  rfl

@[simp] theorem get?_withScopes (st : Storage) (scopes : Row) :
    Assoc.get? (withScopes st scopes) rootKey = some (.map scopes) := by
  show Row.column? (Row.put st "cache" (.map scopes)) "cache" = _
  rw [Row.column?_put, if_pos rfl]

@[simp] theorem root_withScopes (st : Storage) (scopes : Row) :
    root (withScopes st scopes) = .ok scopes := root_of_get? (get?_withScopes st scopes)

@[simp] theorem erase_withScopes (st : Storage) (scopes : Row) :
    Assoc.erase (withScopes st scopes) rootKey = Assoc.erase st rootKey :=
  Row.erase_put st "cache" (.map scopes)

/-- A storage has no cache, or a mapping for one, or something else. -/
theorem root_cases (st : Storage) :
    present (Assoc.get? st rootKey) = none ∧ root st = .ok [] ∨
      (∃ scopes : Row, Assoc.get? st rootKey = some (.map scopes) ∧ root st = .ok scopes) ∨
      ∃ v, present (Assoc.get? st rootKey) = some v ∧ root st = .error v ∧ ∀ es, v ≠ .map es := by
  unfold root
  rcases h : present (Assoc.get? st rootKey) with _ | v
  · exact .inl ⟨rfl, rfl⟩
  · by_cases hv : ∃ scopes, v = .map scopes
    · obtain ⟨scopes, rfl⟩ := hv
      exact .inr (.inl ⟨scopes, present_eq_some h, rfl⟩)
    · refine .inr (.inr ⟨v, rfl, ?_, fun es hes => hv ⟨es, hes⟩⟩)
      split
      · cases ‹some v = none›
      · exact absurd ⟨_, Option.some.inj ‹_›⟩ hv
      · rw [Option.some.inj ‹some v = some _›]

theorem view_of_ok {st : Storage} {scopes : Row} (h : root st = .ok scopes) (scope : String) :
    view st scope = .ok (present (scopes.column? scope)) := by
  unfold view place
  rw [h]
  rfl

theorem view_of_error {st : Storage} {v : Value} (h : root st = .error v) (scope : String) :
    view st scope = .error v := by
  unfold view place
  rw [h]
  rfl

theorem root_of_view {st : Storage} {scope : String} {v : Value} (h : view st scope = .error v) :
    root st = .error v := by
  rcases hroot : root st with w | scopes
  · rw [view_of_error hroot] at h
    rw [Except.error.inj h]
  · rw [view_of_ok hroot] at h
    cases h

theorem asMap_of_ne {v : Value} (h : ∀ es, v ≠ .map es) : asMap v = .error .unknownMember := by
  cases v with
  | map es => exact absurd rfl (h es)
  | _ => rfl

/-- Reading sees what the scope shows. -/
theorem entries_eq (st : Storage) (scope : String) :
    entries st scope = (view st scope).mapError fun _ => .unknownMember := by
  unfold entries
  rcases root_cases st with ⟨hv, hroot⟩ | ⟨scopes, hv, hroot⟩ | ⟨v, hv, hroot, hne⟩
  · rw [hv, view_of_ok hroot]
    rfl
  · rw [hv, view_of_ok hroot]
    rfl
  · rw [hv, view_of_error hroot]
    show (asMap v >>= _) = _
    rw [asMap_of_ne hne]
    rfl

/-! ## Outside of scopes -/

/-- Two storages hold the same outside of the cache, and in it under all scopes but those inside. -/
structure SameOutside (inside : String → Prop) (st st' : Storage) : Prop where
  others : Assoc.erase st' rootKey = Assoc.erase st rootKey
  places : ∀ scope, ¬ inside scope → place st' scope = place st scope

namespace SameOutside

variable {inside : String → Prop} {st st' st'' : Storage}

theorem refl (st : Storage) : SameOutside inside st st := ⟨rfl, fun _ _ => rfl⟩

theorem trans (h : SameOutside inside st st') (h' : SameOutside inside st' st'') :
    SameOutside inside st st'' where
  others := h'.others.trans h.others
  places scope hscope := (h'.places scope hscope).trans (h.places scope hscope)

theorem mono {inside' : String → Prop} (h : SameOutside inside st st')
    (hi : ∀ scope, inside scope → inside' scope) : SameOutside inside' st st' where
  others := h.others
  places scope hscope := h.places scope fun hin => hscope (hi scope hin)

theorem view_eq (h : SameOutside inside st st') {scope : String} (hscope : ¬ inside scope) :
    view st' scope = view st scope := by
  unfold view
  rw [h.places scope hscope]

theorem withScopes {scopes scopes' : Row} (hroot : root st = .ok scopes)
    (h : ∀ scope, ¬ inside scope → scopes'.column? scope = scopes.column? scope) :
    SameOutside inside st (withScopes st scopes') where
  others := erase_withScopes st scopes'
  places scope hscope := by
    unfold place
    rw [root_withScopes, hroot]
    exact congrArg Except.ok (h scope hscope)

end SameOutside

/-! ## The place of a scope -/

/-- A storage has the entries `es` in the place of a scope, and is otherwise as another one. -/
structure Placed (scope : String) (es : Value) (st st' : Storage) : Prop where
  scopes : ∃ scopes : Row, Assoc.get? st' rootKey = some (.map scopes)
  view_eq : view st' scope = .ok (some es)
  outside : SameOutside (· = scope) st st'

/-- Entries that a scope shows have a place. -/
theorem placed_self {st : Storage} {scope : String} {es : Value}
    (h : view st scope = .ok (some es)) : Placed scope es st st := by
  refine ⟨?_, h, .refl st⟩
  rcases root_cases st with ⟨-, hroot⟩ | ⟨scopes, hv, -⟩ | ⟨v, -, hroot, -⟩
  · rw [view_of_ok hroot] at h
    cases h
  · exact ⟨scopes, hv⟩
  · rw [view_of_error hroot] at h
    cases h

theorem placed_put {st : Storage} {scopes : Row} (hroot : root st = .ok scopes) (scope : String)
    {es : Value} (h : present (some es) = some es) :
    Placed scope es st (withScopes st (scopes.put scope es)) where
  scopes := ⟨_, get?_withScopes st _⟩
  view_eq := by
    rw [view_of_ok (root_withScopes st _), Row.column?_put, if_pos rfl, h]
  outside := .withScopes hroot fun s hs => by rw [Row.column?_put, if_neg (Ne.symm hs)]

theorem replace_of_scopes {st : Storage} {scopes : Row}
    (h : Assoc.get? st rootKey = some (.map scopes)) (scope : String) (es : Value) :
    replace st scope es = withScopes st (scopes.put scope es) := by
  unfold replace
  rw [h]
  rfl

/-- Entries that have a place are replaced there. -/
theorem Placed.replace {scope : String} {es es' : Value} {st st' : Storage}
    (h : Placed scope es st st') (hes' : present (some es') = some es') :
    Placed scope es' st (replace st' scope es') := by
  obtain ⟨scopes, hscopes⟩ := h.scopes
  have hput := placed_put (root_of_get? hscopes) scope hes'
  rw [replace_of_scopes hscopes]
  exact ⟨hput.scopes, hput.view_eq, h.outside.trans hput.outside⟩

theorem prepare_of_error {st : Storage} {v : Value} (h : root st = .error v) (scope : String) :
    prepare st scope = (st, .error .unknownMember) := by
  rcases root_cases st with ⟨-, hroot⟩ | ⟨scopes, -, hroot⟩ | ⟨v, hv, -, hne⟩
  · rw [hroot] at h
    cases h
  · rw [hroot] at h
    cases h
  · unfold prepare
    rw [hv]
    dsimp only
    rw [asMap_of_ne hne]

/-- A storage without a cache is prepared as one with an empty cache. -/
theorem prepare_of_absent {st : Storage} (h : present (Assoc.get? st rootKey) = none)
    (scope : String) : prepare st scope = prepare (withScopes st []) scope := by
  unfold prepare
  rw [h, get?_withScopes]
  rfl

theorem prepare_of_scopes {st : Storage} {scopes : Row}
    (h : Assoc.get? st rootKey = some (.map scopes)) (scope : String) :
    prepare st scope =
      match present (scopes.column? scope) with
      | some es => (st, .ok es)
      | none => (withScopes st (scopes.put scope (.map [])), .ok (.map [])) := by
  unfold prepare
  rw [h]
  rfl

theorem placed_of_scopes {st : Storage} {scopes : Row}
    (h : Assoc.get? st rootKey = some (.map scopes)) (scope : String) :
    ∃ st', prepare st scope = (st', .ok ((present (scopes.column? scope)).getD (.map []))) ∧
      Placed scope ((present (scopes.column? scope)).getD (.map [])) st st' := by
  have hroot := root_of_get? h
  rw [prepare_of_scopes h]
  rcases hes : present (scopes.column? scope) with _ | es
  · exact ⟨_, rfl, placed_put hroot scope rfl⟩
  · refine ⟨st, rfl, placed_self ?_⟩
    rw [view_of_ok hroot, hes]
    rfl

/-- Preparing gives a scope its place, unless the cache is no mapping. -/
theorem placed_of_view {st : Storage} {scope : String} {c : Option Value}
    (h : view st scope = .ok c) :
    ∃ st', prepare st scope = (st', .ok (c.getD (.map []))) ∧
      Placed scope (c.getD (.map [])) st st' := by
  rcases root_cases st with ⟨hv, hroot⟩ | ⟨scopes, hv, hroot⟩ | ⟨v, hv, hroot, hne⟩
  · rw [view_of_ok hroot] at h
    obtain rfl : none = c := Except.ok.inj h
    obtain ⟨st', hprepare, hplaced⟩ := placed_of_scopes (get?_withScopes st []) scope
    rw [prepare_of_absent hv]
    refine ⟨st', hprepare, hplaced.scopes, hplaced.view_eq, ?_⟩
    exact .trans (.withScopes hroot fun _ _ => rfl) hplaced.outside
  · rw [view_of_ok hroot] at h
    obtain rfl := Except.ok.inj h
    exact placed_of_scopes hv scope
  · rw [view_of_error hroot] at h
    cases h

/-- Writing the scopes that a storage has changes nothing. -/
theorem withScopes_self {st : Storage} {scopes : Row}
    (h : Assoc.get? st rootKey = some (.map scopes)) : withScopes st scopes = st :=
  Row.put_column? h

/-- Writing the entries that a scope shows changes nothing. -/
theorem replace_self {st : Storage} {scope : String} {es : Value}
    (h : view st scope = .ok (some es)) : replace st scope es = st := by
  obtain ⟨scopes, hscopes⟩ := (placed_self h).scopes
  rw [view_of_ok (root_of_get? hscopes)] at h
  have hplace := present_eq_some (Except.ok.inj h)
  rw [replace_of_scopes hscopes, Row.put_column? hplace, withScopes_self hscopes]

/-! ## Operations -/

/-- An operation works on a scope: its answer and what the scope shows after it follow from what the
scope shows before, and outside of the scope nothing changes. -/
structure WorksOn (scope : String) (op : Storage → Storage × Except Fault Unit)
    (answer : Except Value (Option Value) → Except Fault Unit)
    (next : Option Value → Option Value) : Prop where
  answer_eq : ∀ st, (op st).2 = answer (view st scope)
  view_eq : ∀ st, view (op st).1 scope = next <$> view st scope
  outside : ∀ st, SameOutside (· = scope) st (op st).1

/-- It does so if it does from every storage. -/
theorem WorksOn.of {scope : String} {op : Storage → Storage × Except Fault Unit}
    {answer : Except Value (Option Value) → Except Fault Unit} {next : Option Value → Option Value}
    (h : ∀ st, (op st).2 = answer (view st scope) ∧
      view (op st).1 scope = next <$> view st scope ∧ SameOutside (· = scope) st (op st).1) :
    WorksOn scope op answer next :=
  ⟨fun st => (h st).1, fun st => (h st).2.1, fun st => (h st).2.2⟩

theorem present_assign {target key value es : Value} (h : assign target key value = .ok es) :
    present (some es) = some es := by
  unfold assign at h
  split at h
  · split at h
    · obtain rfl := Except.ok.inj h
      rfl
    · cases h
  · cases h

/-- The answer to writing, by what the scope shows. -/
def setAnswer (key value : Value) : Except Value (Option Value) → Except Fault Unit
  | .error _ => .error .unknownMember
  | .ok c => (fun _ => ()) <$> assign (c.getD (.map [])) key value

/-- What a scope shows after writing; a refused key leaves the place that was made for it. -/
def viewSet (key value : Value) (c : Option Value) : Option Value :=
  some ((assign (c.getD (.map [])) key value).toOption.getD (c.getD (.map [])))

theorem set_worksOn (scope : String) (key value : Value) :
    WorksOn scope (set · scope key value) (setAnswer key value) (viewSet key value) := by
  refine .of fun st => ?_
  unfold set
  rcases hview : view st scope with v | c
  · rw [prepare_of_error (root_of_view hview)]
    exact ⟨rfl, hview, .refl st⟩
  · obtain ⟨st', hprepare, hplaced⟩ := placed_of_view hview
    have hmap : viewSet key value <$> (.ok c : Except Value _) = .ok (viewSet key value c) := rfl
    rw [hprepare, hmap]
    unfold setAnswer viewSet
    dsimp only
    rcases hassign : assign (c.getD (.map [])) key value with f | es
    · exact ⟨rfl, hplaced.view_eq, hplaced.outside⟩
    · have hwritten := hplaced.replace (present_assign hassign)
      exact ⟨rfl, hwritten.view_eq, hwritten.outside⟩

theorem present_takeOut {key es es' : Value} (h : takeOut key es = .ok es') :
    present (some es') = some es' := by
  unfold takeOut at h
  split at h
  · split at h
    · obtain rfl := Except.ok.inj h
      rfl
    · cases h
  · cases h
  · cases h

/-- The answer to removing a key, by what the scope shows. -/
def removeAnswer (key : Value) : Except Value (Option Value) → Except Fault Unit
  | .error _ => .error .unknownMember
  | .ok none => .ok ()
  | .ok (some es) => (fun _ => ()) <$> takeOut key es

/-- What a scope shows after removing a key. -/
def viewRemove (key : Value) (c : Option Value) : Option Value :=
  c.map fun es => (takeOut key es).toOption.getD es

theorem remove_worksOn (scope : String) (key : Value) :
    WorksOn scope (remove · scope key) (removeAnswer key) (viewRemove key) := by
  refine .of fun st => ?_
  unfold remove
  rw [entries_eq]
  rcases hview : view st scope with v | _ | es
  · exact ⟨rfl, hview, .refl st⟩
  · exact ⟨rfl, hview, .refl st⟩
  · have hmap : viewRemove key <$> (.ok (some es) : Except Value _) =
        .ok (some ((takeOut key es).toOption.getD es)) := rfl
    rw [hmap]
    unfold removeAnswer
    dsimp only [Except.mapError]
    rcases htake : takeOut key es with f | es'
    · exact ⟨rfl, hview, .refl st⟩
    · have hwritten := (placed_self hview).replace (present_takeOut htake)
      exact ⟨rfl, hwritten.view_eq, hwritten.outside⟩

theorem takeOut_map {key : Value} (h : key.isKey = true) (es : Row) :
    takeOut key (.map es) = .ok (.map (Assoc.erase es key)) := by
  unfold takeOut
  dsimp only
  rw [h, Bool.or_true, if_pos rfl]

theorem takeOut_of_ne {v : Value} (h : ∀ es, v ≠ .map es) (key : Value) :
    ∃ f, takeOut key v = .error f := by
  cases v with
  | map es => exact absurd rfl (h es)
  | _ => exact ⟨_, rfl⟩

/-- The answer to clearing a scope, by what it shows. -/
def clearAnswer (scope : String) : Except Value (Option Value) → Except Fault Unit
  | .error v => (fun _ => ()) <$> takeOut (.text scope) v
  | .ok _ => .ok ()

theorem clear_of_scopes {st : Storage} {scopes : Row}
    (h : Assoc.get? st rootKey = some (.map scopes)) (scope : String) :
    clear st scope = (withScopes st (scopes.erase scope), .ok ()) := by
  unfold clear
  rw [h, present_map]
  dsimp only
  rw [takeOut_map rfl]
  rfl

theorem clear_worksOn (scope : String) :
    WorksOn scope (clear · scope) (clearAnswer scope) fun _ => none := by
  refine .of fun st => ?_
  rcases root_cases st with ⟨hv, hroot⟩ | ⟨scopes, hv, hroot⟩ | ⟨v, hv, hroot, hne⟩
  · have hview : view st scope = .ok none := view_of_ok hroot scope
    have hclear : clear st scope = (st, .ok ()) := by
      unfold clear
      rw [hv]
    rw [hclear, hview]
    exact ⟨rfl, rfl, .refl st⟩
  · rw [clear_of_scopes hv, view_of_ok hroot]
    refine ⟨rfl, ?_, .withScopes hroot fun s hs => ?_⟩
    · rw [view_of_ok (root_withScopes st _), Row.column?_erase, if_pos rfl]
      rfl
    · rw [Row.column?_erase, if_neg (Ne.symm hs)]
  · have hview := view_of_error hroot scope
    obtain ⟨f, hf⟩ := takeOut_of_ne hne (.text scope)
    have hclear : clear st scope = (st, .error f) := by
      unfold clear
      rw [hv]
      dsimp only
      rw [hf]
    rw [hclear, hview]
    dsimp only [clearAnswer]
    rw [hf]
    exact ⟨rfl, rfl, .refl st⟩

/-- A scope without a place is cleared by doing nothing. -/
theorem clear_of_place_none {st : Storage} {scope : String} (h : place st scope = .ok none) :
    clear st scope = (st, .ok ()) := by
  rcases root_cases st with ⟨hv, -⟩ | ⟨scopes, hv, hroot⟩ | ⟨v, -, hroot, -⟩
  · unfold clear
    rw [hv]
  · unfold place at h
    rw [hroot] at h
    rw [clear_of_scopes hv, Row.erase_of_column?_eq_none (Except.ok.inj h), withScopes_self hv]
  · unfold place at h
    rw [hroot] at h
    cases h

end SqlDesk.Session
