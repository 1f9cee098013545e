import SqlDesk.Proofs.Settings.Model
import SqlDesk.Settings.File
import SqlDesk.Yaml.Load

/-!
# What a settings file has to hold

A document is meant to be taken by its kind: a mapping of names is read as settings, nothing stands
for the default, and everything else is refused. Two kinds of documents get past that. An empty or
zero value passes for nothing, and a mapping with a key that is no name fails unrefused.
-/

namespace SqlDesk

namespace Settings.Model

variable {α : Type} (m : Model α) (env : Environment)

theorem writeFields_of_nothing (fields : List String) (s : α) (issues : List Issue) :
    m.writeFields env [] fields s issues = .ok (s, issues) := by
  induction fields with
  | nil => rfl
  | cons f fs ih =>
    rw [writeFields]
    exact ih

/-- Settings of which no field is given are the default. -/
theorem read_nothing : m.read env (.map []) = .ok m.default := by
  have hexpand : env.expandValue (.map []) = .map [] := by
    rw [Environment.expandValue, Environment.expandEntries]
  unfold read
  rw [hexpand]
  dsimp only
  rw [writeFields_of_nothing]
  rfl

end Settings.Model

namespace DeskSettings

open Settings

/-- The refusal of a file that does not hold a mapping. -/
def notMapping (path : String) : Refusal :=
  .make .configuration ("Configuration file must contain a mapping: " ++ path)
    (some Code.settingsInvalid.label) [(.text "path", .text path)]

/-- What a document is taken for by its kind: nothing for the default, a mapping of names for the
settings that it gives, and everything else for no settings. -/
def byKind (env : Environment) (path : String) : Value → Except Error DeskSettings
  | .null => .ok {}
  | .map fields =>
    if hasTextKeys fields then model.read env (.map fields)
    else .error (.refused (notMapping path))
  | _ => .error (.refused (notMapping path))

/-- An empty or zero value that is neither null nor a mapping. -/
def IsHollow (v : Value) : Prop := v.truthy = false ∧ v ≠ .null ∧ ∀ fields, v ≠ .map fields

/-- A mapping with a key that is no text. -/
def HasOtherKeys (v : Value) : Prop := ∃ fields, v = .map fields ∧ hasTextKeys fields = false

variable {env : Environment} {path : String} {v : Value}

/-! ## Documents by their kind -/

theorem ofDocument_nothing : ofDocument env path (.map []) = .ok {} := model.read_nothing env

theorem ofDocument_map (fields : Row) :
    ofDocument env path (.map fields) =
      if hasTextKeys fields then model.read env (.map fields)
      else .error (.fault .unfitOperands) := by
  cases fields <;> rfl

/-- A value that counts as false is taken for nothing. -/
theorem ofDocument_of_not_truthy (h : v.truthy = false) : ofDocument env path v = .ok {} := by
  have hempty : v.orElse (.map []) = .map [] := if_neg (by simp [h])
  unfold ofDocument
  rw [hempty]
  exact @ofDocument_nothing env path

theorem ofDocument_of_truthy (h : v.truthy = true) (hmap : ∀ fields, v ≠ .map fields) :
    ofDocument env path v = .error (.refused (notMapping path)) := by
  have hfull : v.orElse (.map []) = v := if_pos h
  unfold ofDocument
  rw [hfull]
  split
  · exact absurd rfl (hmap _)
  · rfl

theorem byKind_of_other (hnull : v ≠ .null) (hmap : ∀ fields, v ≠ .map fields) :
    byKind env path v = .error (.refused (notMapping path)) := by
  unfold byKind
  split
  · exact absurd rfl hnull
  · exact absurd rfl (hmap _)
  · rfl

/-- A document is taken by its kind unless it is hollow or has other keys than names. -/
theorem ofDocument_eq_byKind_iff :
    ofDocument env path v = byKind env path v ↔ ¬ IsHollow v ∧ ¬ HasOtherKeys v := by
  by_cases hnull : v = .null
  · subst hnull
    refine iff_of_true (ofDocument_of_not_truthy rfl) ⟨fun h => h.2.1 rfl, ?_⟩
    rintro ⟨fields, h, -⟩
    cases h
  · by_cases hmap : ∃ fields, v = .map fields
    · obtain ⟨fields, rfl⟩ := hmap
      have hsolid : ¬ IsHollow (.map fields) := fun h => h.2.2 fields rfl
      rw [and_iff_right hsolid, ofDocument_map, byKind]
      rcases hkeys : hasTextKeys fields with _ | _
      · refine iff_of_false (by simp) (not_not_intro ⟨fields, rfl, hkeys⟩)
      · refine iff_of_true rfl ?_
        rintro ⟨fields', h, hother⟩
        obtain rfl := Value.map.inj h
        cases hkeys.symm.trans hother
    · have hmap : ∀ fields, v ≠ .map fields := fun fields h => hmap ⟨fields, h⟩
      have hkeys : ¬ HasOtherKeys v := fun ⟨fields, h, _⟩ => hmap fields h
      rw [byKind_of_other hnull hmap, and_iff_left hkeys]
      rcases htruthy : v.truthy with _ | _
      · rw [ofDocument_of_not_truthy htruthy]
        exact iff_of_false (by simp) (not_not_intro ⟨htruthy, hnull, hmap⟩)
      · refine iff_of_true (ofDocument_of_truthy htruthy hmap) ?_
        rintro ⟨hfalse, -⟩
        cases htruthy.symm.trans hfalse

/-! ## Files -/

section File

variable {load : String → Except Error Value} {read : String → Option String} {text : String}
  (hread : read (Text.normalPath path) = some text) (hload : load text = .ok v)

include hread hload

theorem ofFile_eq_ofDocument :
    ofFile env load read path = ofDocument env (Text.normalPath path) v := by
  unfold ofFile
  dsimp only
  rw [hread]
  dsimp only
  rw [hload, Except.ok_bind]

/-- A file whose document can be loaded, in whatever way, is taken by the kind of the document, except
that a hollow document passes for the default and other keys than names make the reading fail. -/
theorem ofFile_eq_byKind_iff :
    (ofFile env load read path = byKind env (Text.normalPath path) v ↔
      ¬ IsHollow v ∧ ¬ HasOtherKeys v) ∧
    (IsHollow v → ofFile env load read path = .ok {}) ∧
    (HasOtherKeys v → ofFile env load read path = .error (.fault .unfitOperands)) := by
  rw [ofFile_eq_ofDocument hread hload]
  refine ⟨ofDocument_eq_byKind_iff, fun h => ofDocument_of_not_truthy h.1, ?_⟩
  rintro ⟨fields, rfl, hother⟩
  rw [ofDocument_map, if_neg (by simp [hother])]

end File

/-! ## Two files -/

/-- What a document is loaded as, found by a test that one value passes alone. -/
theorem load_of_test {text : String} {v : Value} (test : Value → Bool)
    (htest : ∀ w, test w = true → w = v) (h : (Yaml.load text).toOption.any test = true) :
    Yaml.load text = .ok v := by
  rcases hrun : Yaml.load text with e | w <;> rw [hrun] at h
  · cases h
  · exact congrArg Except.ok (htest w h)

/-- The mapping of one field. -/
def isUnnatural : Value → Bool
  | .map [(.text "natural_order", .bool false)] => true
  | _ => false

/-- The empty list. -/
def isEmptyList : Value → Bool
  | .list [] => true
  | _ => false

/-- A file with one field is read as settings. -/
theorem one_field_read :
    let v := Value.map [(.text "natural_order", .bool false)]
    let read (_ : String) : Option String := some "natural_order: no\n"
    Yaml.load "natural_order: no\n" = .ok v ∧ ofFile [] Yaml.load read "desk.yaml" = model.read [] v ∧
      (model.read [] v).map (·.naturalOrder) = .ok false := by
  intro v read
  have hload : Yaml.load "natural_order: no\n" = .ok v := by
    refine load_of_test isUnnatural (fun w h => ?_) (by decide +kernel)
    unfold isUnnatural at h
    split at h
    · rfl
    · cases h
  have hmap : ∀ fields, v = .map fields → hasTextKeys fields = true := by
    rintro fields h
    obtain rfl := Value.map.inj h
    rfl
  have hread : read (Text.normalPath "desk.yaml") = some "natural_order: no\n" := rfl
  have hother : ¬ HasOtherKeys v := fun ⟨fields, h, hother⟩ => by
    cases hother.symm.trans (hmap fields h)
  have hkind : byKind [] (Text.normalPath "desk.yaml") v = model.read [] v := rfl
  refine ⟨hload, ?_, rfl⟩
  rw [← hkind]
  exact (ofFile_eq_byKind_iff hread hload).1.mpr ⟨fun h => h.2.2 _ rfl, hother⟩

/-- An empty list is no mapping, and a file that holds one is read as the default. -/
theorem empty_list_read_as_default :
    let read (_ : String) : Option String := some "[]\n"
    Yaml.load "[]\n" = .ok (.list []) ∧
      byKind [] "desk.yaml" (.list []) = .error (.refused (notMapping "desk.yaml")) ∧
      ofFile [] Yaml.load read "desk.yaml" = .ok {} := by
  intro read
  have hload : Yaml.load "[]\n" = .ok (.list []) := by
    refine load_of_test isEmptyList (fun w h => ?_) (by decide +kernel)
    unfold isEmptyList at h
    split at h
    · rfl
    · cases h
  have hread : read (Text.normalPath "desk.yaml") = some "[]\n" := rfl
  refine ⟨hload, rfl, ?_⟩
  rw [ofFile_eq_ofDocument hread hload]
  exact ofDocument_of_not_truthy rfl

end DeskSettings

end SqlDesk
