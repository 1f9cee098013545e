import SqlDesk.Proofs.Settings.Model
import SqlDesk.Settings.Logging
import SqlDesk.Settings.Server

/-!
# Values without their secrets

Two mappings that differ at most in the texts that they give for secrets come to the same value when
those texts are made blank. Redacting commutes with the expansion of references, since a blank text
has none, and no reader of a field looks into what redacting changes.
-/

namespace SqlDesk

open Settings

/-- The fields that hold secrets. -/
def secretFields : List String := ["password", "control_pass"]

/-- A value given under a key; a text given for a secret is made blank. -/
def Value.under : Value → Value → Value
  | .text field, .text s => .text (if field ∈ secretFields then "" else s)
  | _, v => v

namespace Value

mutual

/-- A value in which the texts given for secrets are blank, inside lists and mappings too. -/
def redact : Value → Value
  | .list vs => .list (redactItems vs)
  | .map es => .map (redactEntries es)
  | v => v

/-- The items of a list, redacted. -/
def redactItems : List Value → List Value
  | [] => []
  | v :: vs => redact v :: redactItems vs

/-- The entries of a mapping, redacted. -/
def redactEntries : List (Value × Value) → List (Value × Value)
  | [] => []
  | (k, v) :: es => (k, under k (redact v)) :: redactEntries es

end

/-- A value given for a field, redacted. -/
def redactFor (field : String) (v : Value) : Value := under (.text field) v.redact

theorem redact_text (s : String) : (text s).redact = text s := rfl

theorem under_of_notMem {field : String} (h : field ∉ secretFields) (v : Value) :
    under (.text field) v = v := by
  cases v with
  | text s => rw [under, if_neg h]
  | _ => rfl

theorem redactFor_of_notMem {field : String} (h : field ∉ secretFields) (v : Value) :
    v.redactFor field = v.redact := under_of_notMem h _

theorem under_under (k v : Value) : under k (under k v) = under k v := by
  cases k with
  | text field =>
    by_cases hsecret : field ∈ secretFields
    · cases v with
      | text s => rw [under, if_pos hsecret, under, if_pos hsecret]
      | _ => rfl
    · rw [under_of_notMem hsecret, under_of_notMem hsecret]
  | _ => rfl

/-- Redacting and making a text blank under its key can be done in either order. -/
theorem redact_under (k v : Value) : (under k v).redact = under k v.redact := by
  cases k with
  | text field =>
    by_cases hsecret : field ∈ secretFields
    · cases v with
      | text s => rw [redact_text, under, if_pos hsecret, redact_text]
      | _ => rfl
    · rw [under_of_notMem hsecret, under_of_notMem hsecret]
  | _ => rfl

mutual

theorem redact_redact (v : Value) : v.redact.redact = v.redact := by
  cases v with
  | list vs => rw [redact, redact, redactItems_redactItems vs]
  | map es => rw [redact, redact, redactEntries_redactEntries es]
  | _ => rfl

theorem redactItems_redactItems (vs : List Value) :
    redactItems (redactItems vs) = redactItems vs := by
  cases vs with
  | nil => rfl
  | cons v vs => rw [redactItems, redactItems, redact_redact v, redactItems_redactItems vs]

theorem redactEntries_redactEntries (es : List (Value × Value)) :
    redactEntries (redactEntries es) = redactEntries es := by
  rcases es with _ | ⟨⟨k, v⟩, es⟩
  · rfl
  · rw [redactEntries, redactEntries, redact_under, redact_redact v, under_under,
      redactEntries_redactEntries es]

end

theorem redactFor_redactFor (field : String) (v : Value) :
    (v.redactFor field).redactFor field = v.redactFor field := by
  unfold redactFor
  rw [redact_under, redact_redact, under_under]

theorem column?_redactEntries (es : Row) (field : String) :
    Row.column? (redactEntries es) field = (Row.column? es field).map (redactFor field) := by
  unfold Row.column?
  induction es with
  | nil => rfl
  | cons e es ih =>
    rw [redactEntries, Assoc.get?_cons, Assoc.get?_cons, ih]
    by_cases hkey : e.1 = .text field
    · have heq := (Value.beq_text _ _).mpr hkey
      rw [if_pos heq, if_pos heq, hkey]
      rfl
    · have hne := mt (Value.beq_text _ _).mp hkey
      rw [if_neg hne, if_neg hne]

theorem keys_redactEntries (es : Row) : Assoc.keys (redactEntries es) = Assoc.keys es := by
  unfold Assoc.keys
  induction es with
  | nil => rfl
  | cons e es ih =>
    rw [redactEntries, List.map_cons, List.map_cons, ih]

/-- Values that differ at most in secrets are both mappings, or both are none. -/
theorem map_of_redact_eq {v w : Value} (h : v.redact = w.redact) :
    (∃ es es', v = .map es ∧ w = .map es' ∧ redactEntries es = redactEntries es') ∨
      (∀ es, v ≠ .map es) ∧ ∀ es, w ≠ .map es := by
  cases v with
  | map es =>
    cases w with
    | map es' => exact .inl ⟨es, es', rfl, rfl, Value.map.inj h⟩
    | _ => cases h
  | _ =>
    refine .inr ⟨fun es he => (by cases he), ?_⟩
    rintro es rfl
    cases h

end Value

/-! ## References -/

namespace Settings.Environment

open Value

variable (env : Environment)

theorem expandValue_under (k v : Value) :
    env.expandValue (under k v) = under k (env.expandValue v) := by
  rcases k with _ | _ | _ | _ | _ | field | _ | _ | _ | _
  case text =>
    cases v with
    | text s =>
      by_cases hsecret : field ∈ secretFields
      · rw [under, if_pos hsecret, expandValue, expandValue, under, if_pos hsecret]
        rfl
      · rw [under_of_notMem hsecret, under_of_notMem hsecret]
    | _ => rfl
  all_goals rfl

mutual

theorem expandValue_redact (v : Value) :
    env.expandValue v.redact = (env.expandValue v).redact := by
  cases v with
  | list vs => rw [redact, expandValue, expandValue, redact, expandItems_redact vs]
  | map es => rw [redact, expandValue, expandValue, redact, expandEntries_redact es]
  | _ => rfl

theorem expandItems_redact (vs : List Value) :
    env.expandItems (redactItems vs) = redactItems (env.expandItems vs) := by
  cases vs with
  | nil => rfl
  | cons v vs =>
    rw [redactItems, expandItems, expandItems, redactItems, expandValue_redact v,
      expandItems_redact vs]

theorem expandEntries_redact (es : List (Value × Value)) :
    env.expandEntries (redactEntries es) = redactEntries (env.expandEntries es) := by
  rcases es with _ | ⟨⟨k, v⟩, es⟩
  · rfl
  · rw [redactEntries, expandEntries, expandEntries, redactEntries, expandValue_under,
      expandValue_redact v, expandEntries_redact es]

end

end Settings.Environment

/-! ## Readers -/

namespace Settings

open Value

/-- A reader that does not see what redacting changes. -/
def Oblivious {β : Type} (read : Value → β) : Prop := ∀ v : Value, read v.redact = read v

theorem oblivious_readText : Oblivious readText := fun v => by cases v <;> rfl

theorem oblivious_readInteger : Oblivious readInteger := fun v => by cases v <;> rfl

theorem oblivious_readTruth : Oblivious readTruth := fun v => by cases v <;> rfl

theorem Oblivious.readOptional {β : Type} {read : Value → Reading β} (h : Oblivious read) :
    Oblivious (Settings.readOptional read) := by
  intro v
  cases v with
  | null => rfl
  | _ => exact congrArg (some <$> ·) (h _)

theorem oblivious_readAbove (bound : Int) : Oblivious (readAbove bound) := fun v => by
  unfold readAbove
  rw [oblivious_readInteger v]

theorem oblivious_readAtLeast (bound : Int) : Oblivious (readAtLeast bound) := fun v => by
  unfold readAtLeast
  rw [oblivious_readInteger v]

theorem oblivious_readPath : Oblivious readPath := fun v => by
  unfold readPath
  rw [oblivious_readText v]

theorem readTexts_redactItems (n : Nat) (vs : List Value) :
    readTexts n (redactItems vs) = readTexts n vs := by
  induction vs generalizing n with
  | nil => rfl
  | cons v vs ih => rw [redactItems, readTexts, readTexts, oblivious_readText v, ih]

theorem oblivious_readPatterns : Oblivious readPatterns := by
  intro v
  cases v with
  | list vs => exact readTexts_redactItems 0 vs
  | _ => rfl

theorem oblivious_readChoice (choices : List String) :
    Oblivious (LogSettings.readChoice choices) := fun v => by cases v <;> rfl

theorem oblivious_readLevel : Oblivious LogSettings.readLevel := fun v => by cases v <;> rfl

/-- A text given for a secret is read whatever it is; any other value is read as without redacting. -/
theorem readText_redactFor (field : String) (v : Value) :
    (∃ s t, v = .text s ∧ v.redactFor field = .text t) ∨
      readText (v.redactFor field) = readText v := by
  cases v with
  | text s => exact .inl ⟨s, _, rfl, rfl⟩
  | _ => exact .inr rfl

end Settings

end SqlDesk
