import SqlDesk.Proofs.Except
import SqlDesk.Proofs.Value
import SqlDesk.Settings.Model

/-!
# Reading settings

Reading writes the given fields one after the other into the default. So what holds of the default
and is kept by every write holds of what was read; and settings of which one field is given are the
default after one write.
-/

namespace SqlDesk.Settings.Model

variable {α : Type} {m : Model α} {env : Environment}

/-- An assignment writes into settings whose references have been expanded, or does nothing. -/
theorem assign_cases {field : String} {v : Value} {s t : α} (h : m.assign env field v s = .ok t) :
    t = s ∨ m.write env field v (m.expand env s) = .ok t := by
  unfold assign at h
  split at h
  · exact .inr h
  · split at h
    · exact .inl (Except.ok.inj h).symm
    · split at h <;> cases h

section Kept

variable {I : α → Prop} (hwrite : ∀ {field v s t}, I s → m.write env field v s = .ok t → I t)

include hwrite

theorem of_writeFields {given : Row} {fields : List String} {s t : α} {issues issues' : List Issue}
    (hs : I s) (h : m.writeFields env given fields s issues = .ok (t, issues')) : I t := by
  induction fields generalizing s issues with
  | nil =>
    obtain ⟨rfl, -⟩ := Prod.mk.inj (Except.ok.inj h)
    exact hs
  | cons f fs ih =>
    rw [writeFields] at h
    rcases hgiven : given.column? f with _ | v <;> rw [hgiven] at h
    · exact ih hs h
    · dsimp only at h
      rcases hw : m.write env f v s with e | s' <;> rw [hw] at h
      · cases e with
        | invalid more => exact ih hs h
        | _ => cases h
      · exact ih (hwrite hs hw) h

/-- What holds of the default and is kept by every write holds of settings that were read. -/
theorem of_read (hdefault : I m.default) {given : Value} {s : α} (h : m.read env given = .ok s) :
    I s := by
  unfold read at h
  split at h
  · obtain ⟨⟨t, issues⟩, ht, h⟩ := Except.bind_eq_ok.mp h
    dsimp only at h
    split at h
    · obtain rfl := Except.ok.inj h
      exact of_writeFields hwrite hdefault ht
    · cases h
  · cases h

/-- What is kept by every write and by expanding references is kept by every assignment. -/
theorem of_assign (hexpand : ∀ {s}, I s → I (m.expand env s)) {field : String} {v : Value} {s t : α}
    (hs : I s) (h : m.assign env field v s = .ok t) : I t := by
  rcases assign_cases h with rfl | h
  · exact hs
  · exact hwrite (hexpand hs) h

/-- What is kept inside fields too is kept by every assignment to a path. -/
theorem of_assignAt (hexpand : ∀ {s}, I s → I (m.expand env s))
    (hinside : ∀ {field path v s t}, I s → m.writeInside env field path v s = .ok t → I t)
    {path : List String} {v : Value} {s t : α} (hs : I s) (h : m.assignAt env path v s = .ok t) :
    I t := by
  unfold assignAt at h
  split at h
  · cases h
  · exact of_assign hwrite hexpand hs h
  · exact hinside hs h

end Kept

/-! ## Issues -/

theorem writeFields_ne_invalid (given : Row) (fields : List String) (s : α) (issues : List Issue)
    (more : List Issue) : m.writeFields env given fields s issues ≠ .error (.invalid more) := by
  induction fields generalizing s issues with
  | nil =>
    rw [writeFields]
    simp
  | cons f fs ih =>
    rw [writeFields]
    split
    · exact ih s issues
    · split
      · exact ih _ issues
      · exact ih s _
      · rename_i hne _
        exact fun h => hne more (Except.error.inj h)

/-- Settings are not refused without an issue. -/
theorem read_ne_invalid_nil (given : Value) : m.read env given ≠ .error (.invalid []) := by
  unfold read
  split
  · rename_i es _
    intro h
    rcases hw : m.writeFields env es m.fields m.default [] with e | ⟨s, issues⟩ <;> rw [hw] at h
    · obtain rfl : e = .invalid [] := Except.error.inj h
      exact writeFields_ne_invalid es m.fields m.default [] [] hw
    · rw [Except.ok_bind] at h
      dsimp only at h
      split at h
      · cases h
      · rename_i hne
        exact hne (Error.invalid.inj (Except.error.inj h))
  · simp

theorem readField_eq_ok {field : String} {v : Value} {s : α} :
    m.readField env field v = .ok s ↔ m.read env v = .ok s := by
  unfold readField
  split
  · rename_i h
    rw [h]
    simp
  · exact Iff.rfl

theorem readField_ne_invalid_nil (field : String) (v : Value) :
    m.readField env field v ≠ .error (.invalid []) := by
  unfold readField
  split
  · rename_i issues hread
    intro h
    obtain rfl := List.map_eq_nil_iff.mp (Error.invalid.inj (Except.error.inj h))
    exact read_ne_invalid_nil v hread
  · exact read_ne_invalid_nil v

/-! ## One field -/

/-- A mapping of one field. -/
def single (field : String) (v : Value) : Value := .map [(.text field, v)]

theorem column?_single (field f : String) (v : Value) :
    Row.column? [(.text field, v)] f = if field = f then some v else none := by
  unfold Row.column?
  rw [Assoc.get?_cons, Assoc.get?_nil]
  by_cases h : field = f
  · rw [if_pos h, if_pos (by rw [Value.beq_text, h])]
  · rw [if_neg h, if_neg (by simpa [Value.beq_text] using h)]

/-- A field that is not among those to be written is passed over. -/
theorem writeFields_of_notMem {field : String} {fields : List String} (h : field ∉ fields)
    (v : Value) (s : α) (issues : List Issue) :
    m.writeFields env [(.text field, v)] fields s issues = .ok (s, issues) := by
  induction fields with
  | nil => rfl
  | cons f fs ih =>
    obtain ⟨hne, hrest⟩ := not_or.mp (mt List.mem_cons.mpr h)
    rw [writeFields, column?_single, if_neg hne]
    exact ih hrest

theorem writeFields_single {field : String} {fields : List String} (hnodup : fields.Nodup)
    (h : field ∈ fields) (v : Value) (s : α) :
    m.writeFields env [(.text field, v)] fields s [] =
      match m.write env field v s with
      | .ok t => .ok (t, [])
      | .error (.invalid issues) => .ok (s, issues)
      | .error e => .error e := by
  induction fields with
  | nil => cases h
  | cons f fs ih =>
    obtain ⟨hf, hnodup⟩ := List.nodup_cons.mp hnodup
    rw [writeFields, column?_single]
    by_cases hfield : field = f
    · subst hfield
      rw [if_pos rfl]
      dsimp only
      rcases m.write env field v s with e | t
      · cases e with
        -- the issues are kept while the later fields are passed over
        | invalid issues => exact writeFields_of_notMem hf v s issues
        | _ => rfl
      · exact writeFields_of_notMem hf v t []
    · rw [if_neg hfield]
      exact ih hnodup ((List.mem_cons.mp h).resolve_left hfield)

/-- Settings of which one field is given, where no issue is without a reason. -/
theorem read_single (hnodup : m.fields.Nodup) {field : String} (h : field ∈ m.fields) (v : Value)
    (hissues : m.write env field (env.expandValue v) m.default ≠ .error (.invalid [])) :
    m.read env (single field v) = m.write env field (env.expandValue v) m.default := by
  have hexpand : env.expandValue (single field v) = single field (env.expandValue v) := by
    unfold single
    rw [Environment.expandValue, Environment.expandEntries, Environment.expandEntries]
  have hkeys : (Assoc.keys [(Value.text field, env.expandValue v)]).filterMap m.keyIssue? = [] := by
    have hkey : m.keyIssue? (.text field) = none := by
      unfold keyIssue?
      dsimp only
      rw [if_pos (by simpa using h)]
    show [Value.text field].filterMap m.keyIssue? = []
    rw [List.filterMap_cons, hkey]
    rfl
  unfold read
  rw [hexpand]
  unfold single
  dsimp only
  rw [writeFields_single hnodup h, hkeys]
  rcases hw : m.write env field (env.expandValue v) m.default with e | t
  · cases e with
    | invalid issues =>
      rcases issues with _ | ⟨i, issues⟩
      · exact absurd hw hissues
      · rw [Except.ok_bind]
        dsimp only
        rw [List.append_nil]
        rfl
    | _ => rfl
  · rfl

end SqlDesk.Settings.Model
