import SqlDesk.Value

/-!
# Columns of rows

The keys of a row are values, whose equality is not identity; but a value that equals a text is that
text. So columns, which have texts as keys, are read and written as in any mapping.
-/

namespace SqlDesk

theorem Value.beq_text (v : Value) (s : String) : (v == .text s) = true ↔ v = .text s := by
  show Value.same v (.text s) = true ↔ _
  cases v <;> simp [Value.same, Value.sameScalar, Value.exactOf?]

theorem Value.text_beq (s : String) (v : Value) : (Value.text s == v) = true ↔ v = .text s := by
  show Value.same (.text s) v = true ↔ _
  cases v with
  | text t => simpa [Value.same, Value.sameScalar, Value.exactOf?] using eq_comm
  | _ => simp [Value.same, Value.sameScalar, Value.exactOf?]

/-- What equals another key is no text that this key is not. -/
theorem Value.not_beq_text {v k : Value} (hk : (v == k) = true) {s : String} (h : k ≠ .text s) :
    ¬ (v == .text s) = true := by
  intro hs
  rw [(Value.beq_text v s).mp hs, Value.text_beq] at hk
  exact h hk

namespace Row

/-- Write a column of a row. -/
def put (r : Row) (column : String) (v : Value) : Row := Assoc.put r (.text column) v

theorem column?_put (r : Row) (c d : String) (v : Value) :
    (r.put c v).column? d = if c = d then some v else r.column? d := by
  unfold column? put
  induction r with
  | nil => simp [Assoc.get?_cons, Value.beq_text]
  | cons e r ih =>
    by_cases hc : e.1 = .text c
    · have hkey := (Value.beq_text _ _).mpr hc
      rw [Assoc.put_cons, if_pos hkey, Assoc.get?_cons, Assoc.get?_cons, hc]
      by_cases hd : c = d <;> simp [Value.beq_text, hd]
    · have hkey := mt (Value.beq_text _ _).mp hc
      rw [Assoc.put_cons, if_neg hkey, Assoc.get?_cons, Assoc.get?_cons, ih]
      by_cases hd : e.1 = .text d
      · have hne : c ≠ d := fun h => hc (h ▸ hd)
        simp [Value.beq_text, hd, hne]
      · simp [Value.beq_text, hd]

/-- A column stays as it is when something is written under another key. -/
theorem column?_put_of_ne {k : Value} {c : String} (h : k ≠ .text c) (r : Row) (v : Value) :
    column? (Assoc.put r k v) c = r.column? c := by
  have hother : ¬ (k == .text c) = true := mt (Value.beq_text k c).mp h
  unfold column?
  induction r with
  | nil => rw [Assoc.put_nil, Assoc.get?_cons, if_neg hother]
  | cons e r ih =>
    rw [Assoc.put_cons]
    by_cases hk : (e.1 == k) = true
    · have hne : ¬ (e.1 == .text c) = true := Value.not_beq_text hk h
      rw [if_pos hk, Assoc.get?_cons, if_neg hne, Assoc.get?_cons, if_neg hne]
    · rw [if_neg hk, Assoc.get?_cons, Assoc.get?_cons, ih]

/-- Write columns of a row, one after the other. -/
def putAll (r : Row) (columns : List (String × Value)) : Row :=
  columns.foldl (fun r c => r.put c.1 c.2) r

/-- A column that is written, or in which two rows agree, agrees in them after writing. -/
theorem column?_putAll {r s : Row} {columns : List (String × Value)} {d : String}
    (h : d ∈ columns.map Prod.fst ∨ r.column? d = s.column? d) :
    (r.putAll columns).column? d = (s.putAll columns).column? d := by
  induction columns generalizing r s with
  | nil => simpa [putAll] using h
  | cons c columns ih =>
    refine ih ?_
    rcases h with h | h
    · rcases List.mem_cons.mp h with rfl | h
      · exact .inr (by simp [column?_put])
      · exact .inl h
    · exact .inr (by rw [column?_put, column?_put, h])

/-- What is under a key after a column was written. -/
theorem get?_put_column (r : Row) (c : String) (v k : Value) :
    Assoc.get? (r.put c v) k = if Value.text c == k then some v else Assoc.get? r k := by
  unfold put
  induction r with
  | nil => exact Assoc.get?_cons _ _ _
  | cons e r ih =>
    rw [Assoc.put_cons]
    by_cases hc : (e.1 == .text c) = true
    · have he := (Value.beq_text _ _).mp hc
      rw [if_pos hc, Assoc.get?_cons, Assoc.get?_cons, he]
      split <;> rfl
    · rw [if_neg hc, Assoc.get?_cons, Assoc.get?_cons, ih]
      by_cases he : (e.1 == k) = true
      · have hne : ¬ (Value.text c == k) = true := by
          intro hk
          rw [(Value.text_beq _ _).mp hk] at he
          exact hc he
        rw [if_pos he, if_neg hne, if_pos he]
      · rw [if_neg he, if_neg he]

/-- A key under which no column is written keeps its value. -/
theorem get?_putAll_of_notMem {columns : List (String × Value)} {k : Value}
    (h : ∀ c ∈ columns.map Prod.fst, k ≠ .text c) (r : Row) :
    Assoc.get? (r.putAll columns) k = Assoc.get? r k := by
  induction columns generalizing r with
  | nil => rfl
  | cons c columns ih =>
    have hc : ¬ (Value.text c.1 == k) = true := by
      rw [Value.text_beq]
      exact h c.1 List.mem_cons_self
    have hrest := ih (fun d hd => h d (List.mem_cons_of_mem _ hd)) (r.put c.1 c.2)
    rw [get?_put_column, if_neg hc] at hrest
    exact hrest

/-- Columns that are written once have the values that were written. -/
theorem column?_putAll_of_mem {columns : List (String × Value)}
    (hnodup : (columns.map Prod.fst).Nodup) {c : String} {v : Value} (h : (c, v) ∈ columns)
    (r : Row) : (r.putAll columns).column? c = some v := by
  induction columns generalizing r with
  | nil => cases h
  | cons d columns ih =>
    obtain ⟨hnew, hrest⟩ := List.nodup_cons.mp hnodup
    rcases List.mem_cons.mp h with rfl | h
    · have hkept := get?_putAll_of_notMem (k := .text c)
        (fun d hd heq => hnew (Value.text.inj heq ▸ hd)) (r.put c v)
      exact hkept.trans (by rw [get?_put_column, if_pos ((Value.text_beq _ _).mpr rfl)])
    · exact ih hrest h (r.put d.1 d.2)

/-- Remove a column of a row. -/
def erase (r : Row) (column : String) : Row := Assoc.erase r (.text column)

theorem column?_erase (r : Row) (c d : String) :
    (r.erase c).column? d = if c = d then none else r.column? d := by
  unfold column? erase Assoc.erase
  induction r with
  | nil => simp
  | cons e r ih =>
    rw [List.filter_cons]
    by_cases hc : e.1 = .text c
    · have hkey := (Value.beq_text _ _).mpr hc
      rw [hkey, if_neg (by decide), ih]
      by_cases hd : c = d
      · rw [if_pos hd, if_pos hd]
      · have hne : ¬ (e.1 == .text d) = true := by
          rw [Value.beq_text, hc]
          simpa using hd
        rw [if_neg hd, if_neg hd, Assoc.get?_cons, if_neg hne]
    · have hkey : (e.1 == .text c) = false := Bool.eq_false_iff.mpr (mt (Value.beq_text _ _).mp hc)
      rw [hkey, if_pos (by decide), Assoc.get?_cons, Assoc.get?_cons, ih]
      by_cases hd : e.1 = .text d
      · have hne : c ≠ d := fun h => hc (h ▸ hd)
        simp [Value.beq_text, hd, hne]
      · simp [Value.beq_text, hd]

/-- A column stays as it is when another key is removed. -/
theorem column?_erase_of_ne {k : Value} {c : String} (h : k ≠ .text c) (r : Row) :
    column? (Assoc.erase r k) c = r.column? c := by
  unfold column? Assoc.erase
  induction r with
  | nil => rfl
  | cons e r ih =>
    rw [List.filter_cons]
    by_cases hk : (e.1 == k) = true
    · have hne : ¬ (e.1 == .text c) = true := Value.not_beq_text hk h
      rw [hk, if_neg (by decide), Assoc.get?_cons, if_neg hne, ih]
    · rw [Bool.not_eq_true] at hk
      rw [hk, if_pos (by decide), Assoc.get?_cons, Assoc.get?_cons, ih]

/-- A row does not change when a column gets the value that it has. -/
theorem put_column? {r : Row} {c : String} {v : Value} (h : r.column? c = some v) :
    r.put c v = r := by
  unfold column? at h
  unfold put
  induction r with
  | nil => cases h
  | cons e r ih =>
    rw [Assoc.get?_cons] at h
    rw [Assoc.put_cons]
    by_cases hc : (e.1 == .text c) = true
    · rw [if_pos hc] at h
      rw [if_pos hc, ← Option.some.inj h]
    · rw [if_neg hc] at h
      rw [if_neg hc, ih h]

/-- A row does not change when a column that it lacks is removed. -/
theorem erase_of_column?_eq_none {r : Row} {c : String} (h : r.column? c = none) :
    r.erase c = r := by
  unfold column? Assoc.get? at h
  unfold erase Assoc.erase
  rw [Option.map_eq_none_iff, List.find?_eq_none] at h
  exact List.filter_eq_self.mpr fun e he => by simpa using h e he

/-- A column that is removed may have been written before. -/
theorem erase_put (r : Row) (c : String) (v : Value) : (r.put c v).erase c = r.erase c := by
  unfold put erase Assoc.erase
  induction r with
  | nil => simp [Value.beq_text]
  | cons e r ih =>
    rw [Assoc.put_cons]
    by_cases hc : (e.1 == .text c) = true
    · rw [if_pos hc, List.filter_cons, List.filter_cons, hc]
      rfl
    · rw [if_neg hc, List.filter_cons, List.filter_cons, ih]

end Row

end SqlDesk
