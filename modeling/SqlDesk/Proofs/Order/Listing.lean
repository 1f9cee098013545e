import SqlDesk.Proofs.Order.Values
import SqlDesk.Proofs.Statistics

/-!
# The order of tables and databases

A listing is sorted by a column and then by names, which are a total preorder. So it is sorted by a
total preorder if and only if the values of its column are one.
-/

namespace SqlDesk

open SqlDesk.Order

/-! ## Sums of lengths -/

namespace Value

/-- In a sum the value stands for a number: it is an integer, or nothing is added in its place. -/
def IsCount (v : Value) : Prop := ∃ n, v.orElse (.int 0) = .int n

/-- In a sum the value stands for a text. -/
def IsWord (v : Value) : Prop := ∃ s, v.orElse (.int 0) = .text s

theorem count_or_word {v : Value} (h : v = .null ∨ (∃ n, v = .int n) ∨ ∃ s, v = .text s) :
    v.IsCount ∨ v.IsWord := by
  rcases h with rfl | ⟨n, rfl⟩ | ⟨s, rfl⟩
  · exact .inl ⟨0, rfl⟩
  · exact .inl ⟨n, int_orElse n⟩
  · rcases hempty : s.isEmpty with _ | _
    · exact .inr ⟨s, by simp [orElse, truthy, hempty]⟩
    · exact .inl ⟨0, by simp [orElse, truthy, hempty]⟩

theorem sign_of_order {a b : Value} {o : Ordering} (h : a.order b = .ok (some o)) :
    a.sign b = .ok (signOf o) := by
  unfold sign
  rw [h]
  cases o <;> rfl

theorem sign_int (m n : Int) : (Value.int m).sign (.int n) = .ok (signOf (compare m n)) := by
  refine sign_of_order ?_
  -- whole numbers are compared as fractions over one
  show Except.ok (some (compare (m * (1 : Nat)) (n * (1 : Nat)))) = _
  rw [Nat.cast_one, Int.mul_one, Int.mul_one]

theorem sign_text (s t : String) : (Value.text s).sign (.text t) = .ok (signOf (compare s t)) :=
  sign_of_order rfl

end Value

namespace TableStatus

variable {a b t : TableStatus}

/-- The two lengths of a table stand for numbers. -/
def HasCounts (t : TableStatus) : Prop := (t.data .dataLength).IsCount ∧ (t.data .indexLength).IsCount

/-- The two lengths of a table stand for texts. -/
def HasWords (t : TableStatus) : Prop := (t.data .dataLength).IsWord ∧ (t.data .indexLength).IsWord

theorem HasCounts.totalLength (h : t.HasCounts) : ∃ n, t.totalLength = .ok (.int n) := by
  obtain ⟨⟨m, hm⟩, n, hn⟩ := h
  refine ⟨m + n, ?_⟩
  show ((t.data .dataLength).orElse (.int 0)).plus ((t.data .indexLength).orElse (.int 0)) = _
  rw [hm, hn]
  rfl

theorem HasWords.totalLength (h : t.HasWords) : ∃ s, t.totalLength = .ok (.text s) := by
  obtain ⟨⟨s, hs⟩, s', hs'⟩ := h
  refine ⟨s ++ s', ?_⟩
  show ((t.data .dataLength).orElse (.int 0)).plus ((t.data .indexLength).orElse (.int 0)) = _
  rw [hs, hs']
  rfl

/-- Numbers and texts cannot be added. -/
theorem totalLength_of_mixed (hword : (t.data .dataLength).IsWord)
    (hcount : (t.data .indexLength).IsCount) : t.totalLength = .error .unfitOperands := by
  obtain ⟨s, hs⟩ := hword
  obtain ⟨n, hn⟩ := hcount
  show ((t.data .dataLength).orElse (.int 0)).plus ((t.data .indexLength).orElse (.int 0)) = _
  rw [hs, hn]
  rfl

/-- Compare the lengths of two tables. -/
def compareLengths (a b : TableStatus) : Except Fault Int := do
  (← a.totalLength).sign (← b.totalLength)

theorem compareLengths_totalPreorder {P : TableStatus → Prop}
    (h : (∀ t, P t → t.HasCounts) ∨ ∀ t, P t → t.HasWords) : TotalPreorder P compareLengths := by
  rcases h with hcounts | hwords
  · refine totalPreorder_of_keys compare (fun t n => t.totalLength = .ok (.int n))
      (fun t ht => (hcounts t ht).totalLength) fun {a b m n} hm hn => ?_
    rw [compareLengths, hm, hn]
    exact Value.sign_int m n
  · refine totalPreorder_of_keys compare (fun t s => t.totalLength = .ok (.text s))
      (fun t ht => (hwords t ht).totalLength) fun {a b s s'} hs hs' => ?_
    rw [compareLengths, hs, hs']
    exact Value.sign_text s s'

/-- What can be added is a number or a text. -/
theorem totalLength_cases (hdata : (t.data .dataLength).IsCount ∨ (t.data .dataLength).IsWord)
    (hindex : (t.data .indexLength).IsCount ∨ (t.data .indexLength).IsWord) {v : Value}
    (h : t.totalLength = .ok v) : (∃ n, v = .int n) ∨ ∃ s, v = .text s := by
  change ((t.data .dataLength).orElse (.int 0)).plus ((t.data .indexLength).orElse (.int 0)) = _
    at h
  rcases hdata with ⟨m, hm⟩ | ⟨s, hs⟩ <;> rcases hindex with ⟨n, hn⟩ | ⟨s', hs'⟩
  · rw [hm, hn] at h
    exact .inl ⟨m + n, (Except.ok.inj h).symm⟩
  · rw [hm, hs'] at h
    cases h
  · rw [hs, hn] at h
    cases h
  · rw [hs, hs'] at h
    exact .inr ⟨s ++ s', (Except.ok.inj h).symm⟩

end TableStatus

namespace Order

variable {natural : Bool} {V : Value → Prop}

/-! ## Tables -/

section Tables

/-- Compare two tables by an attribute. -/
def compareBy (natural : Bool) (f : TableField) (a b : TableStatus) : Except Fault Int :=
  if f = .name then compareTexts (.text a.name) (.text b.name) natural
  else if f = .dataLength then a.compareLengths b
  else compareValues (a.data f) (b.data f) natural

theorem compareTables_eq (a b : TableStatus) (f : TableField) (order : String) (natural : Bool) :
    compareTables a b f.showColumn order natural = withNames (compareBy natural f a b) order
      (compareTexts (.text a.name) (.text b.name) natural) := by
  cases f <;> rfl

/-- The attributes beside the name that a sort by an attribute reads. -/
def readBy (f : TableField) : List TableField :=
  if f = .name then [] else if f = .dataLength then [.dataLength, .indexLength] else [f]

/-- The name of a table has a key, and what a sort by an attribute reads of it is among values. -/
def TableAmong (natural : Bool) (V : Value → Prop) (f : TableField) (t : TableStatus) : Prop :=
  (∃ k, textKey natural (.text t.name) = .ok k) ∧ ∀ g ∈ readBy f, V (t.data g)

/-- Values of an attribute by which tables can be sorted in any order: names always, lengths if they
are all numbers or all texts, and values of which the two orders do not cross. -/
def Coherent (natural : Bool) (V : Value → Prop) (f : TableField) : Prop :=
  if f = .name then True
  else if f = .dataLength then (∀ v, V v → v.IsCount) ∨ ∀ v, V v → v.IsWord
  else ¬ Crossing natural V

theorem names_totalPreorder {α : Type} {P : α → Prop} {name : α → String}
    (h : ∀ a, P a → ∃ k, textKey natural (.text (name a)) = .ok k) :
    TotalPreorder P fun a b => compareTexts (.text (name a)) (.text (name b)) natural :=
  ((compareTexts_totalPreorder natural).comap fun a => .text (name a)).mono h

theorem exists_textKey_empty (natural : Bool) : ∃ k, textKey natural (.text "") = .ok k := by
  cases natural <;> exact ⟨_, rfl⟩

theorem compareTexts_unnamed (natural : Bool) :
    compareTexts (.text "") (.text "") natural = .ok 0 :=
  (compareTexts_totalPreorder natural).refl (exists_textKey_empty natural)

/-- Lengths that can all be added are all numbers or all texts. -/
theorem counts_or_words (natural : Bool) (hV : ∀ v, V v → v.IsCount ∨ v.IsWord)
    (h : ∀ t, TableAmong natural V .dataLength t → ∃ n, t.compareLengths t = .ok n) :
    (∀ v, V v → v.IsCount) ∨ ∀ v, V v → v.IsWord := by
  by_contra hmixed
  obtain ⟨hcounts, hwords⟩ := not_or.mp hmixed
  obtain ⟨v, hv⟩ := not_forall.mp hcounts
  obtain ⟨w, hw⟩ := not_forall.mp hwords
  obtain ⟨hv, hnot⟩ := Classical.not_imp.mp hv
  obtain ⟨hw, hnot'⟩ := Classical.not_imp.mp hw
  let t : TableStatus :=
    { schema := "", name := "", data := fun f => if f = .dataLength then v else w }
  have ht : TableAmong natural V .dataLength t := by
    refine ⟨exists_textKey_empty natural, fun g hg => ?_⟩
    show V (if g = .dataLength then v else w)
    split
    · exact hv
    · exact hw
  obtain ⟨n, hn⟩ := h t ht
  have hfails : t.totalLength = .error .unfitOperands := TableStatus.totalLength_of_mixed
    ((hV v hv).resolve_left hnot) ((hV w hw).resolve_right hnot')
  rw [TableStatus.compareLengths, hfails] at hn
  cases hn

variable (hV : ∀ v, V v → Sortable natural v)

include hV

/-- Tables are sorted by a total preorder if and only if the values that are read are coherent. -/
theorem compareTables_totalPreorder_iff (f : TableField) (order : String) :
    TotalPreorder (TableAmong natural V f)
      (fun a b => compareTables a b f.showColumn order natural) ↔ Coherent natural V f := by
  have hnames : TotalPreorder (TableAmong natural V f)
      fun a b => compareTexts (.text a.name) (.text b.name) natural :=
    names_totalPreorder fun t ht => ht.1
  have hkinds (v : Value) (hv : V v) : v.IsCount ∨ v.IsWord := Value.count_or_word (hV v hv).kind
  simp only [compareTables_eq]
  unfold Coherent compareBy
  -- names always compare, lengths are added up first, and other columns compare as they are
  by_cases hname : f = .name
  · simp only [if_pos hname]
    exact iff_of_true (hnames.withNames hnames order) trivial
  · simp only [if_neg hname]
    by_cases hlength : f = .dataLength
    · subst hlength
      simp only [if_true]
      constructor
      · intro h
        refine counts_or_words natural hkinds fun t ht => ?_
        obtain ⟨n, hn⟩ := h.returns ht ht
        obtain ⟨m, hm, -⟩ := Except.bind_eq_ok.mp hn
        exact ⟨m, hm⟩
      · intro h
        refine (TableStatus.compareLengths_totalPreorder ?_).withNames hnames order
        have hread {t : TableStatus} (ht : TableAmong natural V .dataLength t) :
            V (t.data .dataLength) ∧ V (t.data .indexLength) :=
          ⟨ht.2 .dataLength (by decide), ht.2 .indexLength (by decide)⟩
        exact h.imp (fun hcounts t ht => ⟨hcounts _ (hread ht).1, hcounts _ (hread ht).2⟩)
          fun hwords t ht => ⟨hwords _ (hread ht).1, hwords _ (hread ht).2⟩
    · simp only [if_neg hlength]
      have hread : readBy f = [f] := by
        unfold readBy
        rw [if_neg hname, if_neg hlength]
      rw [← compareValues_totalPreorder_iff hV]
      refine withNames_totalPreorder_iff (fun a b => compareValues a b natural)
        (fun t : TableStatus => t.data f)
        (fun v => { schema := "", name := "", data := fun _ => v }) hnames (fun t ht => ?_)
        (fun v hv => ?_) (fun _ => rfl) (fun _ _ => compareTexts_unnamed natural) order
      · exact ht.2 f (by rw [hread]; exact List.mem_singleton_self f)
      · exact ⟨exists_textKey_empty natural, fun _ _ => hv⟩

omit hV in
theorem compareLengths_swap {a b : TableStatus}
    (ha : TableAmong natural (Sortable natural) .dataLength a)
    (hb : TableAmong natural (Sortable natural) .dataLength b) {k : Int}
    (h : a.compareLengths b = .ok k) : b.compareLengths a = .ok (-k) := by
  have hkinds {t : TableStatus} (ht : TableAmong natural (Sortable natural) .dataLength t)
      {v : Value} (hv : t.totalLength = .ok v) : (∃ n, v = .int n) ∨ ∃ s, v = .text s :=
    TableStatus.totalLength_cases (Value.count_or_word (ht.2 .dataLength (by decide)).kind)
      (Value.count_or_word (ht.2 .indexLength (by decide)).kind) hv
  unfold TableStatus.compareLengths at h ⊢
  obtain ⟨v, hv, h⟩ := Except.bind_eq_ok.mp h
  obtain ⟨w, hw, h⟩ := Except.bind_eq_ok.mp h
  rw [hv, hw, Except.ok_bind, Except.ok_bind]
  rcases hkinds ha hv with ⟨m, rfl⟩ | ⟨s, rfl⟩ <;> rcases hkinds hb hw with ⟨n, rfl⟩ | ⟨s', rfl⟩
  · rw [Value.sign_int] at h ⊢
    have hswap : compare n m = (compare m n).swap := Std.OrientedCmp.eq_swap
    rw [hswap, signOf_swap, Except.ok.inj h]
  · cases h
  · cases h
  · rw [Value.sign_text] at h ⊢
    have hswap : compare s' s = (compare s s').swap := Std.OrientedCmp.eq_swap
    rw [hswap, signOf_swap, Except.ok.inj h]

omit hV in
/-- A comparison of tables that returns turns round with its arguments, coherent or not. -/
theorem compareTables_swap {f : TableField} {a b : TableStatus}
    (ha : TableAmong natural (Sortable natural) f a)
    (hb : TableAmong natural (Sortable natural) f b) {order : String} {k : Int}
    (h : compareTables a b f.showColumn order natural = .ok k) :
    compareTables b a f.showColumn order natural = .ok (-k) := by
  have hnames (n : Int) (hn : compareTexts (.text a.name) (.text b.name) natural = .ok n) :
      compareTexts (.text b.name) (.text a.name) natural = .ok (-n) :=
    (compareTexts_totalPreorder natural).swap ha.1 hb.1 hn
  rw [compareTables_eq] at h ⊢
  refine withNames_swap (fun n hn => ?_) hnames h
  unfold compareBy at hn ⊢
  split at hn
  · rename_i hname
    rw [if_pos hname]
    exact hnames n hn
  · rename_i hname
    rw [if_neg hname]
    split at hn
    · rename_i hlength
      subst hlength
      exact compareLengths_swap ha hb hn
    · rename_i hlength
      rw [if_neg hlength]
      have hmem : f ∈ readBy f := by
        unfold readBy
        rw [if_neg hname, if_neg hlength]
        exact List.mem_singleton_self f
      exact compareValues_swap (ha.2 f hmem) (hb.2 f hmem) hn

omit hV in
/-- Tables can always be compared, but for lengths of which some are numbers and some are texts. -/
theorem compareTables_returns {f : TableField} {a b : TableStatus}
    (ha : TableAmong natural (Sortable natural) f a)
    (hb : TableAmong natural (Sortable natural) f b)
    (h : f = .dataLength → a.HasCounts ∧ b.HasCounts ∨ a.HasWords ∧ b.HasWords) (order : String) :
    ∃ n, compareTables a b f.showColumn order natural = .ok n := by
  have hnames := (compareTexts_totalPreorder natural).returns ha.1 hb.1
  rw [compareTables_eq]
  refine exists_withNames ?_ hnames
  unfold compareBy
  split
  · exact hnames
  · rename_i hname
    split
    · rename_i hlength
      rcases h hlength with hcounts | hwords
      · exact (TableStatus.compareLengths_totalPreorder (.inl fun _ ht => ht)).returns hcounts.1
          hcounts.2
      · exact (TableStatus.compareLengths_totalPreorder (.inr fun _ ht => ht)).returns hwords.1
          hwords.2
    · rename_i hlength
      have hmem : f ∈ readBy f := by
        unfold readBy
        rw [if_neg hname, if_neg hlength]
        exact List.mem_singleton_self f
      exact compareValues_returns (ha.2 f hmem) (hb.2 f hmem)

end Tables

/-! ## Databases -/

section Databases

/-- The name of a database has a key, and its value in another column is among values. -/
def DatabaseAmong (natural : Bool) (V : Value → Prop) (column : String) (d : DatabaseStats) :
    Prop :=
  (∃ k, textKey natural (.text d.name) = .ok k) ∧ (column ≠ "SCHEMA_NAME" → V (d.value column))

/-- The column of databases is one of texts. -/
def IsTextColumn (column : String) : Prop :=
  column = "SCHEMA_NAME" ∨ column = "DEFAULT_COLLATION_NAME"

instance (column : String) : Decidable (IsTextColumn column) := inferInstanceAs (Decidable (_ ∨ _))

theorem compareDatabases_eq (a b : DatabaseStats) (column order : String) (natural : Bool) :
    compareDatabases a b column order natural = withNames
      (if IsTextColumn column then compareTexts (a.value column) (b.value column) natural
        else compareValues (a.value column) (b.value column) natural) order
      (compareTexts (.text a.name) (.text b.name) natural) := rfl

theorem value_name (d : DatabaseStats) : d.value "SCHEMA_NAME" = .text d.name := if_pos rfl

/-- A database without a name that has a value in every other column. -/
def holder (v : Value) : DatabaseStats := { name := "", collation := v, data := fun _ => v }

theorem value_holder {column : String} (h : column ∈ databaseColumns)
    (hname : column ≠ "SCHEMA_NAME") (v : Value) : (holder v).value column = v := by
  unfold DatabaseStats.value
  rw [if_neg hname]
  split
  · rfl
  · rename_i hcollation
    have hmem : column ∈ DatabaseField.all.map (·.column) := by
      simpa [databaseColumns, hname, hcollation] using h
    obtain ⟨f, hf, rfl⟩ := List.mem_map.mp hmem
    cases f <;> rfl

theorem compareDatabases_totalPreorder_iff (hV : ∀ v, V v → Sortable natural v) {column : String}
    (hcolumn : column ∈ databaseColumns) (order : String) :
    TotalPreorder (DatabaseAmong natural V column)
      (fun a b => compareDatabases a b column order natural) ↔
      (IsTextColumn column ∨ ¬ Crossing natural V) := by
  have hnames : TotalPreorder (DatabaseAmong natural V column)
      fun a b => compareTexts (.text a.name) (.text b.name) natural :=
    names_totalPreorder fun t ht => ht.1
  simp only [compareDatabases_eq]
  by_cases htext : IsTextColumn column
  · simp only [if_pos htext]
    refine iff_of_true (TotalPreorder.withNames ?_ hnames order) (.inl htext)
    have hkeys (d : DatabaseStats) (hd : DatabaseAmong natural V column d) :
        ∃ k, textKey natural (d.value column) = .ok k := by
      by_cases hname : column = "SCHEMA_NAME"
      · rw [hname, value_name]
        exact hd.1
      · exact (hV _ (hd.2 hname)).key
    have hcolumns := (compareTexts_totalPreorder natural).comap fun d : DatabaseStats =>
      d.value column
    exact hcolumns.mono hkeys
  · have hname : column ≠ "SCHEMA_NAME" := fun h => htext (.inl h)
    simp only [if_neg htext]
    rw [or_iff_right htext, ← compareValues_totalPreorder_iff hV]
    refine withNames_totalPreorder_iff (fun a b => compareValues a b natural)
      (fun d : DatabaseStats => d.value column) holder hnames (fun d hd => hd.2 hname)
      (fun v hv => ⟨exists_textKey_empty natural, fun _ => ?_⟩) (value_holder hcolumn hname)
      (fun _ _ => compareTexts_unnamed natural) order
    rw [value_holder hcolumn hname]
    exact hv

variable {column : String} {a b : DatabaseStats}
  (ha : DatabaseAmong natural (Sortable natural) column a)
  (hb : DatabaseAmong natural (Sortable natural) column b)

include ha hb

/-- A comparison of databases turns round with its arguments. -/
theorem compareDatabases_swap {order : String} {k : Int}
    (h : compareDatabases a b column order natural = .ok k) :
    compareDatabases b a column order natural = .ok (-k) := by
  have hnames (n : Int) (hn : compareTexts (.text a.name) (.text b.name) natural = .ok n) :
      compareTexts (.text b.name) (.text a.name) natural = .ok (-n) :=
    (compareTexts_totalPreorder natural).swap ha.1 hb.1 hn
  rw [compareDatabases_eq] at h ⊢
  refine withNames_swap (fun n hn => ?_) hnames h
  by_cases hname : column = "SCHEMA_NAME"
  · rw [if_pos (.inl hname), hname, value_name, value_name] at hn ⊢
    exact hnames n hn
  · split at hn
    · rename_i htext
      rw [if_pos htext]
      exact (compareTexts_totalPreorder natural).swap (ha.2 hname).key (hb.2 hname).key hn
    · rename_i htext
      rw [if_neg htext]
      exact compareValues_swap (ha.2 hname) (hb.2 hname) hn

/-- Databases can always be compared. -/
theorem compareDatabases_returns (order : String) :
    ∃ n, compareDatabases a b column order natural = .ok n := by
  have hnames := (compareTexts_totalPreorder natural).returns ha.1 hb.1
  rw [compareDatabases_eq]
  refine exists_withNames ?_ hnames
  by_cases hname : column = "SCHEMA_NAME"
  · rw [if_pos (.inl hname), hname, value_name, value_name]
    exact hnames
  · split
    · exact (compareTexts_totalPreorder natural).returns (ha.2 hname).key (hb.2 hname).key
    · exact compareValues_returns (ha.2 hname) (hb.2 hname)

end Databases

end Order

end SqlDesk
