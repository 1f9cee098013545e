import SqlDesk.Proofs.Statistics
import SqlDesk.Proofs.Table

/-!
# Reading a rendered status again

A status that was read from a row is rendered as a row that has its attributes under both of their
names, beside its extra information. Read again, that row gives the same attributes: a number that
was read stays as it is, and the columns of the other source, which now are extra information, are
written over when the status is rendered once more.
-/

namespace SqlDesk

/-- Two rows are the same mapping: they have the same keys and values, in whatever order. -/
def Row.SameMapping (r s : Row) : Prop := ∀ k, Assoc.get? r k = Assoc.get? s k

namespace TableStatus

variable {t u : TableStatus}

/-! ## What a rendered status holds -/

/-- The key is a column of either source. -/
def IsColumn (k : Value) : Prop := ∃ c ∈ showColumns ++ catalogColumns, k = .text c

/-- The names of the columns that a status adds to its extra information. -/
def columnNames : List String :=
  ["TABLE_SCHEMA", "TABLE_TYPE", "Db"] ++
    TableField.all.flatMap (fun f => [f.catalogColumn, f.showColumn]) ++ ["Type"]

theorem columns_names (t : TableStatus) : t.columns.map Prod.fst = columnNames := rfl

theorem isColumn_of_mem {c : String} (h : c ∈ columnNames) : IsColumn (.text c) := by
  have hknown : ∀ c ∈ columnNames, c ∈ showColumns ++ catalogColumns := by decide
  exact ⟨c, hknown c h, rfl⟩

/-- A column that a status adds has the value that it adds. -/
theorem column?_asRow {c : String} {v : Value} (h : (c, v) ∈ t.columns) :
    t.asRow.column? c = some v := by
  rw [asRow_eq]
  refine Row.column?_putAll_of_mem ?_ h t.extra
  rw [columns_names]
  decide

/-- Extra information that is no column of either source stays as it is. -/
theorem get?_asRow {k : Value} (h : ¬ IsColumn k) (t : TableStatus) :
    Assoc.get? t.asRow k = Assoc.get? t.extra k := by
  rw [asRow_eq]
  refine Row.get?_putAll_of_notMem (fun c hc hk => ?_) t.extra
  rw [columns_names] at hc
  exact h (hk ▸ isColumn_of_mem hc)

theorem mem_columns (t : TableStatus) (f : TableField) :
    (f.catalogColumn, t.get f) ∈ t.columns ∧ (f.showColumn, t.get f) ∈ t.columns := by
  have hf : f ∈ TableField.all := by cases f <;> decide
  have hpair : ∀ c ∈ [(f.catalogColumn, t.get f), (f.showColumn, t.get f)], c ∈ t.columns :=
    fun c hc => List.mem_append_left _ (List.mem_append_right _ (List.mem_flatMap.mpr ⟨f, hf, hc⟩))
  exact ⟨hpair _ (by simp), hpair _ (by simp)⟩

/-! ## What is read of a row -/

/-- Extra information has what a row has beside the known columns. -/
theorem get?_extraOf {known : List String} {k : Value} (h : ∀ c ∈ known, k ≠ .text c) (row : Row) :
    Assoc.get? (extraOf row known) k = Assoc.get? row k := by
  unfold extraOf
  induction row with
  | nil => rfl
  | cons e row ih =>
    rw [List.filter_cons, Assoc.get?_cons]
    by_cases he : (known.any fun c => e.1 == .text c) = true
    · obtain ⟨c, hc, hec⟩ := List.any_eq_true.mp he
      have hne : ¬ (e.1 == k) = true := by
        intro hek
        exact Value.not_beq_text hek (h c hc) hec
      rw [he, if_neg hne, if_neg (by decide), ih]
    · rw [Bool.not_eq_true] at he
      rw [he, if_pos (by decide), Assoc.get?_cons, ih]

theorem readFields_eq_ok {row : Row} {column : TableField → String} {data : TableField → Value}
    (h : ∀ f, coerce (row.column (column f)) f.isNumeric = .ok (data f)) :
    readFields row column = .ok data := by
  have hread : (TableField.all.mapM fun f => do
      return (f, ← coerce (row.column (column f)) f.isNumeric)) =
      (.ok (TableField.all.map fun f => (f, data f)) : Except Fault _) :=
    Except.mapM_eq_ok_map (fun f => by rw [h]; rfl) _
  unfold readFields
  rw [hread]
  refine congrArg Except.ok (funext fun f => ?_)
  cases f <;> rfl

/-- What was read as a number, or left as it is, is read as it is. -/
theorem coerce_coerce {v w : Value} {numeric : Bool} (h : coerce v numeric = .ok w) :
    coerce w numeric = .ok w := by
  cases numeric
  · rfl
  · obtain ⟨_ | n, hn, hw⟩ := Except.bind_eq_ok.mp h
    · obtain rfl := Except.ok.inj hw
      rw [coerce, if_pos rfl, hn]
      rfl
    · obtain rfl := Except.ok.inj hw
      cases n <;> rfl

/-- A status that a row can hold: its attributes are read as they are, and its kind is told. -/
structure Settled (t : TableStatus) : Prop where
  attributes : ∀ f, coerce (t.get f) f.isNumeric = .ok (t.get f)
  kind : t.tableType.truthy = true

theorem coerce_get {row : Row} {column : TableField → String}
    (h : readFields row column = .ok t.data) (f : TableField) :
    coerce (t.get f) f.isNumeric = .ok (t.get f) := by
  have hdata : coerce (t.data f) f.isNumeric = .ok (t.data f) :=
    coerce_coerce (data_of_readFields h f)
  cases f
  case name => rfl
  all_goals exact hdata

theorem settled_of_ofShowRow {row : Row} {schema : String} (h : ofShowRow row schema = .ok t) :
    t.Settled := by
  obtain ⟨data, hdata, ht⟩ := Except.bind_eq_ok.mp h
  obtain rfl := Except.ok.inj ht
  exact ⟨coerce_get hdata, kindOf_truthy _ _ _⟩

theorem settled_of_ofCatalogRow {row : Row} (h : ofCatalogRow row = .ok t) : t.Settled := by
  obtain ⟨data, hdata, ht⟩ := Except.bind_eq_ok.mp h
  obtain rfl := Except.ok.inj ht
  refine ⟨coerce_get hdata, ?_⟩
  show ((row.column "TABLE_TYPE").orElse (.text "BASE TABLE")).truthy = true
  unfold Value.orElse
  split
  · assumption
  · rfl

/-! ## Reading again -/

/-- Two statuses tell the same, and so does their extra information beside the columns of either
source. -/
structure Alike (u t : TableStatus) : Prop where
  agrees : u.Agrees t
  extra : ∀ k, ¬ IsColumn k → Assoc.get? u.extra k = Assoc.get? t.extra k

theorem Alike.sameMapping (h : u.Alike t) : u.asRow.SameMapping t.asRow := by
  intro k
  by_cases hk : IsColumn k
  · obtain ⟨c, hc, rfl⟩ := hk
    exact h.agrees.column?_asRow (List.mem_append.mp hc)
  · rw [get?_asRow hk, get?_asRow hk, h.extra k hk]

/-- A status that has the attributes of another, and the rest of its row as extra information. -/
theorem alike_of_get {schema name : String} {kind : Value} {known : List String}
    (hschema : schema = t.schema) (hname : name = t.name) (hkind : kind = t.tableType)
    (hknown : ∀ c ∈ known, c ∈ columnNames) :
    Alike { schema, name, tableType := kind, data := t.get, extra := extraOf t.asRow known } t where
  agrees := by
    refine ⟨hschema, hkind, fun f => ?_⟩
    cases f
    case name => exact congrArg Value.text hname
    all_goals rfl
  extra k hk := by
    have hother : ∀ c ∈ known, k ≠ .text c := by
      rintro c hc rfl
      exact hk (isColumn_of_mem (hknown c hc))
    dsimp only
    rw [get?_extraOf hother, get?_asRow hk]

theorem columnText_asRow {c s : String} (h : (c, .text s) ∈ t.columns) :
    columnText t.asRow c = s := by
  unfold columnText
  rw [column?_asRow h]
  rfl

theorem column_asRow {c : String} {v : Value} (h : (c, v) ∈ t.columns) :
    t.asRow.column c = v := by
  unfold Row.column
  rw [column?_asRow h]
  rfl

section Again

variable (h : t.Settled)

include h

theorem Settled.ofCatalogRow_asRow : ∃ u, ofCatalogRow t.asRow = .ok u ∧ u.Alike t := by
  have hread : readFields t.asRow (·.catalogColumn) = .ok t.get :=
    readFields_eq_ok fun f => by rw [column_asRow (t.mem_columns f).1, h.attributes]
  have htype : ("TABLE_TYPE", t.tableType) ∈ t.columns := by simp [columns]
  unfold ofCatalogRow
  rw [hread]
  refine ⟨_, rfl, alike_of_get ?_ ?_ ?_ (by decide)⟩
  · exact columnText_asRow (List.mem_cons_self ..)
  · exact columnText_asRow (t.mem_columns .name).1
  · rw [column_asRow htype, Value.orElse, if_pos h.kind]

theorem Settled.ofShowRow_asRow
    (hkind : t.tableType = .text (kindOf t.schema (t.get .engine) (t.get .comment))) :
    ∃ u, ofShowRow t.asRow t.schema = .ok u ∧ u.Alike t := by
  have hread : readFields t.asRow (·.showColumn) = .ok t.get :=
    readFields_eq_ok fun f => by rw [column_asRow (t.mem_columns f).2, h.attributes]
  unfold ofShowRow
  rw [hread]
  refine ⟨_, rfl, alike_of_get rfl ?_ hkind.symm (by decide)⟩
  exact columnText_asRow (t.mem_columns .name).2

end Again

/-- Whatever a row holds: a status that was read from it and rendered is read again, by the same
reader, as one that is rendered as the same mapping. The reader of the catalog gets back what either
reader had read. What the row had beside the columns of either source is in the rendered row as it
was. -/
theorem asRow_read_again (row : Row) (t : TableStatus) :
    (∀ schema, ofShowRow row schema = .ok t →
      ∃ u, ofShowRow t.asRow t.schema = .ok u ∧ u.asRow.SameMapping t.asRow) ∧
    (ofCatalogRow row = .ok t →
      ∃ u, ofCatalogRow t.asRow = .ok u ∧ u.asRow.SameMapping t.asRow) ∧
    ((∃ schema, ofShowRow row schema = .ok t) ∨ ofCatalogRow row = .ok t →
      (∃ u, ofCatalogRow t.asRow = .ok u ∧ u.Agrees t) ∧
      ∀ k, ¬ IsColumn k → Assoc.get? t.asRow k = Assoc.get? row k) := by
  refine ⟨fun schema hread => ?_, fun hread => ?_, fun hread => ⟨?_, fun k hk => ?_⟩⟩
  · have hsettled := settled_of_ofShowRow hread
    obtain ⟨data, -, ht⟩ := Except.bind_eq_ok.mp hread
    -- this reader works the kind out again, from the engine and the comment that it had read
    have hkind : t.tableType = .text (kindOf t.schema (t.get .engine) (t.get .comment)) := by
      rw [← Except.ok.inj ht]
      rfl
    obtain ⟨u, hu, halike⟩ := hsettled.ofShowRow_asRow hkind
    exact ⟨u, hu, halike.sameMapping⟩
  · obtain ⟨u, hu, halike⟩ := (settled_of_ofCatalogRow hread).ofCatalogRow_asRow
    exact ⟨u, hu, halike.sameMapping⟩
  · have hsettled : t.Settled := by
      rcases hread with ⟨schema, hread⟩ | hread
      · exact settled_of_ofShowRow hread
      · exact settled_of_ofCatalogRow hread
    obtain ⟨u, hu, halike⟩ := hsettled.ofCatalogRow_asRow
    exact ⟨u, hu, halike.agrees⟩
  · have hshow : ∀ c ∈ showColumns, k ≠ .text c :=
      fun c hc heq => hk ⟨c, List.mem_append_left _ hc, heq⟩
    have hcatalog : ∀ c ∈ catalogColumns, k ≠ .text c :=
      fun c hc heq => hk ⟨c, List.mem_append_right _ hc, heq⟩
    rw [get?_asRow hk]
    rcases hread with ⟨schema, hread⟩ | hread
    · obtain ⟨data, -, ht⟩ := Except.bind_eq_ok.mp hread
      rw [← Except.ok.inj ht]
      exact get?_extraOf hshow row
    · obtain ⟨data, -, ht⟩ := Except.bind_eq_ok.mp hread
      rw [← Except.ok.inj ht]
      exact get?_extraOf hcatalog row

/-- A row of `SHOW TABLE STATUS` that also has columns of the catalog, with other values, and
numbers in several spellings. Either reader takes it. -/
theorem mixed_row_read_again :
    let row : Row := .ofFacts [("Name", .text "orders"), ("TABLE_ROWS", .text "007"),
      ("Rows", .text " +12 "), ("Data_length", .bool true), ("Data_free", .text "much"),
      ("TABLE_TYPE", .text "VIEW"), ("Db", .text "other"), ("Note", .text "12")]
    ∃ t t', (ofShowRow row "shop" = .ok t ∧ ofCatalogRow row = .ok t') ∧
      (∃ u, ofShowRow t.asRow t.schema = .ok u ∧ u.asRow.SameMapping t.asRow) ∧
      (∃ u, ofCatalogRow t'.asRow = .ok u ∧ u.asRow.SameMapping t'.asRow) ∧
      (∃ u, ofCatalogRow t.asRow = .ok u ∧ u.Agrees t) ∧
      t.asRow.column? "Note" = some (.text "12") ∧ t.asRow.column? "TABLE_ROWS" = some (.int 12) ∧
      t'.asRow.column? "Rows" = some (.int 7) := by
  intro row
  obtain ⟨t, ht⟩ : ∃ t, ofShowRow row "shop" = .ok t := ⟨_, rfl⟩
  obtain ⟨t', ht'⟩ : ∃ t', ofCatalogRow row = .ok t' := ⟨_, rfl⟩
  obtain ⟨hshow, -, heither⟩ := asRow_read_again row t
  obtain ⟨-, hcatalog, -⟩ := asRow_read_again row t'
  obtain ⟨hagain, hkept⟩ := heither (.inl ⟨"shop", ht⟩)
  have hnote : ¬ IsColumn (.text "Note") := by
    rintro ⟨c, hc, heq⟩
    obtain rfl := Value.text.inj heq
    exact absurd hc (by decide)
  have hrows : t.get .rows = .int 12 := (Except.ok.inj (data_of_ofShowRow ht .rows)).symm
  have hrows' : t'.get .rows = .int 7 := by
    obtain ⟨data, hdata, hmade⟩ := Except.bind_eq_ok.mp ht'
    rw [← Except.ok.inj hmade]
    exact (Except.ok.inj (data_of_readFields hdata .rows)).symm
  refine ⟨t, t', ⟨ht, ht'⟩, hshow "shop" ht, hcatalog ht', hagain, hkept _ hnote, ?_, ?_⟩
  · rw [← hrows]
    exact column?_asRow (t.mem_columns .rows).1
  · rw [← hrows']
    exact column?_asRow (t'.mem_columns .rows).2

end TableStatus

end SqlDesk
