import SqlDesk.Order.Listing
import SqlDesk.Proofs.Except
import SqlDesk.Proofs.Order.Sorting
import SqlDesk.Proofs.Value
import SqlDesk.Table

/-!
# The two sources of a table's status

A row of the catalog and a row of `SHOW TABLE STATUS` that tell the same about a table are read as
the same status, up to the extra information of their own columns. Extra information does not take
part in the order of tables and does not hide any attribute of a row.
-/

namespace SqlDesk

namespace TableStatus

/-- A status without its extra information. -/
def core (t : TableStatus) : TableStatus := { t with extra := [] }

/-- Two statuses tell the same, extra information aside. -/
structure Agrees (t u : TableStatus) : Prop where
  schema : t.schema = u.schema
  tableType : t.tableType = u.tableType
  get : ∀ f, t.get f = u.get f

theorem get_core (t : TableStatus) (f : TableField) : t.core.get f = t.get f := by
  cases f <;> rfl

theorem agrees_of_core_eq {t u : TableStatus} (h : t.core = u.core) : t.Agrees u where
  schema := show t.core.schema = u.core.schema by rw [h]
  tableType := show t.core.tableType = u.core.tableType by rw [h]
  get f := by rw [← get_core, h, get_core]

/-! ## Rows -/

/-- The columns that a status adds to its extra information, in the order in which it does. -/
def columns (t : TableStatus) : List (String × Value) :=
  [("TABLE_SCHEMA", .text t.schema), ("TABLE_TYPE", t.tableType), ("Db", .text t.schema)] ++
    TableField.all.flatMap (fun f => [(f.catalogColumn, t.get f), (f.showColumn, t.get f)]) ++
    [("Type", t.get .engine)]

theorem asRow_eq (t : TableStatus) : t.asRow = Row.putAll t.extra t.columns := by
  unfold asRow
  simp only [columns, Row.putAll, List.foldl_append, List.foldl_flatMap, List.foldl_cons,
    List.foldl_nil, Row.put]

theorem Agrees.columns_eq {t u : TableStatus} (h : t.Agrees u) : t.columns = u.columns := by
  simp only [columns, h.schema, h.tableType, h.get]

/-- Statuses that agree give rows that agree in every column of either source. -/
theorem Agrees.column?_asRow {t u : TableStatus} (h : t.Agrees u) {c : String}
    (hc : c ∈ showColumns ∨ c ∈ catalogColumns) : t.asRow.column? c = u.asRow.column? c := by
  rw [asRow_eq, asRow_eq, h.columns_eq]
  refine Row.column?_putAll (.inl ?_)
  have hcolumns : u.columns.map Prod.fst = ["TABLE_SCHEMA", "TABLE_TYPE", "Db"] ++
      TableField.all.flatMap (fun f => [f.catalogColumn, f.showColumn]) ++ ["Type"] := rfl
  have hknown : ∀ d ∈ showColumns ++ catalogColumns, d ∈ ["TABLE_SCHEMA", "TABLE_TYPE", "Db"] ++
      TableField.all.flatMap (fun f => [f.catalogColumn, f.showColumn]) ++ ["Type"] := by decide
  rw [hcolumns]
  exact hknown c (List.mem_append.mpr hc)

/-! ## Reading -/

/-- Every attribute of a status is read from its column. -/
theorem data_of_readFields {row : Row} {column : TableField → String} {data : TableField → Value}
    (h : readFields row column = .ok data) (f : TableField) :
    coerce (row.column (column f)) f.isNumeric = .ok (data f) := by
  obtain ⟨vs, hvs, hdata⟩ := Except.bind_eq_ok.mp h
  have hf : f ∈ TableField.all := by cases f <;> decide
  obtain ⟨v, hv, hlookup⟩ := Except.lookup_of_mapM_eq_ok hvs hf
  have hlast : (vs.lookup f).getD .null = data f := congrFun (Except.ok.inj hdata) f
  rw [hv, ← hlast, hlookup]
  rfl

theorem data_of_ofShowRow {row : Row} {schema : String} {t : TableStatus}
    (h : ofShowRow row schema = .ok t) (f : TableField) :
    coerce (row.column f.showColumn) f.isNumeric = .ok (t.data f) := by
  obtain ⟨data, hdata, ht⟩ := Except.bind_eq_ok.mp h
  obtain rfl := Except.ok.inj ht
  exact data_of_readFields hdata f

/-- A row of the catalog and a row of `SHOW TABLE STATUS` tell the same about a table of a database:
each attribute is in both rows, with values that are read as the same, or in neither. -/
structure Twins (database : String) (catalog status : Row) : Prop where
  schema : catalog.column? "TABLE_SCHEMA" = some (.text database)
  tableType : ∀ t, ofShowRow status database = .ok t →
    catalog.column? "TABLE_TYPE" = some t.tableType
  field : ∀ f : TableField,
    (catalog.column? f.catalogColumn = none ∧ status.column? f.showColumn = none) ∨
      ∃ v w, catalog.column? f.catalogColumn = some v ∧ status.column? f.showColumn = some w ∧
        coerce v f.isNumeric = coerce w f.isNumeric

/-- The kind of a table is a text that is not empty, so a row that has it keeps it. -/
theorem kindOf_truthy (schema : String) (engine comment : Value) :
    (Value.text (kindOf schema engine comment)).truthy = true := by
  have htruthy : ∀ s ∈ ["VIEW", "SYSTEM VIEW", "BASE TABLE"], (Value.text s).truthy = true := by
    decide
  refine htruthy _ ?_
  unfold kindOf
  extract_lets noEngine
  split
  · simp
  · split <;> simp

/-- Rows with the columns of a name, an engine, a number of rows and a comment tell the same if the
catalog gives the kind that follows from them. -/
theorem twins_of_columns {database : String} {name kind engine comment rows rows' : Value}
    (hkind : kind = .text (kindOf database engine comment))
    (hrows : coerce rows true = coerce rows' true) :
    Twins database
      [(.text "TABLE_SCHEMA", .text database), (.text "TABLE_NAME", name),
        (.text "TABLE_TYPE", kind), (.text "ENGINE", engine), (.text "TABLE_ROWS", rows),
        (.text "TABLE_COMMENT", comment)]
      [(.text "Name", name), (.text "Engine", engine), (.text "Rows", rows'),
        (.text "Comment", comment)] where
  schema := rfl
  tableType t ht := by
    obtain ⟨data, hdata, ht⟩ := Except.bind_eq_ok.mp ht
    obtain rfl := Except.ok.inj ht
    have hengine : engine = data .engine := Except.ok.inj (data_of_readFields hdata .engine)
    have hcomment : comment = data .comment := Except.ok.inj (data_of_readFields hdata .comment)
    rw [hkind, hengine, hcomment]
    rfl
  field f := by
    cases f
    case rows => exact .inr ⟨rows, rows', rfl, rfl, hrows⟩
    case name | engine | comment => exact .inr ⟨_, _, rfl, rfl, rfl⟩
    all_goals exact .inl ⟨rfl, rfl⟩

section Twins

variable {database : String} {catalog status : Row} (h : Twins database catalog status)

include h

theorem Twins.readFields_eq :
    readFields catalog (·.catalogColumn) = readFields status (·.showColumn) := by
  have hfield (f : TableField) : coerce (catalog.column f.catalogColumn) f.isNumeric =
      coerce (status.column f.showColumn) f.isNumeric := by
    rcases h.field f with ⟨hc, hs⟩ | ⟨v, w, hv, hw, hvw⟩
    · rw [Row.column, Row.column, hc, hs]
    · rw [Row.column, Row.column, hv, hw]
      exact hvw
  simp only [readFields, hfield]

theorem Twins.name_eq : columnText catalog "TABLE_NAME" = columnText status "Name" := by
  rcases h.field .name with ⟨hc, hs⟩ | ⟨v, w, hv, hw, hvw⟩
  · rw [columnText, columnText]
    exact congrArg (fun o => (Option.map Value.plain o).getD "") (hc.trans hs.symm)
  · obtain rfl : v = w := Except.ok.inj hvw
    rw [columnText, columnText]
    exact congrArg (fun o => (Option.map Value.plain o).getD "") (hv.trans hw.symm)

theorem Twins.core_eq :
    core <$> ofCatalogRow catalog = core <$> ofShowRow status database := by
  rcases hdata : readFields status (·.showColumn) with e | data
  · simp [ofCatalogRow, h.readFields_eq, ofShowRow, hdata]
  · have hshow : ofShowRow status database = .ok
        { schema := database
          name := columnText status "Name"
          tableType := .text (kindOf database (data .engine) (data .comment))
          data
          extra := extraOf status showColumns } := by
      rw [ofShowRow, hdata]
      rfl
    have hcatalog : ofCatalogRow catalog = .ok
        { schema := database
          name := columnText status "Name"
          tableType := .text (kindOf database (data .engine) (data .comment))
          data
          extra := extraOf catalog catalogColumns } := by
      have hschema : columnText catalog "TABLE_SCHEMA" = database := by
        rw [columnText, h.schema]
        rfl
      rw [ofCatalogRow, h.readFields_eq, hdata, h.name_eq, Row.column, h.tableType _ hshow]
      simp [hschema, Value.orElse, kindOf_truthy, pure, Except.pure]
    rw [hcatalog, hshow]
    rfl

end Twins

/-- Rows that tell the same one by one are read as statuses that are the same, extra information
aside, with the same failure if one of them cannot be read. -/
theorem mapM_core_eq {database : String} {rows rows' : List Row}
    (h : List.Forall₂ (Twins database) rows rows') :
    List.map core <$> rows.mapM ofCatalogRow =
      List.map core <$> rows'.mapM (ofShowRow · database) :=
  Except.map_mapM_congr (h.imp fun _ _ hrow => hrow.core_eq)

/-! ## Sorting -/

theorem compareTables_core (t u : TableStatus) {sortBy : String}
    (h : (TableField.ofShowColumn? sortBy).isSome) (order : String) (natural : Bool) :
    Order.compareTables t.core u.core sortBy order natural =
      Order.compareTables t u sortBy order natural := by
  have hvalue (t : TableStatus) : t.core.value sortBy = t.value sortBy := by
    unfold value
    obtain ⟨f, hf⟩ := Option.isSome_iff_exists.mp h
    rw [hf]
    exact get_core t f
  unfold Order.compareTables
  simp only [hvalue]
  rfl

end TableStatus

end SqlDesk
