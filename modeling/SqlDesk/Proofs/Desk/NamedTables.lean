import SqlDesk.Proofs.Desk.Run
import SqlDesk.Proofs.Desk.Sources
import SqlDesk.Proofs.Desk.Visible
import SqlDesk.Proofs.Order.Sorting
import SqlDesk.Proofs.Sql.Where

/-!
# Listings of tables by their names

A listing of tables is narrowed to a list of names by the statements alone: whichever source they
read, they ask for tables with one of the names, and a server that honours the condition sends no
other ones. A list without names is not taken as such. It puts no condition on a statement, and the
listing is that of all tables.
-/

namespace SqlDesk

variable {σ : Type}

/-- The server sends no rows but those that satisfy the conditions of a statement, where these can
be read. -/
def Driver.HonoursWhere (d : Driver σ) : Prop :=
  ∀ sql link unbuffered j r, (d.execute sql link unbuffered j).1 = .ok (.rows r) →
    ∀ cs, Sql.conditions sql = some cs →
    ∀ row ∈ r.rows, ∀ c ∈ cs, c.holds (r.asMapping row) = true

namespace TableStatus

theorem columnText_of_holds {c : Sql.Condition} {row : Row} (h : c.holds row = true) :
    columnText row c.column ∈ c.texts := by
  obtain ⟨text, htext, hrow⟩ := List.any_eq_true.mp h
  have hvalue : row.column c.column = .text text := (Value.beq_text _ _).mp hrow
  unfold Row.column at hvalue
  unfold columnText
  rcases hcolumn : row.column? c.column with _ | v <;> rw [hcolumn] at hvalue
  · cases hvalue
  · obtain rfl : v = .text text := hvalue
    exact htext

theorem name_of_ofCatalogRow {row : Row} {t : TableStatus} (h : ofCatalogRow row = .ok t) :
    t.name = columnText row "TABLE_NAME" := by
  obtain ⟨data, -, h⟩ := Except.bind_eq_ok.mp h
  obtain rfl := Except.ok.inj h
  rfl

theorem name_of_ofShowRow {row : Row} {schema : String} {t : TableStatus}
    (h : ofShowRow row schema = .ok t) : t.name = columnText row "Name" := by
  obtain ⟨data, -, h⟩ := Except.bind_eq_ok.mp h
  obtain rfl := Except.ok.inj h
  rfl

end TableStatus

namespace Desk

open Act TableStatus

/-- What a listing shows was read, each table under its name. -/
theorem mem_of_listing {settings : DeskSettings} {view : TableView}
    {read : Except Error (List TableStatus)} {ts : Assoc String TableStatus}
    (h : listing settings view read = .ok ts) :
    ∃ all, read = .ok all ∧ ∀ e ∈ ts, e.1 = e.2.name ∧ e.2 ∈ all := by
  unfold listing at h
  split at h
  · cases h
  · obtain ⟨order, -, h⟩ := Except.bind_eq_ok.mp h
    obtain ⟨all, hall, h⟩ := Except.bind_eq_ok.mp h
    obtain ⟨found, hfound, rfl⟩ := Except.map_eq_ok.mp h
    obtain ⟨sorted, hsorted, hfound⟩ := Except.bind_eq_ok.mp (Error.ofFault_eq_ok.mp hfound)
    obtain rfl := Except.ok.inj hfound
    refine ⟨all, hall, fun e he => ?_⟩
    obtain ⟨t, ht, rfl⟩ := List.mem_map.mp (Assoc.mem_of_mem_ofList he)
    have hkept := (Order.perm_of_sortWith hsorted).subset ((Order.page_sublist _ _ _).subset ht)
    exact ⟨rfl, List.mem_of_mem_filter hkept⟩

variable (desk : Desk σ)

section Names

variable {desk} (hserver : desk.driver.HonoursWhere) {role : Role} {s : DeskState σ}

include hserver

/-- The rows of an answer satisfy the conditions of their statement. -/
theorem holds_of_ask {sql : String} {cs : List Sql.Condition} (hcs : Sql.conditions sql = some cs)
    {r : ResultSet} (h : (desk.ask sql role s).1 = .ok (some r)) {c : Sql.Condition} (hc : c ∈ cs)
    {row : Row} (hrow : row ∈ r.fetchMappings.1) : c.holds row = true := by
  obtain ⟨values, hvalues, rfl⟩ := List.mem_map.mp hrow
  have hmem : values ∈ r.rows := List.mem_of_mem_drop hvalues
  rcases answers_of_ask h with ⟨link, -, houtcome⟩ | hempty
  · exact hserver sql link false s.world.journal r houtcome cs hcs values hmem c hc
  · rw [hempty] at hmem
    cases hmem

/-- Tables that are read of an answer have the names that its statement asks for. -/
theorem name_of_ask {sql column : String} {names : List String} {cs : List Sql.Condition}
    (hcs : Sql.conditions sql = some cs) (hc : ⟨column, names⟩ ∈ cs)
    {read : Row → Except Fault TableStatus}
    (hread : ∀ row t, read row = .ok t → t.name = columnText row column) {r : ResultSet}
    (hask : (desk.ask sql role s).1 = .ok (some r)) {all : List TableStatus}
    (h : r.fetchMappings.1.mapM read = .ok all) {t : TableStatus} (ht : t ∈ all) :
    t.name ∈ names := by
  obtain ⟨row, hrow, ht⟩ := Except.mem_of_mapM_eq_ok h ht
  rw [hread row t ht]
  exact columnText_of_holds (holds_of_ask hserver hcs hask hc hrow)

variable (hescape : ∀ x link, Sql.Faithful (desk.driver.escape x link)) {database : String}
  {names : List String} (hnames : names ≠ [])

include hescape hnames

theorem name_of_catalogTables {all : List TableStatus}
    (h : (desk.catalogTables database (.names names) role s).1 = .ok all) {t : TableStatus}
    (ht : t ∈ all) : t.name ∈ names := by
  unfold catalogTables at h
  rw [fst_bind, run_literal, Except.ok_bind, fst_bind] at h
  obtain ⟨_ | r, hask, h⟩ := Except.bind_eq_ok.mp h
  · obtain rfl : [] = all := Except.ok.inj h
    cases ht
  · dsimp only at h
    rw [run_ofFault, Error.ofFault_eq_ok] at h
    have hcs := Sql.conditions_catalogTables (hescape s.world.journal.state (s.memory.linkOf .user))
      database hnames
    exact name_of_ask hserver hcs (by simp) (fun _ _ => name_of_ofCatalogRow) hask h ht

theorem name_of_statusTables {all : List TableStatus}
    (h : (desk.statusTables database (.names names) role s).1 = .ok all) {t : TableStatus}
    (ht : t ∈ all) : t.name ∈ names := by
  unfold statusTables at h
  rw [fst_bind, run_literal, Except.ok_bind, fst_bind] at h
  obtain ⟨_ | r, hask, h⟩ := Except.bind_eq_ok.mp h
  · obtain rfl : [] = all := Except.ok.inj h
    cases ht
  · dsimp only at h
    rw [run_ofFault, Error.ofFault_eq_ok] at h
    have hcs := Sql.conditions_tableStatus (hescape s.world.journal.state (s.memory.linkOf .user))
      database hnames
    exact name_of_ask hserver hcs (by simp) (fun _ _ => name_of_ofShowRow) hask h ht

/-- Whichever source the tables come from, they have one of the names. -/
theorem name_of_allTables {all : List TableStatus}
    (h : (desk.allTables database (.names names) role s).1 = .ok all) {t : TableStatus}
    (ht : t ∈ all) : t.name ∈ names := by
  unfold allTables at h
  have hlast (tables : List TableStatus) (s : DeskState σ) (htables : ∀ t ∈ tables, t.name ∈ names)
      (h : ((if tables.isEmpty then desk.statusTables database (.names names) role
        else return tables : Act σ _) s).1 = .ok all) : t.name ∈ names := by
    split at h
    · exact name_of_statusTables hserver hescape hnames h ht
    · obtain rfl := Except.ok.inj h
      exact htables t ht
  split at h
  · rw [fst_bind] at h
    obtain ⟨tables, htables, h⟩ := Except.bind_eq_ok.mp h
    obtain rfl : [] = tables := Except.ok.inj htables
    exact hlast [] _ (by simp) h
  · rw [fst_bind] at h
    obtain ⟨tables, htables, h⟩ := Except.bind_eq_ok.mp h
    exact hlast tables _
      (fun t ht => name_of_catalogTables hserver hescape hnames htables ht) h

end Names

/-- A list without names puts no condition on a listing. -/
theorem tables_of_no_names (database : String) (view : TableView) (role : Role) :
    desk.tables database (.names []) view role = desk.tables database (.name "") view role := rfl

/-- A listing of tables by their names shows tables with those names alone, from either source,
unless there are no names: such a listing is that of all tables. -/
theorem tables_of_names_iff (hserver : desk.driver.HonoursWhere)
    (hescape : ∀ x link, Sql.Faithful (desk.driver.escape x link)) {database : String}
    {names : List String} {view : TableView} {role : Role} {s : DeskState σ}
    {ts : Assoc String TableStatus}
    (h : (desk.tables database (.names names) view role s).1 = .ok ts) :
    ((∀ e ∈ ts, e.1 = e.2.name ∧ e.2.name ∈ names) ↔ names ≠ [] ∨ ts = []) ∧
      (names = [] → (desk.tables database (.name "") view role s).1 = .ok ts) := by
  refine ⟨⟨fun hnamed => ?_, ?_⟩, ?_⟩
  · rcases ts with _ | ⟨e, ts⟩
    · exact .inr rfl
    · exact .inl (List.ne_nil_of_mem (hnamed e List.mem_cons_self).2)
  · rintro (hnames | rfl)
    · rw [tables_fst] at h
      obtain ⟨all, hall, hts⟩ := mem_of_listing h
      intro e he
      obtain ⟨hkey, hread⟩ := hts e he
      exact ⟨hkey, name_of_allTables hserver hescape hnames hall hread⟩
    · simp
  · rintro rfl
    rwa [tables_of_no_names] at h

/-- The driver of a server that keeps the rows of either listing of tables and sends those that
satisfy the conditions of a statement. -/
def exactDriver (catalog status : ResultSet) : Driver Unit where
  connect _ := return none
  selectDb _ _ := return true
  execute sql _ _ := return (
    match Sql.conditions sql with
    | none => .failed
    | some cs =>
      let r := if (Sql.lex sql).bind List.head? = some (.word "SELECT") then catalog else status
      .rows { r with rows := r.rows.filter fun row => cs.all (·.holds (r.asMapping row)) })
  prepare _ _ := return none
  runPrepared _ _ := return .failed
  lastError _ _ := noAnswer
  affected _ _ := 0
  escape _ _ := scriptEscape
  close _ := return

theorem exactDriver_honoursWhere (catalog status : ResultSet) :
    (exactDriver catalog status).HonoursWhere := by
  intro sql link unbuffered j r h cs hcs row hrow c hc
  have houtcome := Except.ok.inj h
  rw [hcs] at houtcome
  obtain rfl := Outcome.rows.inj houtcome
  exact List.all_eq_true.mp (List.mem_filter.mp hrow).2 c hc

/-- A desk at a server whose catalog has no tables of the database. -/
def exactDesk : Desk Unit where
  driver := exactDriver { columns := ["TABLE_SCHEMA", "TABLE_NAME"], rows := [] }
    { columns := ["Name"], rows := [[.text "a"], [.text "b"], [.text "it's"]] }
  clock _ := .float (.ofInt 0)
  scope := ""

/-- The desk with a user connection. -/
def exactState : DeskState Unit :=
  (exactDesk.perform (.setLink .user (some ⟨"c"⟩))
    ⟨exactDesk.newMemory, { journal := { state := () } }⟩).2

theorem exactDesk_faithful (x : Unit) (link : Option Link) :
    Sql.Faithful (exactDesk.driver.escape x link) := faithful_scriptEscape

/-- Where the catalog has no tables, the others are narrowed to the names as well. -/
theorem named_tables_listed :
    exactDesk.driver.HonoursWhere ∧
      (∀ x link, Sql.Faithful (exactDesk.driver.escape x link)) ∧
      ∃ ts, (exactDesk.tables "shop" (.names ["it's", "a"]) {} .user exactState).1 = .ok ts ∧
        ts.keys = ["a", "it's"] ∧ ∀ e ∈ ts, e.1 = e.2.name ∧ e.2.name ∈ ["it's", "a"] := by
  have hhonours : exactDesk.driver.HonoursWhere := exactDriver_honoursWhere _ _
  have hkeys : (exactDesk.tables "shop" (.names ["it's", "a"]) {} .user exactState).1.toOption.map
      Assoc.keys = some ["a", "it's"] := by decide +kernel
  refine ⟨hhonours, exactDesk_faithful, ?_⟩
  rcases hrun : (exactDesk.tables "shop" (.names ["it's", "a"]) {} .user exactState).1 with
    e | ts <;> rw [hrun] at hkeys
  · cases hkeys
  · refine ⟨ts, rfl, Option.some.inj hkeys, ?_⟩
    exact (exactDesk.tables_of_names_iff hhonours exactDesk_faithful hrun).1.mpr (.inl (by decide))

/-- A listing by no names shows all tables. -/
theorem unnamed_tables_listed :
    exactDesk.driver.HonoursWhere ∧
      (∀ x link, Sql.Faithful (exactDesk.driver.escape x link)) ∧
      ∃ ts, (exactDesk.tables "shop" (.names []) {} .user exactState).1 = .ok ts ∧
        ts.keys = ["a", "b", "it's"] ∧ ¬ ∀ e ∈ ts, e.2.name ∈ ([] : List String) := by
  have hkeys : (exactDesk.tables "shop" (.names []) {} .user exactState).1.toOption.map Assoc.keys =
      some ["a", "b", "it's"] := by decide +kernel
  refine ⟨exactDriver_honoursWhere _ _, exactDesk_faithful, ?_⟩
  rcases hrun : (exactDesk.tables "shop" (.names []) {} .user exactState).1 with e | ts <;>
    rw [hrun] at hkeys
  · cases hkeys
  · refine ⟨ts, rfl, Option.some.inj hkeys, fun hnamed => ?_⟩
    rcases ts with _ | ⟨e, ts⟩
    · cases hkeys
    · exact List.not_mem_nil (hnamed e List.mem_cons_self)

end Desk

end SqlDesk
