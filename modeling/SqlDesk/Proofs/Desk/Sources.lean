import SqlDesk.Driver.Script
import SqlDesk.Proofs.Assoc
import SqlDesk.Proofs.Desk.Tables
import SqlDesk.Proofs.Table

/-!
# Listings of tables from either source

A listing of tables does not show from which source it comes. What it makes of the tables that were
read depends on them only up to extra information (`listing_core`), so two desks whose servers tell
the same, one from the catalog and the other by `SHOW TABLE STATUS`, give the same listing.
-/

namespace SqlDesk.Desk

open Act TableStatus

variable {σ τ : Type}

/-! ## Arranging -/

/-- What a listing makes of the tables that were read. -/
def listing (settings : DeskSettings) (view : TableView) (read : Except Error (List TableStatus)) :
    Except Error (Assoc String TableStatus) :=
  if (TableField.ofShowColumn? view.sortBy).isNone then
    .error (.refused (unknownSortColumn "table" view.sortBy))
  else do
    let order ← Order.direction view.order
    let all ← read
    byName <$> Error.ofFault
      (arrange all view order settings.naturalOrder (view.limit.getD settings.maxTableList))

theorem tables_fst (desk : Desk σ) (database : String) (filter : Sql.TableFilter)
    (view : TableView) (role : Role) (s : DeskState σ) :
    (desk.tables database filter view role s).1 =
      listing desk.settings view (desk.allTables database filter role s).1 := by
  unfold tables listing
  split
  · rfl
  · simp only [fst_bind, run_ofExcept, run_ofFault]
    rcases Order.direction view.order with e | order
    · rfl
    · simp only [Except.ok_bind]
      refine congrArg (_ >>= ·) (funext fun all => ?_)
      rcases arrange all view order _ _ with e | found <;> rfl

theorem admits_core (kind : Option TableKind) (t : TableStatus) :
    TableKind.admits kind t.core = TableKind.admits kind t := by
  rcases kind with _ | _ | _ <;> rfl

theorem arrange_core {view : TableView} (h : (TableField.ofShowColumn? view.sortBy).isSome)
    (ts : List TableStatus) (order : String) (natural : Bool) (limit : Int) :
    arrange (ts.map core) view order natural limit =
      List.map core <$> arrange ts view order natural limit := by
  have hkept : (ts.map core).filter (TableKind.admits view.kind) =
      (ts.filter (TableKind.admits view.kind)).map core := by
    rw [List.filter_map]
    exact congrArg (List.map core) (List.filter_congr fun t _ => admits_core view.kind t)
  unfold arrange Order.sortTables
  dsimp only
  rw [hkept, Order.sortWith_map fun a b => compareTables_core a b h order natural]
  rcases Order.sortWith _ (ts.filter (TableKind.admits view.kind)) with e | sorted
  · rfl
  · exact congrArg Except.ok (Order.page_map core sorted _ limit)

theorem byName_core (ts : List TableStatus) :
    (byName ts).mapValues core = byName (ts.map core) := by
  unfold byName
  rw [Assoc.mapValues_ofList, Assoc.mapValues, List.map_map, List.map_map]
  rfl

/-- Tables whose names differ are listed under their names. -/
theorem byName_eq {ts : List TableStatus} (h : (ts.map (·.name)).Nodup) :
    byName ts = ts.map fun t => (t.name, t) := by
  refine Assoc.ofList_of_nodup ?_
  rwa [Assoc.keys, List.map_map]

/-- A listing of tables whose names differ is a page of the sorted ones, each under its name. -/
theorem listing_of_sorted {settings : DeskSettings} {view : TableView} {order : String}
    (hcolumn : (TableField.ofShowColumn? view.sortBy).isNone = false)
    (horder : Order.direction view.order = .ok order) {ts sorted : List TableStatus}
    (hsorted : Order.sortTables (ts.filter (TableKind.admits view.kind)) view.sortBy order
      settings.naturalOrder = .ok sorted)
    (hnames : (ts.map (·.name)).Nodup) :
    listing settings view (.ok ts) = .ok ((pageOfTables sorted view.offset
      (view.limit.getD settings.maxTableList)).map fun t => (t.name, t)) := by
  have hnodup : ((pageOfTables sorted view.offset
      (view.limit.getD settings.maxTableList)).map (·.name)).Nodup := by
    have hperm := (Order.perm_of_sortWith hsorted).map (·.name)
    have hkept := hperm.nodup_iff.mpr (hnames.sublist (List.filter_sublist.map _))
    exact hkept.sublist ((Order.page_sublist _ _ _).map _)
  unfold listing arrange
  rw [hcolumn, if_neg Bool.false_ne_true, horder, Except.ok_bind, Except.ok_bind]
  dsimp only
  rw [hsorted, ← byName_eq hnodup]
  rfl

theorem byName_arrange_core {view : TableView}
    (h : (TableField.ofShowColumn? view.sortBy).isSome) (ts : List TableStatus) (order : String)
    (natural : Bool) (limit : Int) :
    Assoc.mapValues core <$> byName <$> Error.ofFault (arrange ts view order natural limit) =
      byName <$> Error.ofFault (arrange (ts.map core) view order natural limit) := by
  rw [arrange_core h]
  rcases arrange ts view order natural limit with e | found
  · rfl
  · exact congrArg Except.ok (byName_core found)

/-- A listing shows no more of the tables than what they tell beside extra information. -/
theorem listing_core {settings settings' : DeskSettings} {view : TableView}
    {read read' : Except Error (List TableStatus)}
    (hnatural : settings.naturalOrder = settings'.naturalOrder)
    (hlimit : settings.maxTableList = settings'.maxTableList)
    (h : List.map core <$> read = List.map core <$> read') :
    Assoc.mapValues core <$> listing settings view read =
      Assoc.mapValues core <$> listing settings' view read' := by
  unfold listing
  rw [hnatural, hlimit]
  split
  · rfl
  · rename_i hcolumn
    have hknown : (TableField.ofShowColumn? view.sortBy).isSome := by
      simpa [Option.isSome_iff_ne_none] using hcolumn
    rcases Order.direction view.order with e | order
    · rfl
    · rcases read with e | all <;> rcases read' with e' | all'
      · obtain rfl := Except.error.inj h
        rfl
      · cases h
      · cases h
      · have hall : all.map core = all'.map core := Except.ok.inj h
        simp only [Except.ok_bind]
        rw [byName_arrange_core hknown, byName_arrange_core hknown, hall]

/-! ## Reading -/

section Reading

variable {desk : Desk σ} (hclock : desk.CountsSeconds) {database : String}
  {filter : Sql.TableFilter} {role : Role} {s : DeskState σ} {r : ResultSet}

include hclock

/-- A catalog that has tables is the only source of a listing. -/
theorem allTables_catalog (hcatalog : desk.settings.server.disableCatalog = false)
    (hrows : desk.Answers (Sql.catalogTables (desk.literalIn .user s) database filter) role s r)
    (hne : r.fetchMappings.1 ≠ []) :
    (desk.allTables database filter role s).1 =
      Error.ofFault (r.fetchMappings.1.mapM ofCatalogRow) := by
  have hread : (desk.catalogTables database filter role s).1 =
      Error.ofFault (r.fetchMappings.1.mapM ofCatalogRow) := by
    simp only [catalogTables, fst_bind, run_literal, Except.ok_bind, hrows.ask hclock, run_ofFault]
  unfold allTables
  rw [hcatalog, if_neg Bool.false_ne_true, fst_bind, hread]
  rcases hts : r.fetchMappings.1.mapM ofCatalogRow with e | ts
  · rfl
  · have hlength := (Except.mapM_eq_ok.mp hts).length_eq
    rcases ts with _ | ⟨t, ts⟩
    · exact absurd (List.length_eq_zero_iff.mp hlength) hne
    · rfl

theorem allTables_status (hstatus : desk.settings.server.disableCatalog = true)
    (hrows : desk.Answers (Sql.tableStatus (desk.literalIn .user s) database filter) role s r) :
    (desk.allTables database filter role s).1 =
      Error.ofFault (r.fetchMappings.1.mapM (ofShowRow · database)) := by
  unfold allTables
  rw [hstatus, if_pos rfl, pure_bind]
  simp only [List.isEmpty_nil, if_true, statusTables, fst_bind, run_literal, Except.ok_bind,
    hrows.ask hclock, run_ofFault]

end Reading

/-! ## Agreement -/

/-- Two answers to a listing of tables tell the same: the same failure, or the same names in the
same order, with tables that agree and whose rows agree in every column of either source. -/
def SameTables : Except Error (Assoc String TableStatus) → Except Error (Assoc String TableStatus) →
    Prop
  | .error e, .error e' => e = e'
  | .ok ts, .ok us => List.Forall₂ (fun d e => d.1 = e.1 ∧ d.2.Agrees e.2 ∧
      ∀ c, c ∈ showColumns ∨ c ∈ catalogColumns → d.2.asRow.column? c = e.2.asRow.column? c) ts us
  | .error _, .ok _ | .ok _, .error _ => False

theorem sameTables_of_core_eq {ts us : Except Error (Assoc String TableStatus)}
    (h : Assoc.mapValues core <$> ts = Assoc.mapValues core <$> us) : SameTables ts us := by
  rcases ts with e | ts <;> rcases us with e' | us
  · exact Except.error.inj h
  · cases h
  · cases h
  · refine (Assoc.forall₂_of_mapValues_eq (Except.ok.inj h)).imp fun d e hde => ?_
    have hagrees := agrees_of_core_eq hde.2
    exact ⟨hde.1, hagrees, fun c hc => hagrees.column?_asRow hc⟩

/-- Desks that are set up alike, but for the catalog, give the same listing if their servers answer
it with rows that tell the same. -/
theorem tables_sources_agree {desk : Desk σ} {desk' : Desk τ} (hclock : desk.CountsSeconds)
    (hclock' : desk'.CountsSeconds) (hcatalog : desk.settings.server.disableCatalog = false)
    (hstatus : desk'.settings.server.disableCatalog = true)
    (hnatural : desk.settings.naturalOrder = desk'.settings.naturalOrder)
    (hlimit : desk.settings.maxTableList = desk'.settings.maxTableList) {database : String}
    {filter : Sql.TableFilter} {role : Role} {s : DeskState σ} {s' : DeskState τ}
    {r r' : ResultSet}
    (hrows : desk.Answers (Sql.catalogTables (desk.literalIn .user s) database filter) role s r)
    (hrows' : desk'.Answers (Sql.tableStatus (desk'.literalIn .user s') database filter) role s' r')
    (hne : r.fetchMappings.1 ≠ [])
    (htwins : List.Forall₂ (Twins database) r.fetchMappings.1 r'.fetchMappings.1)
    (view : TableView) :
    SameTables (desk.tables database filter view role s).1
      (desk'.tables database filter view role s').1 := by
  refine sameTables_of_core_eq ?_
  rw [tables_fst, tables_fst, allTables_catalog hclock hcatalog hrows hne,
    allTables_status hclock' hstatus hrows']
  refine listing_core hnatural hlimit ?_
  rw [← Error.ofFault_map, ← Error.ofFault_map, mapM_core_eq htwins]

/-- The catalog about three tables and a view, with numbers of rows as texts. -/
def shopRows : ResultSet where
  columns := ["TABLE_SCHEMA", "TABLE_NAME", "TABLE_TYPE", "ENGINE", "TABLE_ROWS", "TABLE_COMMENT"]
  rows :=
    [[.text "shop", .text "users", .text "BASE TABLE", .text "InnoDB", .text "7", .text ""],
      [.text "shop", .text "recent", .text "VIEW", .null, .null, .text "VIEW"],
      [.text "shop", .text "items", .text "BASE TABLE", .text "InnoDB", .text "12", .text ""],
      [.text "shop", .text "orders", .text "BASE TABLE", .text "MyISAM", .text "7", .text ""]]

/-- The status of the same tables. -/
def shopStatus : ResultSet where
  columns := ["Name", "Engine", "Rows", "Comment"]
  rows :=
    [[.text "users", .text "InnoDB", .int 7, .text ""], [.text "recent", .null, .null, .text "VIEW"],
      [.text "items", .text "InnoDB", .int 12, .text ""],
      [.text "orders", .text "MyISAM", .int 7, .text ""]]

theorem shop_twins :
    List.Forall₂ (Twins "shop") shopRows.fetchMappings.1 shopStatus.fetchMappings.1 :=
  .cons (twins_of_columns rfl rfl) <| .cons (twins_of_columns rfl rfl) <|
    .cons (twins_of_columns rfl rfl) <| .cons (twins_of_columns rfl rfl) .nil

/-- A scripted desk with a user connection, whose driver answers its first statement with rows. -/
def scriptedDesk (disableCatalog : Bool) : Desk Script where
  driver := Script.driver
  clock _ := .float (.ofInt 0)
  settings := { server := { disableCatalog } }
  scope := ""

def scriptedState (r : ResultSet) : DeskState Script where
  memory := { links := [(.user, some ⟨"c"⟩)] }
  world := { journal := { state := { answers := [.rows r] } } }

theorem scriptedState_answers (disableCatalog : Bool) (sql : String) (r : ResultSet) :
    (scriptedDesk disableCatalog).Answers sql .user (scriptedState r) r :=
  ⟨⟨"c"⟩, rfl, rfl⟩

/-- A page of the tables by their numbers of rows, greatest first, without the first one and without
views. -/
def pageByRows : TableView :=
  { kind := some .table, sortBy := "Rows", order := some "desc", offset := 1, limit := some 2 }

/-- The page of the tables of a shop. Tables with the same number of rows stand by their names. -/
theorem orders_sources_agree :
    SameTables
      ((scriptedDesk false).tables "shop" (.name "") pageByRows .user (scriptedState shopRows)).1
      ((scriptedDesk true).tables "shop" (.name "") pageByRows .user
        (scriptedState shopStatus)).1 ∧
    ((scriptedDesk false).tables "shop" (.name "") pageByRows .user
      (scriptedState shopRows)).1.toOption.map Assoc.keys = some ["orders", "users"] ∧
    ((scriptedDesk true).tables "shop" (.name "") pageByRows .user
      (scriptedState shopStatus)).1.toOption.map Assoc.keys = some ["orders", "users"] := by
  have hclock (off : Bool) : (scriptedDesk off).CountsSeconds := fun _ => ⟨_, rfl⟩
  have hrows := scriptedState_answers false (Sql.catalogTables
    ((scriptedDesk false).literalIn .user (scriptedState shopRows)) "shop" (.name "")) shopRows
  have hstatus := scriptedState_answers true (Sql.tableStatus
    ((scriptedDesk true).literalIn .user (scriptedState shopStatus)) "shop" (.name "")) shopStatus
  have hne : shopRows.fetchMappings.1 ≠ [] := List.cons_ne_nil _ _
  have hagree := tables_sources_agree (hclock false) (hclock true) rfl rfl rfl rfl hrows hstatus hne
    shop_twins pageByRows
  refine ⟨?_, ?_, ?_⟩
  · assumption
  · decide +kernel
  · decide +kernel

end SqlDesk.Desk
