import SqlDesk.Proofs.Desk.Permuted
import SqlDesk.Proofs.Order.Figures

/-!
# The order of a listing

A listing by names, or by a column of integers and nulls, has its tables in blocks of equal value.
Descending order turns the blocks round and nothing else. In natural order the names of tables are
listed on their own as they are listed with their tables, names with equal keys included.
-/

namespace SqlDesk.Desk

open Act SqlDesk.Order TableStatus

variable {σ : Type}

theorem direction_cases {given : Option String} {order : String}
    (h : Order.direction given = .ok order) : order = "ASC" ∨ order = "DESC" := by
  unfold Order.direction at h
  extract_lets text normal at h
  split at h
  · rename_i hnormal
    obtain rfl := Except.ok.inj h
    exact hnormal
  · cases h

/-- A listing is not cut to a page. -/
def Unpaged (settings : DeskSettings) (view : TableView) : Prop :=
  view.limit.getD settings.maxTableList ≤ 0 ∧ view.offset ≤ 0

theorem pageOfTables_of_nonpos (ts : List TableStatus) {offset limit : Int} (hlimit : limit ≤ 0)
    (hoffset : offset ≤ 0) : pageOfTables ts offset limit = ts := by
  unfold pageOfTables Order.page
  rw [if_neg (by omega), if_neg (by omega), max_eq_right hoffset]
  simp [sliceFrom, bound]

theorem ofShowColumn?_showColumn (f : TableField) :
    TableField.ofShowColumn? f.showColumn = some f := by
  cases f <;> rfl

/-- A listing of all tables that were read, by an attribute. -/
theorem listing_of_unpaged {settings : DeskSettings} (view : TableView) {f : TableField}
    {order : String} (hfield : view.sortBy = f.showColumn) (hunpaged : Unpaged settings view)
    (horder : Order.direction view.order = .ok order) {ts sorted : List TableStatus}
    (hsorted : sortWith (fun a b => compareTables a b f.showColumn order settings.naturalOrder)
      (ts.filter (TableKind.admits view.kind)) = .ok sorted)
    (hnames : (ts.map (·.name)).Nodup) :
    listing settings view (.ok ts) = .ok (sorted.map fun t => (t.name, t)) := by
  have hcolumn : (TableField.ofShowColumn? view.sortBy).isNone = false := by
    rw [hfield, ofShowColumn?_showColumn]
    rfl
  rw [← hfield] at hsorted
  rw [listing_of_sorted hcolumn horder hsorted hnames,
    pageOfTables_of_nonpos sorted hunpaged.1 hunpaged.2]

/-! ## Blocks of equal value -/

/-- A listing by names or by a column of integers and nulls returns, in either direction, the tables
of the kind that was asked for in the order of that column, and those with equal values by their
names. In descending order the blocks of equal value stand the other way round, each as it was. -/
theorem tables_listed_by_column (desk : Desk σ) {view : TableView} {f : TableField}
    (hfield : view.sortBy = f.showColumn) (hunpaged : Unpaged desk.settings view)
    {database : String} {filter : Sql.TableFilter} {role : Role} {s : DeskState σ}
    {ts : List TableStatus} (hread : (desk.allTables database filter role s).1 = .ok ts)
    (hnames : (ts.map (·.name)).Nodup)
    (hts : ∀ t ∈ ts, t.HasRank desk.settings.naturalOrder f) :
    ∃ listed : String → List TableStatus,
      (∀ given order, Order.direction given = .ok order →
        (desk.tables database filter { view with order := given } role s).1 =
          .ok ((listed order).map fun t => (t.name, t)) ∧
        Listed (columnOrder desk.settings.naturalOrder f) (nameOrder desk.settings.naturalOrder)
          order (ts.filter (TableKind.admits view.kind)) (listed order)) ∧
      listed "DESC" =
        (blocks (columnOrder desk.settings.naturalOrder f) (listed "ASC")).reverse.flatten := by
  let kept := ts.filter (TableKind.admits view.kind)
  have hkept : ∀ t ∈ kept, t.HasRank desk.settings.naturalOrder f :=
    fun t ht => hts t (List.mem_of_mem_filter ht)
  have hup := comparesBy_ranks hkept "ASC"
  have hdown := comparesBy_ranks hkept "DESC"
  have hmem : ∀ t ∈ kept, t ∈ kept := fun _ ht => ht
  obtain ⟨up, hsorted⟩ := exists_sortWith fun a ha b hb => hup.totalPreorder.returns ha hb
  have hstable := (sortWith_eq_ok_iff hup.totalPreorder hmem).mp hsorted
  -- descending order is not sorted again: its blocks are those of ascending order
  have hreversed := hstable.blocks_reverse hup hdown
  let listed (order : String) : List TableStatus :=
    if order = "DESC" then
      (blocks (columnOrder desk.settings.naturalOrder f) up).reverse.flatten
    else up
  have hblocks : listed "DESC" =
      (blocks (columnOrder desk.settings.naturalOrder f) (listed "ASC")).reverse.flatten := by
    have hup : listed "ASC" = up := if_neg (by decide)
    rw [hup]
    exact if_pos rfl
  refine ⟨listed, fun given order horder => ?_, hblocks⟩
  have hby := comparesBy_ranks hkept order
  have hsort : StablySorted
      (fun a b => compareTables a b f.showColumn order desk.settings.naturalOrder) kept
      (listed order) := by
    rcases direction_cases horder with rfl | rfl
    · exact hstable
    · exact hreversed
  have hsorted := (sortWith_eq_ok_iff hby.totalPreorder hmem).mpr hsort
  refine ⟨?_, hsort.listed hby⟩
  rw [tables_fst, hread]
  exact listing_of_unpaged { view with order := given } hfield hunpaged horder hsorted hnames

/-- What the scripted server answers is read as tables of which something is known. -/
theorem exists_scriptedTables {α : Type} (r : ResultSet) (f : TableStatus → α) (known : List α)
    (h : List.map f <$> r.fetchMappings.1.mapM (ofShowRow · "shop") = .ok known) :
    ∃ ts, ((scriptedDesk true).allTables "shop" (.name "") .user (scriptedState r)).1 = .ok ts ∧
      ts.map f = known := by
  have hclock : (scriptedDesk true).CountsSeconds := fun _ => ⟨_, rfl⟩
  obtain ⟨ts, hts, hknown⟩ := Except.map_eq_ok.mp h
  refine ⟨ts, ?_, hknown⟩
  rw [allTables_status hclock rfl (scriptedState_answers ..), hts]
  rfl

/-- Tables listed by their numbers of rows: that of a view is unknown, three tables have the same
one, and two of these have names with equal keys. -/
theorem rows_listed_by_blocks :
    let rows : List (String × Value) :=
      [("z", .null), ("b", .int 5), ("A1", .int 5), ("c", .int 3), ("a01", .int 5)]
    let desk := scriptedDesk true
    let s := scriptedState (columnRows "Rows" rows)
    let read (given : Option String) : Except Error (Assoc String TableStatus) :=
      (desk.tables "shop" (.name "") { sortBy := "Rows", order := given } .user s).1
    ∃ ts, (desk.allTables "shop" (.name "") .user s).1 = .ok ts ∧ (ts.map (·.name)).Nodup ∧
      (∀ t ∈ ts, t.HasRank true .rows) ∧
      (∃ listed : String → List TableStatus,
        (∀ given order, Order.direction given = .ok order →
          read given = .ok ((listed order).map fun t => (t.name, t)) ∧
          Listed (columnOrder true .rows) (nameOrder true) order (ts.filter fun _ => true)
            (listed order)) ∧
        listed "DESC" = (blocks (columnOrder true .rows) (listed "ASC")).reverse.flatten) ∧
      (read (some "asc")).toOption.map Assoc.keys = some ["z", "c", "A1", "a01", "b"] ∧
      (read (some "desc")).toOption.map Assoc.keys = some ["A1", "a01", "b", "c", "z"] := by
  intro rows desk s read
  obtain ⟨ts, hread, hrows⟩ := exists_scriptedTables (columnRows "Rows" rows)
    (fun t => (t.name, t.data .rows)) rows rfl
  have hnames : (ts.map (·.name)).Nodup := by
    have hfirst : ts.map (·.name) = rows.map Prod.fst := by
      rw [← hrows, List.map_map]
      rfl
    rw [hfirst]
    decide
  have hfigures : ∀ p ∈ rows, (∃ k, textKey true (.text p.1) = .ok k) ∧ p.2.IsFigure := by
    intro p hp
    simp only [rows, List.mem_cons, List.not_mem_nil, or_false] at hp
    rcases hp with rfl | rfl | rfl | rfl | rfl
    · exact ⟨⟨_, rfl⟩, .inl rfl⟩
    all_goals exact ⟨⟨_, rfl⟩, .inr ⟨_, rfl⟩⟩
  have hranks : ∀ t ∈ ts, t.HasRank true .rows := by
    intro t ht
    have hpair : (t.name, t.data .rows) ∈ rows := by
      rw [← hrows]
      exact List.mem_map_of_mem ht
    obtain ⟨hkey, hfigure⟩ := hfigures _ hpair
    exact ⟨hkey, nofun, fun _ _ => hfigure⟩
  let view : TableView := { sortBy := "Rows" }
  have hunpaged : Unpaged desk.settings view := ⟨Int.le_refl 0, Int.le_refl 0⟩
  exact ⟨ts, hread, hnames, hranks, tables_listed_by_column desk rfl hunpaged hread hnames hranks,
    by decide +kernel, by decide +kernel⟩

/-! ## Names on their own -/

/-- The order of names by their natural keys. -/
def compareNames (a b : String) : Except Fault Int :=
  .ok (signOf (compareKeys (nameKey true a) (nameKey true b)))

theorem compareNames_totalPreorder : TotalPreorder (fun _ => True) compareNames :=
  totalPreorder_of_keys compareKeys (fun a k => nameKey true a = k) (fun _ _ => ⟨_, rfl⟩)
    fun ha hb => by rw [compareNames, ha, hb]

theorem nameKey_of_naturalKey {name : String} {k : List Chunk} (h : naturalKey name = .ok k) :
    nameKey true name = k := by
  have hkey : textKey true (.text name) = naturalKey name := rfl
  rw [nameKey, hkey, h]
  rfl

/-- Names that are sorted by keys that were computed beforehand are sorted by their keys. -/
theorem sortNaturally_eq_ok {names : List String}
    (hkeys : ∀ name ∈ names, ∃ k, naturalKey name = .ok k) :
    ∃ sorted, sortNaturally id names = .ok sorted ∧ StablySorted compareNames names sorted := by
  let key (name : String) : List Chunk × String := (nameKey true name, name)
  let cmp (a b : List Chunk × String) : Except Fault Int := .ok (signOf (compareKeys a.1 b.1))
  have hkeyed : (names.mapM fun name => do return (← naturalKey (id name), name)) =
      (.ok (names.map key) : Except Fault _) := by
    rw [Except.mapM_eq_ok, List.forall₂_map_right_iff, List.forall₂_same]
    intro name hname
    obtain ⟨k, hk⟩ := hkeys name hname
    show (do return (← naturalKey name, name)) = Except.ok (nameKey true name, name)
    rw [nameKey_of_naturalKey hk, hk]
    rfl
  have hpre : TotalPreorder (fun _ => True) cmp :=
    totalPreorder_of_keys compareKeys (fun a k => a.1 = k) (fun _ _ => ⟨_, rfl⟩)
      fun ha hb => by rw [← ha, ← hb]
  obtain ⟨keyed, hsorted⟩ : ∃ keyed, sortWith cmp (names.map key) = .ok keyed :=
    exists_sortWith fun a _ b _ => hpre.returns trivial trivial
  have hstable := (sortWith_eq_ok_iff hpre fun _ _ => trivial).mp hsorted
  refine ⟨keyed.map (·.2), ?_, ?_⟩
  · unfold sortNaturally
    rw [hkeyed, Except.ok_bind, hsorted]
    rfl
  · have hnames : (names.map key).map (·.2) = names := by
      rw [List.map_map]
      exact List.map_id names
    rw [← hnames]
    refine hstable.map fun a ha b hb => ?_
    obtain ⟨name, -, rfl⟩ := List.mem_map.mp ha
    obtain ⟨name', -, rfl⟩ := List.mem_map.mp hb
    rfl

/-- In natural order the names of tables are listed on their own as they are with their tables. -/
theorem tableNames_eq_keys (desk : Desk σ) (hnatural : desk.settings.naturalOrder = true)
    {view : TableView} (hsort : view.sortBy = "Name")
    (horder : Order.direction view.order = .ok "ASC") (hkind : view.kind = none)
    (hunpaged : Unpaged desk.settings view) {database : String} {role role' : Role}
    {s s' : DeskState σ} {names : List String} {ts : List TableStatus}
    (hnames : (desk.ask (Sql.tableNames database) role s).1 >>= namesIn = .ok names)
    (hread : (desk.allTables database (.name "") role' s').1 = .ok ts)
    (hsame : ts.map (·.name) = names) (hnodup : names.Nodup)
    (hkeys : ∀ name ∈ names, ∃ k, naturalKey name = .ok k) :
    ∃ sorted, (desk.tableNames database role s).1 = .ok sorted ∧
      Assoc.keys <$> (desk.tables database (.name "") view role' s').1 = .ok sorted ∧
      StablySorted compareNames names sorted := by
  obtain ⟨sorted, hsorted, hstable⟩ := sortNaturally_eq_ok hkeys
  refine ⟨sorted, ?_, ?_, hstable⟩
  · unfold tableNames
    rw [hnatural, fst_bind]
    simp only [fst_bind, run_namesOf, if_true, run_ofFault]
    obtain ⟨r, hr, hnames⟩ := Except.bind_eq_ok.mp hnames
    rw [hr, Except.ok_bind, hnames, Except.ok_bind, hsorted]
    rfl
  · have hts : ∀ t ∈ ts, t.HasRank true .name := by
      intro t ht
      refine ⟨hkeys t.name ?_, nofun, fun hne => absurd rfl hne⟩
      rw [← hsame]
      exact List.mem_map_of_mem ht
    have hby := comparesBy_ranks hts "ASC"
    have hpre := hby.totalPreorder
    obtain ⟨listed, hlisted⟩ := exists_sortWith fun a ha b hb => hpre.returns ha hb
    -- sorting tables by their names sorts the names, and there is one stable order of them
    have hnamed : StablySorted compareNames (ts.map (·.name)) (listed.map (·.name)) := by
      refine ((sortWith_eq_ok_iff hpre fun _ ht => ht).mp hlisted).map fun a ha b hb => ?_
      refine Eq.trans ?_ (hby a ha b hb).symm
      rw [columnOrder_name, inTurn_self (by decide)]
      rfl
    have hkept : ts.filter (TableKind.admits view.kind) = ts := by
      rw [hkind]
      exact List.filter_eq_self.mpr fun _ _ => rfl
    have hlisting : listing desk.settings view (.ok ts) =
        .ok (listed.map fun t => (t.name, t)) := by
      refine listing_of_unpaged (f := .name) view hsort hunpaged horder ?_ ?_
      · rw [hkept, hnatural]
        exact hlisted
      · rw [hsame]
        exact hnodup
    rw [hsame] at hnamed
    rw [tables_fst, hread, hlisting,
      hstable.unique compareNames_totalPreorder (fun _ _ => trivial) hnamed]
    show Except.ok ((listed.map fun t => (t.name, t)).map Prod.fst) = _
    rw [List.map_map]
    rfl

/-- Names of which two have the same key, and so have two others. -/
theorem tied_names_listed_alike :
    let names := ["t10", "T9", "a01", "t9", "A1"]
    let desk := scriptedDesk true
    let s := scriptedState
      { columns := ["Tables_in_shop"], rows := names.map fun name => [.text name] }
    let s' := scriptedState (columnRows "Rows" (names.map fun name => (name, .null)))
    ((desk.ask (Sql.tableNames "shop") .user s).1 >>= namesIn = .ok names ∧
      ∃ ts, (desk.allTables "shop" (.name "") .user s').1 = .ok ts ∧ ts.map (·.name) = names) ∧
    (∃ sorted, (desk.tableNames "shop" .user s).1 = .ok sorted ∧
      Assoc.keys <$> (desk.tables "shop" (.name "") {} .user s').1 = .ok sorted ∧
      StablySorted compareNames names sorted) ∧
    (desk.tableNames "shop" .user s).1.toOption = some ["a01", "A1", "T9", "t9", "t10"] := by
  intro names desk s s'
  have hclock : desk.CountsSeconds := fun _ => ⟨_, rfl⟩
  have hnames : (desk.ask (Sql.tableNames "shop") .user s).1 >>= namesIn = .ok names := by
    rw [(scriptedState_answers ..).ask hclock]
    rfl
  obtain ⟨ts, hread, hsame⟩ := exists_scriptedTables
    (columnRows "Rows" (names.map fun name => (name, .null))) (·.name) names rfl
  have hkeys : ∀ name ∈ names, ∃ k, naturalKey name = .ok k := by
    intro name hname
    simp only [names, List.mem_cons, List.not_mem_nil, or_false] at hname
    rcases hname with rfl | rfl | rfl | rfl | rfl <;> exact ⟨_, rfl⟩
  have hunpaged : Unpaged desk.settings {} := ⟨Int.le_refl 0, Int.le_refl 0⟩
  have horder : Order.direction ({} : TableView).order = .ok "ASC" := by rfl
  exact ⟨⟨hnames, ts, hread, hsame⟩, tableNames_eq_keys desk rfl rfl horder rfl hunpaged hnames
    hread hsame (by decide) hkeys, by decide +kernel⟩

end SqlDesk.Desk
