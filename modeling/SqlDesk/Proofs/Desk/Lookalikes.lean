import SqlDesk.Proofs.Desk.Names
import SqlDesk.Proofs.Desk.Ordered
import SqlDesk.Proofs.Desk.Visible
import SqlDesk.Proofs.Order.Keys

/-!
# Names that natural order cannot sort

A listing in natural order needs the keys of its names. A name has no key if one of its runs looks
like a number and is none, such as a superscript. Listings by such a name fail, unless it is alone;
without such names a listing fails only with the values of the column that it is sorted by.
-/

namespace SqlDesk

/-! ## Sorting by names -/

namespace Order

theorem exists_keys_of_compareTexts {a b : String} {n : Int}
    (h : compareTexts (.text a) (.text b) true = .ok n) :
    (∃ k, naturalKey a = .ok k) ∧ ∃ k, naturalKey b = .ok k := by
  unfold compareTexts at h
  rw [if_pos rfl] at h
  obtain ⟨x, hx, h⟩ := Except.bind_eq_ok.mp h
  obtain ⟨y, hy, -⟩ := Except.bind_eq_ok.mp h
  exact ⟨⟨x, hx⟩, ⟨y, hy⟩⟩

theorem exists_compareTexts {a b : String} (ha : ∃ k, naturalKey a = .ok k)
    (hb : ∃ k, naturalKey b = .ok k) :
    ∃ n, compareTexts (.text a) (.text b) true = .ok n :=
  (compareTexts_totalPreorder true).returns ha hb

theorem error_of_withNames {x y : Except Fault Int} {order : String} {e : Fault}
    (h : withNames x order y = .error e) : x = .error e ∨ y = .error e := by
  unfold withNames at h
  rcases Except.bind_eq_error.mp h with h | ⟨n, -, h⟩
  · exact .inl h
  · dsimp only at h
    split at h
    · exact .inr h
    · cases h

section Named

variable {α : Type} (name : α → String)

/-- Compare by names in natural order. -/
def byNames (a b : α) : Except Fault Int := compareTexts (.text (name a)) (.text (name b)) true

variable {name} {byColumn : α → α → Except Fault Int} {xs : List α}

/-- Items are sorted by their names if there is nothing to sort, or if all names have keys. -/
theorem exists_sortWith_byNames_iff (order : String) :
    (∃ ys, sortWith (fun a b => withNames (byNames name a b) order (byNames name a b)) xs =
        .ok ys) ↔
      xs.length < 2 ∨ ∀ x ∈ xs, ∃ k, naturalKey (name x) = .ok k := by
  constructor
  · rintro ⟨ys, hys⟩
    rw [or_iff_not_imp_left, Nat.not_lt]
    intro hlong
    refine compared_of_sortWith (fun a b n hn => ?_) hlong hys
    obtain ⟨m, hm, -⟩ := Except.bind_eq_ok.mp hn
    exact exists_keys_of_compareTexts hm
  · rintro (hshort | hkeys)
    · match xs, hshort with
      | [], _ | [_], _ => exact ⟨_, rfl⟩
    · refine exists_sortWith fun a ha b hb => ?_
      have hnames := exists_compareTexts (hkeys a ha) (hkeys b hb)
      exact exists_withNames hnames hnames

/-- If all names have keys, a sort by a column and then by names fails with the column. -/
theorem error_of_sortWith_named {order : String}
    (hkeys : ∀ x ∈ xs, ∃ k, naturalKey (name x) = .ok k) {e : Fault}
    (h : sortWith (fun a b => withNames (byColumn a b) order (byNames name a b)) xs = .error e) :
    ∃ a ∈ xs, ∃ b ∈ xs, byColumn a b = .error e := by
  obtain ⟨a, ha, b, hb, h⟩ := error_of_sortWith h
  refine ⟨a, ha, b, hb, (error_of_withNames h).resolve_right fun hnames => ?_⟩
  obtain ⟨n, hn⟩ := exists_compareTexts (hkeys a ha) (hkeys b hb)
  cases hn.symm.trans hnames

end Named

/-- Sorting by keys that are computed beforehand needs the keys of all names. -/
theorem exists_sortNaturally_iff {names : List String} :
    (∃ sorted, sortNaturally id names = .ok sorted) ↔
      ∀ name ∈ names, ∃ k, naturalKey name = .ok k := by
  constructor
  · rintro ⟨sorted, h⟩
    obtain ⟨keyed, hkeyed, -⟩ := Except.bind_eq_ok.mp h
    intro name hname
    obtain ⟨p, hp⟩ := Except.exists_mapM_eq_ok.mp ⟨keyed, hkeyed⟩ name hname
    obtain ⟨k, hk, -⟩ := Except.bind_eq_ok.mp hp
    exact ⟨k, hk⟩
  · intro hkeys
    obtain ⟨sorted, hsorted, -⟩ := Desk.sortNaturally_eq_ok hkeys
    exact ⟨sorted, hsorted⟩

/-- Texts with short numerals have keys if they have no lookalikes. -/
theorem forall_exists_naturalKey_iff {names : List String}
    (hshort : ∀ name ∈ names, ShortNumerals name.toList) :
    (∀ name ∈ names, ∃ k, naturalKey name = .ok k) ↔
      ∀ name ∈ names, ¬ HasLookalikes name.toList :=
  forall₂_congr fun name hname => exists_naturalKey_iff.trans (and_iff_right (hshort name hname))

theorem shortNumerals_of_length {cs : List Char} (h : cs.length ≤ Text.maxDigits) :
    ShortNumerals cs := by
  rintro before run after rfl -
  simp only [List.length_append] at h
  omega

end Order

namespace Desk

open Act SqlDesk.Order

variable {σ : Type}

/-! ## Listings -/

/-- A listing of entries with names, sorted by a column in natural order: by the names it returns if
there is nothing to sort, or if no name has lookalikes; and if none has, it fails only where two
values of another column cannot be compared. -/
structure SortsNames {α β : Type} (name : α → String) (entries : List α) (isName : Prop)
    (byColumn : α → α → Except Fault Int) (result : Except Error β) : Prop where
  returns : isName → ((∃ found, result = .ok found) ↔
    entries.length < 2 ∨ ∀ a ∈ entries, ¬ HasLookalikes (name a).toList)
  fails : (∀ a ∈ entries, ¬ HasLookalikes (name a).toList) → ∀ e, result = .error e →
    ¬ isName ∧ ∃ fault, e = .fault fault ∧
      ∃ a ∈ entries, ∃ b ∈ entries, byColumn a b = .error fault

/-- A listing that fails with its sort alone sorts names. -/
theorem sortsNames_of_sort {α β : Type} {name : α → String} {entries : List α} {isName : Prop}
    {byColumn : α → α → Except Fault Int} {result : Except Error β}
    (hname : isName → byColumn = byNames name)
    (hshort : ∀ a ∈ entries, ShortNumerals (name a).toList) (order : String) (finish : List α → β)
    (hresult : result = finish <$> Error.ofFault
      (sortWith (fun a b => withNames (byColumn a b) order (byNames name a b)) entries)) :
    SortsNames name entries isName byColumn result := by
  have hkeys : (∀ a ∈ entries, ∃ k, naturalKey (name a) = .ok k) ↔
      ∀ a ∈ entries, ¬ HasLookalikes (name a).toList := by
    have hmapped : ∀ n ∈ entries.map name, ShortNumerals n.toList := by simpa using hshort
    simpa using forall_exists_naturalKey_iff hmapped
  have hreturns (hisName : isName) : (∃ found, result = .ok found) ↔
      entries.length < 2 ∨ ∀ a ∈ entries, ¬ HasLookalikes (name a).toList := by
    rw [← hkeys, ← exists_sortWith_byNames_iff order, hresult, hname hisName]
    rcases sortWith _ entries with e | sorted <;> simp
  refine ⟨hreturns, fun hplain e he => ⟨fun hisName => ?_, ?_⟩⟩
  · obtain ⟨found, hfound⟩ := (hreturns hisName).mpr (.inr hplain)
    cases hfound.symm.trans he
  · rcases hsort : sortWith (fun a b => withNames (byColumn a b) order (byNames name a b)) entries
      with fault | sorted <;> rw [hresult, hsort] at he
    · exact ⟨fault, (Except.error.inj he).symm, error_of_sortWith_named (hkeys.mpr hplain) hsort⟩
    · cases he

theorem sortsNames_tables {settings : DeskSettings} (hnatural : settings.naturalOrder = true)
    {view : TableView} {f : TableField} (hfield : view.sortBy = f.showColumn) {order : String}
    (horder : Order.direction view.order = .ok order) {ts : List TableStatus}
    (hshort : ∀ t ∈ ts.filter (TableKind.admits view.kind), ShortNumerals t.name.toList) :
    SortsNames (·.name) (ts.filter (TableKind.admits view.kind)) (f = .name) (compareBy true f)
      (listing settings view (.ok ts)) := by
  let finish (sorted : List TableStatus) : Assoc String TableStatus :=
    byName (pageOfTables sorted view.offset (view.limit.getD settings.maxTableList))
  refine sortsNames_of_sort (fun hname => ?_) hshort order finish ?_
  · funext a b
    rw [hname]
    rfl
  · have hcolumn : (TableField.ofShowColumn? view.sortBy).isNone = false := by
      rw [hfield, ofShowColumn?_showColumn]
      rfl
    have hcompare (a b : TableStatus) : compareTables a b view.sortBy order settings.naturalOrder =
        withNames (compareBy true f a b) order (byNames (·.name) a b) := by
      rw [hfield, hnatural, compareTables_eq]
      rfl
    unfold listing arrange sortTables
    simp only [hcolumn, Bool.false_eq_true, if_false, horder, Except.ok_bind, hcompare]
    rcases sortWith _ (ts.filter (TableKind.admits view.kind)) with e | sorted <;> rfl

/-- Compare two databases by a column in natural order. -/
def compareColumn (column : String) (a b : DatabaseStats) : Except Fault Int :=
  if IsTextColumn column then compareTexts (a.value column) (b.value column) true
  else compareValues (a.value column) (b.value column) true

theorem sortsNames_databases {settings : DeskSettings} (hnatural : settings.naturalOrder = true)
    {view : DatabaseView} (hcolumn : databaseColumns.contains view.sortBy = true) {order : String}
    (horder : Order.direction view.order = .ok order) {ds : List DatabaseStats}
    (hshort : ∀ d ∈ ds, ShortNumerals d.name.toList) :
    SortsNames (·.name) ds (view.sortBy = "SCHEMA_NAME") (compareColumn view.sortBy)
      (databaseListing settings view (.ok ds)) := by
  let finish (sorted : List DatabaseStats) : List DatabaseStats :=
    page sorted view.offset (view.limit.getD settings.maxDbList)
  refine sortsNames_of_sort (fun hname => ?_) hshort order finish ?_
  · funext a b
    unfold compareColumn byNames
    rw [hname, if_pos (.inl rfl), value_name, value_name]
  · have hcompare (a b : DatabaseStats) :
        compareDatabases a b view.sortBy order settings.naturalOrder =
          withNames (compareColumn view.sortBy a b) order (byNames (·.name) a b) := by
      rw [hnatural, compareDatabases_eq]
      rfl
    unfold databaseListing sortDatabases
    simp only [hcolumn, Bool.not_true, Bool.false_eq_true, if_false, horder, Except.ok_bind,
      hcompare]
    rcases sortWith _ ds with e | sorted <;> rfl

theorem tableNames_fst (desk : Desk σ) (hnatural : desk.settings.naturalOrder = true)
    {database : String} {role : Role} {s : DeskState σ} {names : List String}
    (hnames : (desk.ask (Sql.tableNames database) role s).1 >>= namesIn = .ok names) :
    (desk.tableNames database role s).1 = Error.ofFault (sortNaturally id names) := by
  obtain ⟨r, hr, hnames⟩ := Except.bind_eq_ok.mp hnames
  unfold tableNames
  rw [hnatural, fst_bind, hr, Except.ok_bind, fst_bind, run_namesOf, hnames, Except.ok_bind,
    if_pos rfl, run_ofFault]

/-- In natural order a text with short numerals has a key, and the names of tables, the tables and
the databases of a server can be listed by name, if and only if no name has lookalikes; then nothing
but the values of another column can make a listing fail. -/
theorem natural_listings_iff_no_lookalikes (desk : Desk σ)
    (hnatural : desk.settings.naturalOrder = true) (role : Role) (s : DeskState σ) :
    (∀ text : String, ShortNumerals text.toList →
      ((∃ k, naturalKey text = .ok k) ↔ ¬ HasLookalikes text.toList)) ∧
    (∀ database names, (desk.ask (Sql.tableNames database) role s).1 >>= namesIn = .ok names →
      (∀ name ∈ names, ShortNumerals name.toList) →
      ((∃ sorted, (desk.tableNames database role s).1 = .ok sorted) ↔
        ∀ name ∈ names, ¬ HasLookalikes name.toList)) ∧
    (∀ database filter ts, (desk.allTables database filter role s).1 = .ok ts →
      (∀ t ∈ ts, ShortNumerals t.name.toList) →
      ∀ (view : TableView) (f : TableField) (order : String), view.sortBy = f.showColumn →
        Order.direction view.order = .ok order →
        SortsNames (·.name) (ts.filter (TableKind.admits view.kind)) (f = .name) (compareBy true f)
          (desk.tables database filter view role s).1) ∧
    ∀ like totals ds, (desk.allDatabases like totals role s).1 = .ok ds →
      (∀ d ∈ ds, ShortNumerals d.name.toList) →
      ∀ (view : DatabaseView) (order : String), databaseColumns.contains view.sortBy = true →
        Order.direction view.order = .ok order →
        SortsNames (·.name) ds (view.sortBy = "SCHEMA_NAME") (compareColumn view.sortBy)
          (desk.databases like totals view role s).1 := by
  refine ⟨fun text hshort => exists_naturalKey_iff.trans (and_iff_right hshort), ?_, ?_, ?_⟩
  · intro database names hnames hshort
    rw [desk.tableNames_fst hnatural hnames, ← forall_exists_naturalKey_iff hshort,
      ← exists_sortNaturally_iff]
    simp only [Error.ofFault_eq_ok]
  · intro database filter ts hread hshort view f order hfield horder
    rw [tables_fst, hread]
    exact sortsNames_tables hnatural hfield horder fun t ht => hshort t (List.mem_of_mem_filter ht)
  · intro like totals ds hread hshort view order hcolumn horder
    rw [databases_fst, hread]
    exact sortsNames_databases hnatural hcolumn horder hshort

/-- A power within a longer run of other characters is no lookalike. One that follows a numeral is,
and then its table cannot be listed with others. -/
theorem powers_listed :
    let names := ["t10²x", "t9"]
    let desk := scriptedDesk true
    let naming := scriptedState
      { columns := ["Tables_in_shop"], rows := names.map fun name => [.text name] }
    let status := scriptedState (columnRows "Rows" [("t10²", .null), ("t9", .null)])
    (desk.settings.naturalOrder = true ∧ listingDesk.settings.naturalOrder = true) ∧
    (∃ k, naturalKey "t10²x" = .ok k) ∧
    (∃ sorted, (desk.tableNames "shop" .user naming).1 = .ok sorted) ∧
    (¬ ∃ found, (desk.tables "shop" (.name "") {} .user status).1 = .ok found) ∧
    ∃ found, (listingDesk.databases none false {} .user listingStart).1 = .ok found := by
  intro names desk naming status
  have hplain : ∀ name ∈ names ++ ["app1", "app2"],
      ShortNumerals name.toList ∧ ¬ HasLookalikes name.toList := by
    intro name hname
    simp only [names, List.cons_append, List.nil_append, List.mem_cons, List.not_mem_nil,
      or_false] at hname
    rcases hname with rfl | rfl | rfl | rfl <;> exact exists_naturalKey_iff.mp ⟨_, rfl⟩
  refine ⟨⟨rfl, rfl⟩, ?_, ?_, ?_, ?_⟩
  · obtain ⟨htexts, -⟩ := natural_listings_iff_no_lookalikes desk rfl .user naming
    have hname := hplain "t10²x" (by simp [names])
    exact (htexts _ hname.1).mpr hname.2
  · obtain ⟨-, hlists, -⟩ := natural_listings_iff_no_lookalikes desk rfl .user naming
    have hclock : desk.CountsSeconds := fun _ => ⟨_, rfl⟩
    have hasked : (desk.ask (Sql.tableNames "shop") .user naming).1 >>= namesIn = .ok names := by
      rw [(scriptedState_answers ..).ask hclock]
      rfl
    have hnames (name : String) (hname : name ∈ names) :=
      hplain name (List.mem_append_left _ hname)
    exact (hlists "shop" names hasked fun name hname => (hnames name hname).1).mpr
      fun name hname => (hnames name hname).2
  · obtain ⟨-, -, htables, -⟩ := natural_listings_iff_no_lookalikes desk rfl .user status
    obtain ⟨ts, hread, hnamed⟩ := exists_scriptedTables
      (columnRows "Rows" [("t10²", .null), ("t9", .null)]) (·.name) ["t10²", "t9"] rfl
    have hshort (t : TableStatus) (ht : t ∈ ts) : ShortNumerals t.name.toList := by
      have hname : t.name ∈ ["t10²", "t9"] := hnamed ▸ List.mem_map_of_mem ht
      simp only [List.mem_cons, List.not_mem_nil, or_false] at hname
      rcases hname with hname | hname <;> rw [hname] <;> exact shortNumerals_of_length (by decide)
    have hkept : ts.filter (TableKind.admits none) = ts := List.filter_eq_self.mpr fun _ _ => rfl
    rw [(htables "shop" (.name "") ts hread hshort {} .name "ASC" rfl rfl).returns rfl, hkept]
    rintro (hfew | hnone)
    · rw [← List.length_map (·.name), hnamed] at hfew
      exact absurd hfew (by decide)
    · obtain ⟨t, ht, hname⟩ := List.mem_map.mp (hnamed ▸ List.mem_cons_self : "t10²" ∈ ts.map _)
      obtain ⟨k, hk⟩ := exists_naturalKey_iff.mpr ⟨hshort t ht, hnone t ht⟩
      rw [hname] at hk
      cases hk
  · obtain ⟨-, -, -, hdatabases⟩ :=
      natural_listings_iff_no_lookalikes listingDesk rfl .user listingStart
    have hread : (listingDesk.allDatabases none false .user listingStart).1.toOption.map
        (·.map (·.name)) = some ["app2", "app1", "app2"] := by
      decide +kernel
    rcases hds : (listingDesk.allDatabases none false .user listingStart).1 with e | ds <;>
      rw [hds] at hread
    · cases hread
    · have hnamed : ds.map (·.name) = ["app2", "app1", "app2"] := Option.some.inj hread
      have hnames (d : DatabaseStats) (hd : d ∈ ds) := hplain d.name <| by
        have hname : d.name ∈ ["app2", "app1", "app2"] := hnamed ▸ List.mem_map_of_mem hd
        simp only [List.mem_cons, List.not_mem_nil, or_false] at hname
        rcases hname with hname | hname | hname <;> simp [names, hname]
      have hsorts := hdatabases none false ds hds (fun d hd => (hnames d hd).1) {} "ASC" rfl rfl
      exact (hsorts.returns rfl).mpr (.inr fun d hd => (hnames d hd).2)

/-- The superscript is no digit by which a key is cut, but it is taken for one when the pieces are
read. So a name whose digits are few has no key, and its table cannot be listed. -/
theorem power_has_no_key :
    let naming := scriptedState
      { columns := ["Tables_in_shop"], rows := [[.text "t10²"], [.text "t9"]] }
    ShortNumerals "t10²".toList ∧ naturalKey "t10²" = .error (.notAnInteger "²") ∧
      ((scriptedDesk true).tableNames "shop" .user naming).1 =
        .error (.fault (.notAnInteger "²")) :=
  ⟨shortNumerals_of_length (by decide), rfl, rfl⟩

end Desk

end SqlDesk
