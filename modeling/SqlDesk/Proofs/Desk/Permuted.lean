import SqlDesk.Proofs.Desk.Known
import SqlDesk.Proofs.Desk.Sources
import SqlDesk.Proofs.Order.Listing
import SqlDesk.Proofs.Order.Sorted

/-!
# Listings of rows in another order

A listing that is sorted by a total preorder does not depend on the order in which the server sends
the rows, up to tables that compare as equal. Where numbers stand among texts, a column may have no
such order: then the listing depends on it.
-/

namespace SqlDesk

open Act SqlDesk.Order TableStatus

namespace Desk

variable {σ τ : Type}

/-- Two listings are the same, up to tables that compare as equal. -/
def SameOrder (f : TableField) (order : String) (natural : Bool)
    (r r' : Except Error (Assoc String TableStatus)) : Prop :=
  ∃ found found', r = .ok found ∧ r' = .ok found' ∧
    List.Forall₂ (fun x y => compareTables x.2 y.2 f.showColumn order natural = .ok 0) found found'

/-- Two desks that are set up alike read the same tables, from rows that their servers send in
different orders. -/
structure ReadPermuted (desk : Desk σ) (desk' : Desk τ) (database : String)
    (filter : Sql.TableFilter) (role : Role) (s : DeskState σ) (s' : DeskState τ)
    (ts : List TableStatus) : Prop where
  settings : desk'.settings = desk.settings
  rows : ∃ (read : Row → Except Fault TableStatus) (rows rows' : List Row), rows.Perm rows' ∧
    (desk.allTables database filter role s).1 = Error.ofFault (rows.mapM read) ∧
    (desk'.allTables database filter role s').1 = Error.ofFault (rows'.mapM read) ∧
    rows.mapM read = .ok ts

section Permuted

variable {settings : DeskSettings} {view : TableView} {f : TableField} {order : String}
  {P : TableStatus → Prop}

/-- A listing of the same tables in another order is the same, up to tables that compare as equal. -/
theorem listing_of_perm (hfield : TableField.ofShowColumn? view.sortBy = some f)
    (horder : Order.direction view.order = .ok order)
    (hpre : TotalPreorder P fun a b =>
      compareTables a b f.showColumn order settings.naturalOrder)
    {ts us : List TableStatus} (hperm : ts.Perm us) (hts : ∀ t ∈ ts, P t)
    (hnames : (ts.map (·.name)).Nodup) :
    SameOrder f order settings.naturalOrder (listing settings view (.ok ts))
      (listing settings view (.ok us)) := by
  have hcolumn : view.sortBy = f.showColumn := by
    have hfound := List.find?_some hfield
    exact (beq_iff_eq.mp hfound).symm
  have hkept : ∀ t ∈ ts.filter (TableKind.admits view.kind), P t :=
    fun t ht => hts t (List.mem_of_mem_filter ht)
  obtain ⟨sorted, sorted', hsorted, hsorted', hequal⟩ :=
    sortWith_of_perm hpre hkept (hperm.filter _)
  have hlisted {ts sorted : List TableStatus} (hnames : (ts.map (·.name)).Nodup)
      (hsorted : sortWith (fun a b => compareTables a b f.showColumn order settings.naturalOrder)
        (ts.filter (TableKind.admits view.kind)) = .ok sorted) :
      listing settings view (.ok ts) = .ok ((pageOfTables sorted view.offset
        (view.limit.getD settings.maxTableList)).map fun t => (t.name, t)) := by
    refine listing_of_sorted (by rw [hfield]; rfl) horder ?_ hnames
    rw [hcolumn]
    exact hsorted
  have hnames' : (us.map (·.name)).Nodup := (hperm.map _).nodup_iff.mp hnames
  refine ⟨_, _, hlisted hnames hsorted, hlisted hnames' hsorted', ?_⟩
  rw [List.forall₂_map_left_iff, List.forall₂_map_right_iff]
  exact forall₂_page hequal _ _

theorem tables_of_readPermuted {desk : Desk σ} {desk' : Desk τ}
    (hfield : TableField.ofShowColumn? view.sortBy = some f)
    (horder : Order.direction view.order = .ok order)
    (hpre : TotalPreorder P fun a b =>
      compareTables a b f.showColumn order desk.settings.naturalOrder)
    {database : String} {filter : Sql.TableFilter} {role : Role} {s : DeskState σ}
    {s' : DeskState τ} {ts : List TableStatus}
    (hread : ReadPermuted desk desk' database filter role s s' ts) (hts : ∀ t ∈ ts, P t)
    (hnames : (ts.map (·.name)).Nodup) :
    SameOrder f order desk.settings.naturalOrder (desk.tables database filter view role s).1
      (desk'.tables database filter view role s').1 := by
  obtain ⟨read, rows, rows', hperm, hrows, hrows', htables⟩ := hread.rows
  obtain ⟨us, hus, hpermuted⟩ := Except.mapM_of_perm htables hperm
  rw [tables_fst, tables_fst, hrows, hrows', htables, hus, hread.settings]
  exact listing_of_perm hfield horder hpre hpermuted hts hnames

end Permuted

/-- Whatever values the records hold that are to be sorted: comparisons turn round with their
arguments, and they return, but for lengths of which some are numbers and some are texts. They are a
total preorder if and only if the values of the column are coherent, and if they are, a listing of
tables does not depend on the order in which the server sends the rows. -/
theorem sorted_by_total_preorders {natural : Bool} {V : Value → Prop}
    (hV : ∀ v, V v → Sortable natural v) (order : String) :
    (∀ f,
      (TotalPreorder (TableAmong natural V f)
        (fun a b => compareTables a b f.showColumn order natural) ↔ Coherent natural V f) ∧
      ∀ a b, TableAmong natural V f a → TableAmong natural V f b →
        (f = .dataLength → a.HasCounts ∧ b.HasCounts ∨ a.HasWords ∧ b.HasWords) →
        ∃ n, compareTables a b f.showColumn order natural = .ok n ∧
          compareTables b a f.showColumn order natural = .ok (-n)) ∧
    (∀ column ∈ databaseColumns,
      (TotalPreorder (DatabaseAmong natural V column)
        (fun a b => compareDatabases a b column order natural) ↔
          (IsTextColumn column ∨ ¬ Crossing natural V)) ∧
      ∀ a b, DatabaseAmong natural V column a → DatabaseAmong natural V column b →
        ∃ n, compareDatabases a b column order natural = .ok n ∧
          compareDatabases b a column order natural = .ok (-n)) ∧
    ∀ {σ τ : Type} (desk : Desk σ) (desk' : Desk τ) (view : TableView) (f : TableField)
      (database : String) (filter : Sql.TableFilter) (role : Role) (s : DeskState σ)
      (s' : DeskState τ) (ts : List TableStatus),
      desk.settings.naturalOrder = natural → TableField.ofShowColumn? view.sortBy = some f →
      Order.direction view.order = .ok order → Coherent natural V f →
      ReadPermuted desk desk' database filter role s s' ts →
      (∀ t ∈ ts, TableAmong natural V f t) → (ts.map (·.name)).Nodup →
      SameOrder f order natural (desk.tables database filter view role s).1
        (desk'.tables database filter view role s').1 := by
  have htable {f : TableField} {t : TableStatus} (ht : TableAmong natural V f t) :
      TableAmong natural (Sortable natural) f t := ⟨ht.1, fun g hg => hV _ (ht.2 g hg)⟩
  have hdatabase {column : String} {d : DatabaseStats} (hd : DatabaseAmong natural V column d) :
      DatabaseAmong natural (Sortable natural) column d := ⟨hd.1, fun hname => hV _ (hd.2 hname)⟩
  refine ⟨fun f => ⟨compareTables_totalPreorder_iff hV f order, fun a b ha hb hlengths => ?_⟩,
    fun column hcolumn => ⟨compareDatabases_totalPreorder_iff hV hcolumn order,
      fun a b ha hb => ?_⟩, ?_⟩
  · obtain ⟨n, hn⟩ := compareTables_returns (htable ha) (htable hb) hlengths order
    exact ⟨n, hn, compareTables_swap (htable ha) (htable hb) hn⟩
  · obtain ⟨n, hn⟩ := compareDatabases_returns (hdatabase ha) (hdatabase hb) order
    exact ⟨n, hn, compareDatabases_swap (hdatabase ha) (hdatabase hb) hn⟩
  · intro σ τ desk desk' view f database filter role s s' ts hnatural hfield horder hcoherent hread
      hts hnames
    subst hnatural
    exact tables_of_readPermuted hfield horder
      ((compareTables_totalPreorder_iff hV f order).mpr hcoherent) hread hts hnames

/-- Rows about tables, with one of their columns. -/
def columnRows (column : String) (tables : List (String × Value)) : ResultSet where
  columns := ["Name", column]
  rows := tables.map fun t => [.text t.1, t.2]

/-- Two tables of known size and one of unknown size are listed by their numbers of rows in the same
order whichever of them comes first. -/
theorem sized_tables_sorted :
    let V (v : Value) : Prop := v = .null ∨ v = .int 7 ∨ v = .int 12
    let state (tables : List (String × Value)) := scriptedState (columnRows "Rows" tables)
    let listed (s : DeskState Script) : Except Error (Assoc String TableStatus) :=
      ((scriptedDesk true).tables "shop" (.name "") { sortBy := "Rows", order := some "DESC" } .user
        s).1
    let s := state [("t9", .int 7), ("t10", .int 12), ("t1", .null)]
    let s' := state [("t1", .null), ("t9", .int 7), ("t10", .int 12)]
    (∀ v, V v → Sortable true v) ∧ Coherent true V .rows ∧
      SameOrder .rows "DESC" true (listed s) (listed s') ∧
      (listed s).toOption.map Assoc.keys = some ["t10", "t9", "t1"] := by
  intro V state listed s s'
  have hV : ∀ v, V v → Sortable true v := by
    rintro v (rfl | rfl | rfl)
    · exact ⟨.inl rfl, ⟨_, rfl⟩, ⟨_, rfl⟩⟩
    · exact ⟨.inr (.inl ⟨7, rfl⟩), ⟨_, rfl⟩, ⟨_, rfl⟩⟩
    · exact ⟨.inr (.inl ⟨12, rfl⟩), ⟨_, rfl⟩, ⟨_, rfl⟩⟩
  have hcross : ¬ Crossing true V := by
    refine not_crossing_of_figures hV ?_
    rintro v (rfl | rfl | rfl) hnone
    · rfl
    · cases hnone
    · cases hnone
  have hclock : (scriptedDesk true).CountsSeconds := fun _ => ⟨_, rfl⟩
  let sized : List (String × Value) := [("t9", .int 7), ("t10", .int 12)]
  let unsized : List (String × Value) := [("t1", .null)]
  let row (t : String × Value) : Row := [(.text "Name", .text t.1), (.text "Rows", t.2)]
  obtain ⟨ts, hts⟩ : ∃ ts, ((sized ++ unsized).map row).mapM (ofShowRow · "shop") = .ok ts :=
    ⟨_, rfl⟩
  have hread : ReadPermuted (scriptedDesk true) (scriptedDesk true) "shop" (.name "") .user s s'
      ts := by
    refine ⟨rfl, _, _, (unsized ++ sized).map row, ?_, ?_, ?_, hts⟩
    · exact (List.perm_append_comm.map row)
    · exact allTables_status hclock rfl (scriptedState_answers ..)
    · exact allTables_status hclock rfl (scriptedState_answers ..)
  have hrows : ts.map (fun t => (t.name, t.data .rows)) = sized ++ unsized := by
    have hmapped : List.map (fun t : TableStatus => (t.name, t.data .rows)) <$>
        ((sized ++ unsized).map row).mapM (ofShowRow · "shop") = .ok (sized ++ unsized) := rfl
    rw [hts] at hmapped
    exact Except.ok.inj hmapped
  have hamong : ∀ t ∈ ts, TableAmong true V .rows t := by
    intro t ht
    have hpair : (t.name, t.data .rows) ∈ sized ++ unsized := by
      rw [← hrows]
      exact List.mem_map_of_mem ht
    have hone (name : String) (v : Value) (hv : V v)
        (hname : ∃ k, textKey true (.text name) = .ok k)
        (h : (t.name, t.data .rows) = (name, v)) : TableAmong true V .rows t := by
      obtain ⟨hn, hd⟩ := Prod.mk.inj h
      refine ⟨by rw [hn]; exact hname, fun g hg => ?_⟩
      obtain rfl : g = .rows := List.mem_singleton.mp hg
      rw [hd]
      exact hv
    rcases List.mem_cons.mp hpair with h | hpair
    · exact hone "t9" _ (.inr (.inl rfl)) ⟨_, rfl⟩ h
    · rcases List.mem_cons.mp hpair with h | hpair
      · exact hone "t10" _ (.inr (.inr rfl)) ⟨_, rfl⟩ h
      · exact hone "t1" _ (.inl rfl) ⟨_, rfl⟩ (List.mem_singleton.mp hpair)
  have hnames : (ts.map (·.name)).Nodup := by
    have hfirst : ts.map (·.name) = (sized ++ unsized).map Prod.fst := by
      rw [← hrows, List.map_map]
      rfl
    rw [hfirst]
    decide
  obtain ⟨-, -, hlistings⟩ := sorted_by_total_preorders hV "DESC"
  exact ⟨hV, hcross, hlistings (scriptedDesk true) (scriptedDesk true) _ .rows "shop" (.name "")
    .user s s' ts rfl rfl rfl hcross hread hamong hnames, by decide +kernel⟩

/-- Numbers among texts. Without natural order `9`, `10` and `1a` stand in a circle, and in natural
order so do `-5`, `3` and `!`; so a listing depends on the order of the rows. Lengths that are in
part texts cannot be compared. -/
theorem comments_in_a_circle :
    let table (name : String) (f : TableField) (v : Value) : TableStatus :=
      { schema := "shop", name, data := fun g => if g = f then v else .null }
    let cmp (natural : Bool) (a b : TableStatus) := compareTables a b "Comment" "ASC" natural
    let a := table "a" .comment (.text "9")
    let b := table "b" .comment (.text "10")
    let c := table "c" .comment (.text "1a")
    let d := table "d" .comment (.text "-5")
    let e := table "e" .comment (.text "3")
    let f := table "f" .comment (.text "!")
    let long : TableStatus :=
      { schema := "shop", name := "g"
        data := fun f => if f = .dataLength then .text "long" else .int 1 }
    let desk : Desk Script := { scriptedDesk true with
      settings := { (scriptedDesk true).settings with naturalOrder := false } }
    let listed (comments : List (String × Value)) : Option (List String) :=
      (desk.tables "shop" (.name "") { sortBy := "Comment" } .user
        (scriptedState (columnRows "Comment" comments))).1.toOption.map Assoc.keys
    (cmp false a b = .ok (-1) ∧ cmp false b c = .ok (-1) ∧ cmp false c a = .ok (-1)) ∧
    (cmp true d e = .ok (-1) ∧ cmp true e f = .ok (-1) ∧ cmp true f d = .ok (-1)) ∧
    ¬ TotalPreorder (TableAmong false (Sortable false) .comment) (cmp false) ∧
    compareTables long a "Data_length" "ASC" true = .error .unfitOperands ∧
    listed [("a", .text "9"), ("b", .text "10"), ("c", .text "1a")] = some ["a", "b", "c"] ∧
    listed [("b", .text "10"), ("c", .text "1a"), ("a", .text "9")] = some ["b", "c", "a"] := by
  intro table cmp a b c d e f long desk listed
  have hcircle : cmp false a b = .ok (-1) ∧ cmp false b c = .ok (-1) ∧
      cmp false c a = .ok (-1) := by
    decide +kernel
  refine ⟨hcircle, by decide +kernel, fun h => ?_, rfl, by decide +kernel, by decide +kernel⟩
  have hamong (name comment : String)
      (hnumber : ∃ x, (Value.text comment).toNumber = .ok x) :
      TableAmong false (Sortable false) .comment (table name .comment (.text comment)) := by
    refine ⟨⟨_, rfl⟩, fun g hg => ?_⟩
    obtain rfl : g = .comment := List.mem_singleton.mp hg
    exact ⟨.inr (.inr ⟨comment, rfl⟩), hnumber, ⟨_, rfl⟩⟩
  obtain ⟨hab, hbc, hca⟩ := hcircle
  obtain ⟨k, hk, hk0⟩ := h.trans (hamong "a" "9" ⟨_, rfl⟩) (hamong "b" "10" ⟨_, rfl⟩)
    (hamong "c" "1a" ⟨_, rfl⟩) hab hbc (by decide) (by decide)
  have hac := h.swap (hamong "c" "1a" ⟨_, rfl⟩) (hamong "a" "9" ⟨_, rfl⟩) hca
  obtain rfl : k = - -1 := Except.ok.inj (hk.symm.trans hac)
  exact absurd hk0 (by decide)

end Desk

end SqlDesk
