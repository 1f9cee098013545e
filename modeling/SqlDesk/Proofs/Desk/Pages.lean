import SqlDesk.Proofs.Desk.Known
import SqlDesk.Proofs.Desk.Run
import SqlDesk.Proofs.Desk.Sources
import SqlDesk.Proofs.Desk.Visible

/-!
# Pages of a listing

What a listing asks of the driver does not depend on how it is sorted and cut. With a driver that
answers every statement as before, a listing can be repeated: other listings in between change
neither what it is made of nor its order. So pages that are asked for one after the other, each from
the server, make up the whole listing.
-/

namespace SqlDesk

open Act

variable {σ α β : Type}

/-- A driver that does not change: a statement always gets the same answer, a database can always be
selected or never, and texts are always escaped in the same way. -/
structure Driver.Fixed (d : Driver σ) : Prop where
  execute : ∀ sql link unbuffered j k,
    (d.execute sql link unbuffered k).1 = (d.execute sql link unbuffered j).1
  /-- Whether the database was selected is nothing that a listing looks at. -/
  selectDb : ∀ database link j k,
    discard (d.selectDb database link k).1 = discard (d.selectDb database link j).1
  escape : ∀ x y link text, d.escape y link text = d.escape x link text

/-- Whether a request lists tables or databases. -/
def Request.isListing : Request → Bool
  | .tables .. | .databases .. => true
  | _ => false

namespace Desk

variable (desk : Desk σ)

/-! ## What a listing is made of -/

/-- A result without the number of rows that its statement concerned. -/
def uncounted : Option ResultSet → Option ResultSet := Option.map fun r => { r with affected := 0 }

theorem namesIn_uncounted (r : Option ResultSet) : namesIn (uncounted r) = namesIn r := by
  rcases r with _ | r
  · rfl
  · rw [namesIn_some, show uncounted (some r) = some { r with affected := 0 } from rfl, namesIn_some]
    rfl

/-- Two states in which listings are made of the same: the connections, the current database and the
list of databases, remembered or not. -/
structure SameBasis (s t : DeskState σ) : Prop where
  links : t.memory.links = s.memory.links
  currentDatabase : t.memory.currentDatabase = s.memory.currentDatabase
  databases : (desk.databaseNames t).1 = (desk.databaseNames s).1

/-- An operation comes to the same in states in which listings are made of the same, and keeps what
they are made of. -/
def Repeatable (a : Act σ α) : Prop :=
  ∀ s t, desk.SameBasis s t → (a t).1 = (a s).1 ∧ desk.SameBasis s (a s).2

variable {desk}

theorem SameBasis.refl (s : DeskState σ) : desk.SameBasis s s := ⟨rfl, rfl, rfl⟩

theorem SameBasis.symm {s t : DeskState σ} (h : desk.SameBasis s t) : desk.SameBasis t s :=
  ⟨h.links.symm, h.currentDatabase.symm, h.databases.symm⟩

theorem SameBasis.trans {s t u : DeskState σ} (h : desk.SameBasis s t) (h' : desk.SameBasis t u) :
    desk.SameBasis s u :=
  ⟨h'.links.trans h.links, h'.currentDatabase.trans h.currentDatabase,
    h'.databases.trans h.databases⟩

theorem SameBasis.linkOf {s t : DeskState σ} (h : desk.SameBasis s t) (role : Role) :
    t.memory.linkOf role = s.memory.linkOf role := by
  unfold Memory.linkOf
  rw [h.links]

namespace Repeatable

theorem ofExcept (r : Except Error α) : desk.Repeatable (MonadExcept.ofExcept r : Act σ α) := by
  intro s t h
  rw [run_ofExcept, run_ofExcept]
  exact ⟨rfl, .refl s⟩

protected theorem pure (x : α) : desk.Repeatable (pure x : Act σ α) := ofExcept (.ok x)

theorem ofFault (r : Except Fault α) : desk.Repeatable (Act.ofFault r) := ofExcept _

/-- What an operation leaves is the basis of what follows, wherever it was started. -/
theorem after {a : Act σ α} (ha : desk.Repeatable a) {s t : DeskState σ}
    (h : desk.SameBasis s t) : desk.SameBasis (a s).2 (a t).2 :=
  ((ha s s (.refl s)).2.symm.trans h).trans (ha t t (.refl t)).2

theorem bind {a : Act σ α} {f : α → Act σ β} (ha : desk.Repeatable a)
    (hf : ∀ x, desk.Repeatable (f x)) : desk.Repeatable (a >>= f) := by
  intro s t h
  have hanswer := (ha s t h).1
  have hkept := (ha s s (.refl s)).2
  have hafter := ha.after h
  rw [run_bind, run_bind]
  -- the answers are equal, so both runs fail or both go on with the same
  rcases hs : a s with ⟨e | x, s'⟩ <;> rcases ht : a t with ⟨e' | y, t'⟩ <;>
    rw [hs, ht] at hanswer <;> rw [hs] at hkept <;> rw [hs, ht] at hafter <;> cases hanswer
  · exact ⟨rfl, hkept⟩
  · obtain ⟨hlast, hend⟩ := hf x s' t' hafter
    exact ⟨hlast, hkept.trans hend⟩

protected theorem map {a : Act σ α} (ha : desk.Repeatable a) (f : α → β) :
    desk.Repeatable (f <$> a) := by
  rw [map_eq_pure_bind]
  exact ha.bind fun x => .pure _

protected theorem mapM {ι : Type} {f : ι → Act σ α} (hf : ∀ i, desk.Repeatable (f i))
    (is : List ι) : desk.Repeatable (is.mapM f) := by
  induction is with
  | nil => exact .pure _
  | cons i is ih =>
    rw [List.mapM_cons]
    exact (hf i).bind fun x => ih.bind fun xs => .pure _

/-- What operations would each return in one state, they return one after the other. -/
theorem mapM_ok {ι : Type} {f : ι → Act σ α} (hf : ∀ i, desk.Repeatable (f i)) {g : ι → α}
    {s t : DeskState σ} (hg : ∀ i, (f i s).1 = .ok (g i)) (h : desk.SameBasis s t)
    (is : List ι) : (is.mapM f t).1 = .ok (is.map g) := by
  induction is generalizing t with
  | nil => rfl
  | cons i is ih =>
    have hfirst : (f i t).1 = .ok (g i) := (hf i s t h).1.trans (hg i)
    have hrest := ih (h.trans (hf i t t (.refl t)).2)
    rw [List.mapM_cons, fst_bind, hfirst, Except.ok_bind, fst_bind, hrest]
    rfl

end Repeatable

/-! ## Statements -/

section Statements

variable (hclock : desk.CountsSeconds) (hdriver : desk.driver.Fixed)

include hclock hdriver

/-- A statement comes to the same on the same connection, up to the number of rows. -/
theorem ask_same {sql : String} {role : Role} {s t : DeskState σ}
    (h : t.memory.linkOf role = s.memory.linkOf role) :
    uncounted <$> (desk.ask sql role t).1 = uncounted <$> (desk.ask sql role s).1 := by
  unfold ask
  rw [run_tryQuery, run_tryQuery, h]
  rcases s.memory.linkOf role with _ | link
  · rfl
  · obtain ⟨span, hspan⟩ := hclock.measurement sql link role false s
    obtain ⟨span', hspan'⟩ := hclock.measurement sql link role false t
    have houtcome : (desk.outcome sql link false t).1 = (desk.outcome sql link false s).1 :=
      hdriver.execute sql link false _ _
    dsimp only
    rw [measured_run, measured_run, hspan, hspan', Error.ofFault_ok, Error.ofFault_ok,
      Except.ok_bind, Except.ok_bind, houtcome]
    rcases (desk.outcome sql link false s).1 with e | r | _ | _ <;> rfl

/-- The list of databases is the same if it is made anew on the same connection. -/
theorem databaseNames_same {s t : DeskState σ} (hlinks : t.memory.links = s.memory.links)
    (hdatabases : t.memory.databases = s.memory.databases) :
    (desk.databaseNames t).1 = (desk.databaseNames s).1 := by
  have hlink : t.memory.linkOf .user = s.memory.linkOf .user := by
    unfold Memory.linkOf
    rw [hlinks]
  have hanswer : uncounted <$> (desk.ask Sql.databaseNames .user t).1 =
      uncounted <$> (desk.ask Sql.databaseNames .user s).1 := ask_same hclock hdriver hlink
  have hnames : (desk.ask Sql.databaseNames .user t).1 >>= namesIn =
      (desk.ask Sql.databaseNames .user s).1 >>= namesIn := by
    rcases hs : (desk.ask Sql.databaseNames .user s).1 with e | r <;>
      rcases ht : (desk.ask Sql.databaseNames .user t).1 with e' | r' <;> rw [hs, ht] at hanswer
    · exact congrArg Except.error (Except.error.inj hanswer)
    · cases hanswer
    · cases hanswer
    · rw [Except.ok_bind, Except.ok_bind, ← namesIn_uncounted, Except.ok.inj hanswer,
        namesIn_uncounted]
  rw [run_databaseNames, run_databaseNames, hdatabases, hnames]
  rcases s.memory.databases with _ | known
  · dsimp only
    rcases (desk.ask Sql.databaseNames .user s).1 >>= namesIn >>= visible desk.settings.server
      with e | names <;> rfl
  · rfl

theorem sameBasis_of_memory {s t : DeskState σ} (hlinks : t.memory.links = s.memory.links)
    (hcurrent : t.memory.currentDatabase = s.memory.currentDatabase)
    (hdatabases : t.memory.databases = s.memory.databases) : desk.SameBasis s t :=
  ⟨hlinks, hcurrent, databaseNames_same hclock hdriver hlinks hdatabases⟩

theorem sameBasis_ask (sql : String) (role : Role) (s : DeskState σ) :
    desk.SameBasis s (desk.ask sql role s).2 := by
  have hmemory := desk.ask_memory sql role s
  refine sameBasis_of_memory hclock hdriver ?_ ?_ ?_ <;> rw [hmemory]

/-- A statement, and what is done with its result without a look at the number of rows. -/
theorem Repeatable.ask {sql : String} {role : Role} {f : Option ResultSet → Act σ α}
    (hf : ∀ r, desk.Repeatable (f r)) (hcount : ∀ r, f (uncounted r) = f r) :
    desk.Repeatable (desk.ask sql role >>= f) := by
  have heq : desk.ask sql role >>= f = (uncounted <$> desk.ask sql role) >>= f := by
    simp only [map_eq_pure_bind, bind_assoc, pure_bind, hcount]
  rw [heq]
  refine Repeatable.bind (fun s t h => ?_) hf
  rw [run_map, run_map]
  exact ⟨ask_same hclock hdriver (h.linkOf role), sameBasis_ask hclock hdriver sql role s⟩

theorem fetchValue_repeatable (sql : String) (column : ColumnRef) (role : Role) :
    desk.Repeatable (desk.fetchValue sql column role) := by
  unfold fetchValue
  refine .ask hclock hdriver (fun r => ?_) fun r => ?_
  · rcases r with _ | r
    · exact .pure _
    · exact .ofFault _
  · rcases r with _ | r
    · rfl
    · have hvalue : (ResultSet.fetchValue { r with affected := 0 } column).1 =
          (r.fetchValue column).1 := by
        unfold ResultSet.fetchValue ResultSet.fetchRow
        dsimp only
        rcases r.rows[r.position]? with _ | row <;> rfl
      exact congrArg Act.ofFault hvalue

omit hclock in
theorem literal_repeatable (role : Role) : desk.Repeatable (desk.literal role) := by
  intro s t h
  rw [run_literal, run_literal]
  refine ⟨congrArg Except.ok (funext fun text => ?_), .refl s⟩
  unfold literalIn
  rw [h.linkOf, hdriver.escape s.world.journal.state]

theorem selectDb_repeatable (database : String) (role : Role) :
    desk.Repeatable (discard (desk.selectDb database role)) := by
  intro s t h
  rw [run_discard, run_discard]
  unfold selectDb
  rw [run_bind, run_bind, run_memory, run_memory]
  dsimp only
  rw [h.linkOf]
  rcases s.memory.linkOf role with _ | link
  · exact ⟨rfl, .refl s⟩
  · exact ⟨hdriver.selectDb database link _ _, sameBasis_of_memory hclock hdriver rfl rfl rfl⟩

theorem databaseNames_repeatable : desk.Repeatable desk.databaseNames := by
  refine fun s t h => ⟨h.databases, ?_⟩
  have hasked := sameBasis_ask hclock hdriver Sql.databaseNames .user s
  have hrun := desk.run_databaseNames s
  rcases hknown : s.memory.databases with _ | known <;> rw [hknown] at hrun
  · dsimp only at hrun
    rcases hnames : (desk.ask Sql.databaseNames .user s).1 >>= namesIn >>=
      visible desk.settings.server with e | names <;> rw [hnames] at hrun
    · rw [hrun]
      exact hasked
    · rw [hrun]
      exact ⟨hasked.links, hasked.currentDatabase, by rw [hrun]; rfl⟩
  · rw [hrun]
    exact .refl s

end Statements

/-! ## Listings -/

section Listings

variable (hclock : desk.CountsSeconds) (hdriver : desk.driver.Fixed) (role : Role)

include hclock hdriver

theorem allTables_repeatable (database : String) (filter : Sql.TableFilter) :
    desk.Repeatable (desk.allTables database filter role) := by
  have hcatalog : desk.Repeatable (desk.catalogTables database filter role) := by
    refine (literal_repeatable hdriver _).bind fun literal => ?_
    refine .ask hclock hdriver (fun r => ?_) (by rintro (_ | r) <;> rfl)
    rcases r with _ | r
    · exact .pure _
    · exact .ofFault _
  have hstatus : desk.Repeatable (desk.statusTables database filter role) := by
    refine (literal_repeatable hdriver _).bind fun literal => ?_
    refine .ask hclock hdriver (fun r => ?_) (by rintro (_ | r) <;> rfl)
    rcases r with _ | r
    · exact .pure _
    · exact .ofFault _
  have hlast (tables : List TableStatus) : desk.Repeatable
      (if tables.isEmpty then desk.statusTables database filter role else return tables) := by
    split
    · exact hstatus
    · exact .pure _
  unfold allTables
  split
  · exact (Repeatable.pure _).bind hlast
  · exact hcatalog.bind hlast

theorem tables_repeatable (database : String) (filter : Sql.TableFilter) (view : TableView) :
    desk.Repeatable (desk.tables database filter view role) := by
  rcases hcolumn : TableField.ofShowColumn? view.sortBy with _ | field
  · rw [desk.tables_of_unknown database filter role hcolumn]
    exact .ofExcept (.error _)
  · rw [desk.tables_of_known database filter role hcolumn]
    refine (Repeatable.ofExcept _).bind fun order => ?_
    refine (allTables_repeatable hclock hdriver role database filter).bind fun all => ?_
    refine (Repeatable.ofFault _).bind fun found => ?_
    have hremember : desk.Repeatable (rememberTables database (byName found)) :=
      fun s t h => ⟨rfl, sameBasis_of_memory hclock hdriver rfl rfl rfl⟩
    exact hremember.bind fun _ => .pure _

theorem databaseCollation_repeatable (database : String) :
    desk.Repeatable (desk.databaseCollation database) := by
  unfold databaseCollation
  split
  · refine (literal_repeatable hdriver _).bind fun literal => ?_
    exact (fetchValue_repeatable hclock hdriver _ _ _).bind fun v => .pure _
  · -- of what is remembered, only the current database matters here
    have hcurrent : desk.Repeatable (Memory.currentDatabase <$> Act.memory : Act σ String) :=
      fun s t h => ⟨congrArg Except.ok h.currentDatabase, .refl s⟩
    have hrest (previous : String) : desk.Repeatable (do
        discard (desk.selectDb database)
        let v ← desk.fetchValue Sql.databaseCollation
        if !previous.isEmpty && previous != database then discard (desk.selectDb previous)
        return textOrEmpty v) := by
      refine (selectDb_repeatable hclock hdriver _ _).bind fun _ => ?_
      refine (fetchValue_repeatable hclock hdriver _ _ _).bind fun v => ?_
      split
      · exact (selectDb_repeatable hclock hdriver _ _).bind fun _ => .pure _
      · exact .pure _
    have heq := hcurrent.bind hrest
    rw [map_eq_pure_bind, bind_assoc] at heq
    exact heq

theorem statsOf_repeatable (totals : Bool) (name : String) :
    desk.Repeatable (desk.statsOf totals role name) := by
  unfold statsOf
  refine (databaseCollation_repeatable hclock hdriver name).bind fun collation => ?_
  split
  · exact .pure _
  · refine .ask hclock hdriver (fun r => ?_) (by rintro (_ | r) <;> rfl)
    rcases r with _ | r
    · exact .pure _
    · exact .ofFault _

theorem allDatabases_repeatable (like : Option String) (totals : Bool) :
    desk.Repeatable (desk.allDatabases like totals role) := by
  have hnames := databaseNames_repeatable hclock hdriver
  unfold allDatabases
  split
  · rw [statusDatabases_eq]
    have hlisted : desk.Repeatable (desk.statusNames like role) := by
      cases like with
      | none => exact hnames
      | some pattern =>
        refine (literal_repeatable hdriver _).bind fun literal => ?_
        refine .ask hclock hdriver (fun r s t h => ?_) fun r => ?_
        · rw [run_namesOf, run_namesOf]
          exact ⟨rfl, .refl s⟩
        · funext s
          rw [run_namesOf, run_namesOf, namesIn_uncounted]
    exact hlisted.bind fun names => .mapM (statsOf_repeatable hclock hdriver role totals) names
  · rw [catalogDatabases_eq]
    have hfilter : desk.Repeatable (desk.catalogFilter like) := by
      cases like with
      | none => exact hnames.map _
      | some pattern => exact .pure _
    refine hfilter.bind fun filter => ?_
    unfold filteredDatabases
    split
    · exact .pure _
    · refine (literal_repeatable hdriver _).bind fun literal => ?_
      refine .ask hclock hdriver (fun r => ?_) (by rintro (_ | r) <;> rfl)
      rcases r with _ | r
      · exact .pure _
      · exact .ofFault _

theorem databases_repeatable (like : Option String) (totals : Bool) (view : DatabaseView) :
    desk.Repeatable (desk.databases like totals view role) := by
  rcases hcolumn : databaseColumns.contains view.sortBy with _ | _
  · rw [desk.databases_of_unknown like totals role hcolumn]
    exact .ofExcept (.error _)
  · rw [desk.databases_of_known like totals role hcolumn]
    refine (Repeatable.ofExcept _).bind fun order => ?_
    refine (allDatabases_repeatable hclock hdriver role like totals).bind fun all => ?_
    exact (Repeatable.ofFault _).bind fun sorted => .pure _

omit role in
/-- Listings keep what listings are made of. -/
theorem sameBasis_of_listings {rs : List Request} (hrs : ∀ r ∈ rs, r.isListing = true)
    (s : DeskState σ) : desk.SameBasis s (desk.run (rs.map .ask) s).2 := by
  induction rs generalizing s with
  | nil => exact .refl s
  | cons r rs ih =>
    have hfirst : desk.SameBasis s (desk.perform r s).2 := by
      have hr := hrs r List.mem_cons_self
      cases r with
      | tables database filter view role =>
        exact (((tables_repeatable hclock hdriver role database filter view).map
          Reply.tables) s s (.refl s)).2
      | databases like totals view role =>
        exact (((databases_repeatable hclock hdriver role like totals view).map
          Reply.databases) s s (.refl s)).2
      | _ => cases hr
    exact hfirst.trans (ih (fun r hr => hrs r (List.mem_cons_of_mem _ hr)) _)

end Listings

/-! ## Pages -/

/-- A listing by offset and limit that returns all of its entries in one state is put together from
its pages of any length, which are asked for one after the other from another state on: the first
`k` of them have its first `k * n` entries. -/
def Paged (listing : Int → Option Int → Act σ (List α)) (s t : DeskState σ) : Prop :=
  ∀ all, (listing 0 (some 0) s).1 = .ok all → ∀ n k : Nat, 1 ≤ n →
    ∃ pages, ((List.range k).mapM (fun i => listing (i * n : Nat) (some n)) t).1 = .ok pages ∧
      pages.flatten = all.take (k * n)

theorem paged_of_repeatable {listing : Int → Option Int → Act σ (List α)} {s t : DeskState σ}
    (hlisting : ∀ offset limit, desk.Repeatable (listing offset limit))
    (hpage : ∀ all, (listing 0 (some 0) s).1 = .ok all → ∀ start n : Nat, 0 < n →
      (listing start (some n) s).1 = .ok (Order.page all start n))
    (h : desk.SameBasis s t) : Paged listing s t := by
  intro all hall n k hn
  refine ⟨_, Repeatable.mapM_ok (fun i => hlisting _ _) (fun i => hpage all hall _ n hn) h _, ?_⟩
  exact Order.flatten_page all hn k

/-- The entries of a listing have certain names in one state, and from another state on its pages of
`n` entries make it up and have certain lengths. -/
def ShownInPages (listing : Int → Option Int → Act σ (List α)) (s t : DeskState σ) (n : Nat)
    (name : α → String) (names : List String) (lengths : List Nat) : Prop :=
  ∃ all pages, (listing 0 (some 0) s).1 = .ok all ∧ all.map name = names ∧
    ((List.range lengths.length).mapM (fun i => listing (i * n : Nat) (some n)) t).1 = .ok pages ∧
    pages.flatten = all ∧ pages.map List.length = lengths

theorem Paged.shown {listing : Int → Option Int → Act σ (List α)} {s t : DeskState σ}
    (h : Paged listing s t) {n : Nat} (hn : 1 ≤ n) {name : α → String} {names : List String}
    {lengths : List Nat}
    (hnames : (listing 0 (some 0) s).1.toOption.map (List.map name) = some names)
    (hlengths : ((List.range lengths.length).mapM (fun i => listing (i * n : Nat) (some n))
      t).1.toOption.map (List.map List.length) = some lengths)
    (henough : names.length ≤ lengths.length * n) : ShownInPages listing s t n name names lengths := by
  rcases hall : (listing 0 (some 0) s).1 with e | all <;> rw [hall] at hnames
  · cases hnames
  · obtain rfl : all.map name = names := Option.some.inj hnames
    obtain ⟨pages, hpages, hflatten⟩ := h all hall n lengths.length hn
    rw [hpages] at hlengths
    rw [List.length_map] at henough
    rw [List.take_of_length_le henough] at hflatten
    exact ⟨all, pages, hall, rfl, hpages, hflatten, Option.some.inj hlengths⟩

/-- A page of tables, of which no two have one name, is a part of the listing of all of them. -/
theorem listing_page {settings : DeskSettings} {view : TableView}
    {read : Except Error (List TableStatus)} {all : Assoc String TableStatus}
    (hall : listing settings { view with offset := 0, limit := some 0 } read = .ok all)
    (hnames : ∀ tables, read = .ok tables → (tables.map (·.name)).Nodup) (start : Nat) {n : Nat}
    (hn : 0 < n) :
    listing settings { view with offset := start, limit := some n } read =
      .ok (Order.page all start n) := by
  have hlisted := hall
  unfold listing at hlisted
  split at hlisted
  · cases hlisted
  · rename_i hcolumn
    obtain ⟨order, horder, hlisted⟩ := Except.bind_eq_ok.mp hlisted
    obtain ⟨tables, rfl, hlisted⟩ := Except.bind_eq_ok.mp hlisted
    obtain ⟨found, hfound, -⟩ := Except.map_eq_ok.mp hlisted
    obtain ⟨sorted, hsorted, -⟩ := Except.bind_eq_ok.mp (Error.ofFault_eq_ok.mp hfound)
    have hsorted : Order.sortTables (tables.filter (TableKind.admits view.kind)) view.sortBy order
        settings.naturalOrder = .ok sorted := hsorted
    have hpage (offset limit : Int) :
        listing settings { view with offset, limit := some limit } (.ok tables) =
          .ok ((pageOfTables sorted offset limit).map fun t => (t.name, t)) := by
      exact @listing_of_sorted settings { view with offset, limit := some limit } order
        (Bool.eq_false_iff.mpr hcolumn) horder tables sorted hsorted (hnames tables rfl)
    rw [hpage] at hall ⊢
    rw [← Except.ok.inj hall, Order.page_map, pageOfTables, if_pos (by omega), pageOfTables,
      if_neg (by decide), Int.max_self, Order.page_zero]

theorem databaseListing_page {settings : DeskSettings} {view : DatabaseView}
    {read : Except Error (List DatabaseStats)} {all : List DatabaseStats}
    (hall : databaseListing settings { view with offset := 0, limit := some 0 } read = .ok all)
    (start n : Nat) :
    databaseListing settings { view with offset := start, limit := some n } read =
      .ok (Order.page all start n) := by
  unfold databaseListing at hall ⊢
  split at hall
  · cases hall
  · rename_i hcolumn
    obtain ⟨order, horder, hall⟩ := Except.bind_eq_ok.mp hall
    obtain ⟨databases, hread, hall⟩ := Except.bind_eq_ok.mp hall
    obtain ⟨sorted, hsorted, hall⟩ := Except.bind_eq_ok.mp hall
    obtain rfl : Order.page sorted 0 0 = all := Except.ok.inj hall
    rw [if_neg hcolumn, horder, hread, Except.ok_bind, Except.ok_bind, hsorted, Order.page_zero]
    rfl

/-- With a driver that does not change, listings in between do not show in pages: those of tables
whose names differ, and those of databases, make up the whole listing. Sorting and cutting ask
nothing of the driver, and without a limit the configured number is the limit. -/
theorem pages_make_listing (desk : Desk σ) (hclock : desk.CountsSeconds)
    (hdriver : desk.driver.Fixed) (rs : List Request) (hrs : ∀ r ∈ rs, r.isListing = true)
    (s : DeskState σ) (role : Role) :
    let t := (desk.run (rs.map .ask) s).2
    (∀ database filter, (∀ tables, (desk.allTables database filter role s).1 = .ok tables →
        (tables.map (·.name)).Nodup) → ∀ view : TableView,
      Paged (fun offset limit => desk.tables database filter { view with offset, limit } role)
        s t) ∧
    (∀ like totals, ∀ view : DatabaseView,
      Paged (fun offset limit => desk.databases like totals { view with offset, limit } role)
        s t) ∧
    (∀ database filter, ∀ view view' : TableView, ¬ view.Unsortable → ¬ view'.Unsortable →
      (desk.tables database filter view role s).2.world =
        (desk.tables database filter view' role s).2.world) ∧
    (∀ like totals, ∀ view view' : DatabaseView, ¬ view.Unsortable → ¬ view'.Unsortable →
      (desk.databases like totals view role s).2.world =
        (desk.databases like totals view' role s).2.world) ∧
    (∀ database filter, ∀ view : TableView,
      desk.tables database filter { view with limit := none } role =
        desk.tables database filter { view with limit := some desk.settings.maxTableList } role) ∧
    ∀ like totals, ∀ view : DatabaseView,
      desk.databases like totals { view with limit := none } role =
        desk.databases like totals { view with limit := some desk.settings.maxDbList } role := by
  intro t
  -- what a listing is made of is the same before and after the listings in between
  have hbasis : desk.SameBasis s t := sameBasis_of_listings hclock hdriver hrs s
  refine ⟨fun database filter hnames view => ?_, fun like totals view => ?_,
    fun database filter view view' h h' => ?_, fun like totals view view' h h' => ?_,
    fun _ _ _ => rfl, fun _ _ _ => rfl⟩
  · refine paged_of_repeatable (fun _ _ => tables_repeatable hclock hdriver role database filter _)
      (fun all hall start n hn => ?_) hbasis
    rw [tables_fst] at hall ⊢
    exact listing_page hall hnames start hn
  · refine paged_of_repeatable (fun _ _ => databases_repeatable hclock hdriver role like totals _)
      (fun all hall start n hn => ?_) hbasis
    rw [databases_fst] at hall ⊢
    exact databaseListing_page hall start n
  · rw [desk.tables_world database filter role h, desk.tables_world database filter role h']
  · rw [desk.databases_state like totals role h, desk.databases_state like totals role h']

end Desk

/-- A driver that answers statements by their texts. -/
def Driver.answering (answer : String → Outcome) : Driver Unit where
  connect _ := return none
  selectDb _ _ := return true
  execute sql _ _ := return answer sql
  prepare _ _ := return none
  runPrepared _ _ := return .failed
  lastError _ _ := noAnswer
  affected _ _ := 0
  escape _ _ text := text
  close _ := return

theorem Driver.answering_fixed (answer : String → Outcome) : (Driver.answering answer).Fixed :=
  ⟨fun _ _ _ _ _ => rfl, fun _ _ _ _ => rfl, fun _ _ _ _ => rfl⟩

/-- Three tables and three databases in natural order, in pages of two that are asked for after other
listings. -/
theorem pages_of_tables_and_databases :
    let names (ss : List String) : Outcome :=
      .rows { columns := ["Name"], rows := ss.map fun name => [.text name] }
    let answer (sql : String) : Outcome :=
      if sql = Sql.databaseNames then names ["log10", "shop", "log9"]
      else if sql = Sql.databaseCollation then names ["utf8mb4_bin"]
      else .rows (Desk.statusRows [("t10", 1), ("t9", 2), ("t1", 3)])
    let desk : Desk Unit :=
      { driver := .answering answer, clock := fun _ => .float (.ofInt 0), scope := ""
        settings := { server := { disableCatalog := true } } }
    let s : DeskState Unit :=
      ⟨{ desk.newMemory with links := [(.user, some ⟨"c"⟩)] }, { journal := { state := () } }⟩
    let rs : List Request :=
      [.databases none false {} .user, .tables "shop" (.name "") { order := some "DESC" } .user]
    let t := (desk.run (rs.map .ask) s).2
    (desk.CountsSeconds ∧ desk.driver.Fixed ∧ ∀ r ∈ rs, r.isListing = true) ∧
      Desk.ShownInPages (fun offset limit =>
        desk.tables "shop" (.name "") { offset, limit } .user) s t 2 Prod.fst
        ["t1", "t9", "t10"] [2, 1] ∧
      Desk.ShownInPages (fun offset limit =>
        desk.databases none true { order := some "DESC", offset, limit } .user) s t 2 (·.name)
        ["shop", "log10", "log9"] [2, 1] := by
  intro names answer desk s rs t
  have hclock : desk.CountsSeconds := fun _ => ⟨_, rfl⟩
  have hdriver : desk.driver.Fixed := Driver.answering_fixed answer
  have hrs : ∀ r ∈ rs, r.isListing = true := by simp [rs, Request.isListing]
  have hread : (desk.allTables "shop" (.name "") .user s).1.toOption.map (List.map (·.name)) =
      some ["t10", "t9", "t1"] := by decide +kernel
  have hdistinct : ∀ tables, (desk.allTables "shop" (.name "") .user s).1 = .ok tables →
      (tables.map (·.name)).Nodup := by
    intro tables htables
    rw [htables] at hread
    rw [show tables.map (·.name) = _ from Option.some.inj hread]
    decide
  obtain ⟨htables, hdatabases, -⟩ := Desk.pages_make_listing desk hclock hdriver rs hrs s .user
  refine ⟨⟨hclock, hdriver, hrs⟩, ?_, ?_⟩
  · exact (htables "shop" (.name "") hdistinct {}).shown (by decide) (by decide +kernel)
      (by decide +kernel) (by decide)
  · exact (hdatabases none true { order := some "DESC" }).shown (by decide) (by decide +kernel)
      (by decide +kernel) (by decide)

end SqlDesk
