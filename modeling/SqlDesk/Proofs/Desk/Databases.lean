import SqlDesk.Desk.Databases
import SqlDesk.Proofs.Desk.Tables

/-!
# What listings of databases do

The list of visible databases is asked for at most once and then remembered. Every other statement
of a listing is about databases of that list, or about those that match the pattern in its place.
-/

namespace SqlDesk.Desk

open Act

variable {σ : Type} (desk : Desk σ)

/-- The list of databases is what is remembered, or else what the settings let through of the answer,
which is remembered from then on. -/
theorem run_databaseNames (s : DeskState σ) :
    desk.databaseNames s =
      match s.memory.databases with
      | some names => (.ok names, s)
      | none =>
        let t := (desk.ask Sql.databaseNames .user s).2
        match (desk.ask Sql.databaseNames .user s).1 >>= namesIn >>=
            visible desk.settings.server with
        | .error e => (.error e, t)
        | .ok names => (.ok names, { t with memory := { t.memory with databases := some names } }) := by
  unfold databaseNames
  rw [run_bind, run_memory]
  dsimp only
  rcases s.memory.databases with _ | known
  · dsimp only
    rw [run_bind]
    rcases desk.ask Sql.databaseNames .user s with ⟨e | r, t⟩
    · rfl
    · dsimp only
      rw [run_bind, run_namesOf]
      rcases hnames : namesIn r with e | all
      · simp [hnames]
      · simp only [hnames, Except.ok_bind]
        rw [run_bind, run_ofExcept]
        rcases visible desk.settings.server all with e | names <;> rfl
  · rfl

/-- The databases that a listing without the catalog goes through. -/
def statusNames (like : Option String) (role : Role) : Act σ (List String) :=
  match like with
  | none => desk.databaseNames
  | some pattern => do
    let literal ← desk.literal
    namesOf (← desk.ask (Sql.databaseNamesLike literal pattern) role)

theorem statusDatabases_eq (like : Option String) (totals : Bool) (role : Role) :
    desk.statusDatabases like totals role =
      (desk.statusNames like role >>= fun names => names.mapM (desk.statsOf totals role)) := by
  cases like with
  | none => rfl
  | some pattern => simp only [statusDatabases, statusNames, bind_assoc]

/-- Which databases a listing from the catalog asks for. -/
def catalogFilter (like : Option String) : Act σ Sql.DatabaseFilter :=
  match like with
  | some pattern => pure (Sql.DatabaseFilter.like pattern)
  | none => Sql.DatabaseFilter.names <$> desk.databaseNames

/-- The databases of the catalog that a filter lets through. -/
def filteredDatabases (filter : Sql.DatabaseFilter) (totals : Bool) (role : Role) :
    Act σ (List DatabaseStats) := do
  if filter = .names [] then return []
  let literal ← desk.literal
  match ← desk.ask (Sql.catalogDatabases literal totals filter) role with
  | none => return []
  | some r => ofFault (r.fetchMappings.1.mapM DatabaseStats.ofCatalogRow)

theorem catalogDatabases_eq (like : Option String) (totals : Bool) (role : Role) :
    desk.catalogDatabases like totals role =
      (desk.catalogFilter like >>= fun filter => desk.filteredDatabases filter totals role) := by
  cases like <;> rfl

/-! ## What listings are sorted by -/

section Sorting

variable {view : DatabaseView} (like : Option String) (totals : Bool) (role : Role)

/-- The databases that a listing is made of. -/
def allDatabases (like : Option String) (totals : Bool) (role : Role) :
    Act σ (List DatabaseStats) :=
  if desk.settings.server.disableCatalog then desk.statusDatabases like totals role
  else desk.catalogDatabases like totals role

theorem databases_of_unknown (h : databaseColumns.contains view.sortBy = false) :
    desk.databases like totals view role =
      throw (.refused (unknownSortColumn "database" view.sortBy)) := by
  unfold databases
  rw [h]
  rfl

theorem databases_of_known (h : databaseColumns.contains view.sortBy = true) :
    desk.databases like totals view role = (do
      let order ← MonadExcept.ofExcept (Order.direction view.order)
      let all ← desk.allDatabases like totals role
      let sorted ← ofFault (Order.sortDatabases all view.sortBy order desk.settings.naturalOrder)
      return Order.page sorted view.offset (view.limit.getD desk.settings.maxDbList)) := by
  unfold databases allDatabases
  rw [h]
  split <;> rfl

/-- What a listing is to be sorted by is unknown. -/
def DatabaseView.Unsortable (view : DatabaseView) : Prop :=
  databaseColumns.contains view.sortBy = false ∨ ∀ order, Order.direction view.order ≠ .ok order

theorem databases_of_unsortable (h : view.Unsortable) (s : DeskState σ) :
    ∃ e, desk.databases like totals view role s = (.error e, s) := by
  rcases hcolumn : databaseColumns.contains view.sortBy with _ | _
  · rw [desk.databases_of_unknown like totals role hcolumn]
    exact ⟨_, rfl⟩
  · rw [desk.databases_of_known like totals role hcolumn, run_bind, run_ofExcept]
    rcases horder : Order.direction view.order with e | order
    · exact ⟨e, rfl⟩
    · rcases h with hunknown | hdirection
      · cases hcolumn.symm.trans hunknown
      · exact absurd horder (hdirection order)

/-- Sorting and cutting a listing changes nothing. -/
theorem databases_state (h : ¬ view.Unsortable) (s : DeskState σ) :
    (desk.databases like totals view role s).2 = (desk.allDatabases like totals role s).2 := by
  obtain ⟨hcolumn, horder⟩ := not_or.mp h
  obtain ⟨order, horder⟩ := not_forall_not.mp horder
  rw [desk.databases_of_known like totals role (by simpa using hcolumn), run_bind, run_ofExcept,
    horder]
  dsimp only
  rw [run_bind]
  rcases desk.allDatabases like totals role s with ⟨e | all, t⟩
  · rfl
  · dsimp only
    rw [run_bind, run_ofFault]
    rcases Order.sortDatabases all view.sortBy order desk.settings.naturalOrder with e | sorted <;>
      rfl

end Sorting

section Moves

variable {P : Call → Prop} {R : DeskState σ → DeskState σ → Prop}

theorem databaseNames_moves (hR : Frame desk.driver P R)
    (hP : ∀ link, P (.query link Sql.databaseNames false))
    (hkeep : ∀ all names s, visible desk.settings.server all = .ok names →
      R s { s with memory := { s.memory with databases := some names } }) (s : DeskState σ) :
    Moves R desk.databaseNames s := by
  unfold databaseNames
  refine hR.bind (hR.quiet rfl) fun m _ => ?_
  split
  · exact hR.quiet rfl
  · refine hR.bind (desk.ask_moves hR fun link _ => hP link) fun r _ => ?_
    refine hR.bind (hR.quiet (by simp)) fun all _ => ?_
    refine hR.bind (hR.quiet (by simp)) fun names hnames => ?_
    rw [run_ofExcept] at hnames
    exact hR.bind (hkeep all names _ hnames) fun _ _ => hR.quiet rfl

theorem statusNames_moves (hR : Frame desk.driver P R) {like : Option String} {role : Role}
    {s : DeskState σ} (hnames : like = none → Moves R desk.databaseNames s)
    (hlike : ∀ pattern, like = some pattern → ∀ link,
      P (.query link (Sql.databaseNamesLike (desk.literalIn .user s) pattern) false)) :
    Moves R (desk.statusNames like role) s := by
  unfold statusNames
  split
  · exact hnames rfl
  · refine desk.literal_moves ?_
    refine hR.bind (desk.ask_moves hR fun link _ => hlike _ rfl link) fun r _ => ?_
    exact hR.quiet (by simp)

theorem catalogFilter_moves (hR : Frame desk.driver P R) {like : Option String} {s : DeskState σ}
    (hnames : like = none → Moves R desk.databaseNames s) :
    Moves R (desk.catalogFilter like) s := by
  unfold catalogFilter
  split
  · exact hR.quiet rfl
  · exact (hnames rfl).map _

theorem databaseCollation_moves (hR : Frame desk.driver P R) {database : String} {s : DeskState σ}
    (hcatalog : desk.settings.server.disableCatalog = false → ∀ link,
      P (.query link (Sql.catalogCollation (desk.literalIn .user s) database) false))
    (hselected : desk.settings.server.disableCatalog = true → ∀ link,
      P (.query link Sql.databaseCollation false) ∧ ∀ database, P (.selectDb link database)) :
    Moves R (desk.databaseCollation database) s := by
  unfold databaseCollation
  split
  · rename_i hon
    refine desk.literal_moves ?_
    refine hR.bind (desk.fetchValue_moves hR fun link _ => hcatalog ?_ link) fun v _ => hR.quiet rfl
    simpa using hon
  · rename_i hoff
    have hP := hselected (by simpa using hoff)
    refine hR.bind (hR.quiet rfl) fun previous _ => ?_
    refine hR.bind ((desk.selectDb_moves hR fun link => (hP link).2 _).map _) fun _ _ => ?_
    refine hR.bind (desk.fetchValue_moves hR fun link _ => (hP link).1) fun v _ => ?_
    split
    · exact hR.bind ((desk.selectDb_moves hR fun link => (hP link).2 _).map _) fun _ _ =>
        hR.quiet rfl
    · exact hR.quiet rfl

theorem filteredDatabases_moves (hR : Frame desk.driver P R) {filter : Sql.DatabaseFilter}
    {totals : Bool} {role : Role} {s : DeskState σ}
    (hP : filter ≠ .names [] → ∀ link, P (.query link
      (Sql.catalogDatabases (desk.literalIn .user s) totals filter) false)) :
    Moves R (desk.filteredDatabases filter totals role) s := by
  unfold filteredDatabases
  split
  · exact hR.quiet rfl
  · rename_i hne
    refine desk.literal_moves ?_
    refine hR.bind (desk.ask_moves hR fun link _ => hP hne link) fun r _ => ?_
    rcases r with _ | r
    · exact hR.quiet rfl
    · exact hR.quiet (by simp)

theorem statsOf_moves (hR : Frame desk.driver P R) {totals : Bool} {name : String}
    (hcollation : ∀ s, Moves R (desk.databaseCollation name) s)
    (hstatus : totals = true → ∀ link, P (.query link (Sql.allTableStatus name) false))
    (role : Role) (s : DeskState σ) : Moves R (desk.statsOf totals role name) s := by
  unfold statsOf
  refine hR.bind (hcollation s) fun collation _ => ?_
  split
  · exact hR.quiet rfl
  · rename_i hon
    refine hR.bind (desk.ask_moves hR fun link _ => hstatus (by simpa using hon) link) fun r _ => ?_
    rcases r with _ | r
    · exact hR.quiet rfl
    · exact hR.quiet (by simp)

theorem databases_moves (hR : Frame desk.driver P R) {like : Option String} {totals : Bool}
    {role : Role} {s : DeskState σ}
    (hstatus : desk.settings.server.disableCatalog = true →
      Moves R (desk.statusDatabases like totals role) s)
    (hcatalog : desk.settings.server.disableCatalog = false →
      Moves R (desk.catalogDatabases like totals role) s) (view : DatabaseView) :
    Moves R (desk.databases like totals view role) s := by
  rcases hcolumn : databaseColumns.contains view.sortBy with _ | _
  · rw [desk.databases_of_unknown like totals role hcolumn]
    exact hR.quiet rfl
  · rw [desk.databases_of_known like totals role hcolumn]
    refine hR.bind (hR.quiet (by simp)) fun order _ => ?_
    rw [run_ofExcept]
    have hall : Moves R (desk.allDatabases like totals role) s := by
      unfold allDatabases
      split
      · rename_i hoff
        exact hstatus hoff
      · rename_i hon
        exact hcatalog (by simpa using hon)
    exact hR.bind hall fun all _ => hR.bind (hR.quiet (by simp)) fun sorted _ => hR.quiet rfl

end Moves

end SqlDesk.Desk
