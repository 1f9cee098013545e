import SqlDesk.Desk.Tables
import SqlDesk.Proofs.Desk.Statement

/-!
# What listings of tables do

A listing stays within every frame that its statements do not leave. Which statements these are, and
in which state their literals are made, is what the hypotheses say.
-/

namespace SqlDesk.Desk

open Act

variable {σ : Type} (desk : Desk σ)

/-- The names in the first column of a result. -/
def namesIn : Option ResultSet → Except Error (List String)
  | none => .ok []
  | some r => List.map Value.plain <$> Error.ofFault (r.fetchColumn (.index 0)).1

theorem namesIn_some (r : ResultSet) : namesIn (some r) =
    List.map Value.plain <$> Error.ofFault (r.remaining.mapM fun row => ResultSet.cell row 0) := by
  have hcells : (r.resolve (.index 0) >>= fun i => r.remaining.mapM fun row =>
      ResultSet.cell row i) = r.remaining.mapM fun row => ResultSet.cell row 0 := rfl
  have hfetch : (r.fetchColumn (.index 0)).1 =
      r.remaining.mapM fun row => ResultSet.cell row 0 := by
    unfold ResultSet.fetchColumn
    rw [hcells]
    rcases r.remaining.mapM fun row => ResultSet.cell row 0 with f | vs <;> rfl
  rw [namesIn, hfetch]

@[simp] theorem run_namesOf (r : Option ResultSet) (s : DeskState σ) :
    namesOf r s = (namesIn r, s) := by
  rcases r with _ | r
  · rfl
  · show (_ >>= fun vs => pure _ : Act σ _) s = _
    rw [← map_eq_pure_bind, run_map, run_ofFault]
    rfl

/-! ## What listings are sorted by -/

section Sorting

variable {view : TableView} (database : String) (filter : Sql.TableFilter) (role : Role)

theorem tables_of_unknown (h : TableField.ofShowColumn? view.sortBy = none) :
    desk.tables database filter view role =
      throw (.refused (unknownSortColumn "table" view.sortBy)) := by
  unfold tables
  rw [h]
  rfl

theorem tables_of_known {field : TableField}
    (h : TableField.ofShowColumn? view.sortBy = some field) :
    desk.tables database filter view role = (do
      let order ← MonadExcept.ofExcept (Order.direction view.order)
      let all ← desk.allTables database filter role
      let found ← ofFault (arrange all view order desk.settings.naturalOrder
        (view.limit.getD desk.settings.maxTableList))
      rememberTables database (byName found)
      return byName found) := by
  unfold tables
  rw [h]
  rfl

/-- What a listing is to be sorted by is unknown. -/
def TableView.Unsortable (view : TableView) : Prop :=
  TableField.ofShowColumn? view.sortBy = none ∨ ∀ order, Order.direction view.order ≠ .ok order

theorem tables_of_unsortable (h : view.Unsortable) (s : DeskState σ) :
    ∃ e, desk.tables database filter view role s = (.error e, s) := by
  rcases hcolumn : TableField.ofShowColumn? view.sortBy with _ | field
  · rw [desk.tables_of_unknown database filter role hcolumn]
    exact ⟨_, rfl⟩
  · rw [desk.tables_of_known database filter role hcolumn, run_bind, run_ofExcept]
    rcases horder : Order.direction view.order with e | order
    · exact ⟨e, rfl⟩
    · rcases h with hnone | hdirection
      · cases hcolumn.symm.trans hnone
      · exact absurd horder (hdirection order)

/-- Sorting and cutting a listing asks nothing of the driver. -/
theorem tables_world (h : ¬ view.Unsortable) (s : DeskState σ) :
    (desk.tables database filter view role s).2.world =
      (desk.allTables database filter role s).2.world := by
  obtain ⟨hcolumn, horder⟩ := not_or.mp h
  obtain ⟨field, hfield⟩ := Option.ne_none_iff_exists'.mp hcolumn
  obtain ⟨order, horder⟩ := not_forall_not.mp horder
  rw [desk.tables_of_known database filter role hfield, run_bind, run_ofExcept, horder]
  dsimp only
  rw [run_bind]
  rcases desk.allTables database filter role s with ⟨e | all, t⟩
  · rfl
  · dsimp only
    rw [run_bind, run_ofFault]
    rcases arrange all view order desk.settings.naturalOrder _ with e | found <;> rfl

end Sorting

/-! ## Moves -/

section Moves

variable {P : Call → Prop} {R : DeskState σ → DeskState σ → Prop}

theorem catalogTables_moves (hR : Frame desk.driver P R) {database : String}
    {filter : Sql.TableFilter} {role : Role} {s : DeskState σ}
    (hP : ∀ link, P (.query link
      (Sql.catalogTables (desk.literalIn .user s) database filter) false)) :
    Moves R (desk.catalogTables database filter role) s := by
  unfold catalogTables
  refine desk.literal_moves ?_
  refine hR.bind (desk.ask_moves hR fun link _ => hP link) fun r _ => ?_
  rcases r with _ | r
  · exact hR.quiet rfl
  · exact hR.quiet (by simp)

theorem statusTables_moves (hR : Frame desk.driver P R) {database : String}
    {filter : Sql.TableFilter} {role : Role} {s : DeskState σ}
    (hP : ∀ link, P (.query link
      (Sql.tableStatus (desk.literalIn .user s) database filter) false)) :
    Moves R (desk.statusTables database filter role) s := by
  unfold statusTables
  refine desk.literal_moves ?_
  refine hR.bind (desk.ask_moves hR fun link _ => hP link) fun r _ => ?_
  rcases r with _ | r
  · exact hR.quiet rfl
  · exact hR.quiet (by simp)

theorem allTables_moves (hR : Frame desk.driver P R) {database : String} {filter : Sql.TableFilter}
    (hcatalog : desk.settings.server.disableCatalog = false → ∀ link s, P (.query link
      (Sql.catalogTables (desk.literalIn .user s) database filter) false))
    (hstatus : ∀ link s, P (.query link
      (Sql.tableStatus (desk.literalIn .user s) database filter) false))
    (role : Role) (s : DeskState σ) : Moves R (desk.allTables database filter role) s := by
  unfold allTables
  have hlast : ∀ (tables : List TableStatus) (s : DeskState σ), Moves R
      (if tables.isEmpty then desk.statusTables database filter role else return tables) s := by
    intro tables s
    split
    · exact desk.statusTables_moves hR fun link => hstatus link s
    · exact hR.quiet rfl
  split
  · exact hR.bind (hR.quiet rfl) fun tables _ => hlast tables _
  · rename_i hoff
    refine hR.bind (desk.catalogTables_moves hR fun link => ?_) fun tables _ => hlast tables _
    exact hcatalog (Bool.eq_false_iff.mpr hoff) link s

theorem tables_moves (hR : Loose desk.driver P R) {database : String} {filter : Sql.TableFilter}
    (hcatalog : desk.settings.server.disableCatalog = false → ∀ link s, P (.query link
      (Sql.catalogTables (desk.literalIn .user s) database filter) false))
    (hstatus : ∀ link s, P (.query link
      (Sql.tableStatus (desk.literalIn .user s) database filter) false))
    (view : TableView) (role : Role) (s : DeskState σ) :
    Moves R (desk.tables database filter view role) s := by
  rcases hcolumn : TableField.ofShowColumn? view.sortBy with _ | field
  · rw [desk.tables_of_unknown database filter role hcolumn]
    exact hR.quiet rfl
  · rw [desk.tables_of_known database filter role hcolumn]
    refine hR.bind (hR.quiet (by simp)) fun order _ => ?_
    refine hR.bind (desk.allTables_moves hR.toFrame hcatalog hstatus role _) fun all _ => ?_
    refine hR.bind (hR.quiet (by simp)) fun found _ => ?_
    exact hR.bind (hR.remember rfl) fun _ _ => hR.quiet rfl

theorem tableNames_moves (hR : Frame desk.driver P R) {database : String}
    (hP : ∀ link, P (.query link (Sql.tableNames database) false)) (role : Role)
    (s : DeskState σ) : Moves R (desk.tableNames database role) s := by
  unfold tableNames
  refine hR.bind (desk.ask_moves hR fun link _ => hP link) fun r _ => ?_
  refine hR.bind (hR.quiet (by simp)) fun names _ => ?_
  split
  · exact hR.quiet (by simp)
  · exact hR.quiet rfl

theorem columns_moves (hR : Frame desk.driver P R) {database table : String} {full : Bool}
    (hP : ∀ link, P (.query link (Sql.columns full database table) false)) (role : Role)
    (s : DeskState σ) : Moves R (desk.columns database table full role) s := by
  unfold columns
  refine hR.bind (desk.ask_moves hR fun link _ => hP link) fun r _ => ?_
  rcases r with _ | r
  · exact hR.quiet rfl
  · exact hR.quiet rfl

end Moves

end SqlDesk.Desk
