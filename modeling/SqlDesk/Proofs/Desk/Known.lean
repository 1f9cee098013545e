import SqlDesk.Proofs.Assoc
import SqlDesk.Proofs.Desk.Run

/-!
# Which tables a desk knows

A desk knows a table as a listing of its database gave it last. Listings that leave the table out,
be it by their filter or by their page, listings of other databases and listings that fail do not
count.
-/

namespace SqlDesk

/-- What becomes of the tables that a desk knows. -/
inductive Sighting where
  | forgotten
  /-- The tables that were found in a database are known from then on. -/
  | listed (database : String) (found : Assoc String TableStatus)

namespace Sighting

/-- Whether tables were listed. -/
def isListing : Sighting → Bool
  | .forgotten => false
  | .listed .. => true

/-- What a listing tells of a table. -/
def record (database table : String) : Sighting → Option TableStatus
  | .forgotten => none
  | .listed origin found => if origin = database then found.get? table else none

theorem record_listed (database table origin : String) (found : Assoc String TableStatus) :
    record database table (.listed origin found) =
      if origin = database then found.get? table else none := rfl

/-- What was told last of a table since tables were forgotten. -/
def last (database table : String) (h : List Sighting) : Option TableStatus :=
  (h.reverse.takeWhile isListing).findSome? (record database table)

variable (database table : String) (h : List Sighting)

theorem last_concat_forgotten : last database table (h ++ [.forgotten]) = none := by
  unfold last
  rw [List.reverse_concat]
  rfl

theorem last_concat_listed (origin : String) (found : Assoc String TableStatus) :
    last database table (h ++ [.listed origin found]) =
      (record database table (.listed origin found)).or (last database table h) := by
  unfold last
  rw [List.reverse_concat, List.takeWhile_cons_of_pos rfl, List.findSome?_cons]
  rcases record database table (.listed origin found) with _ | t <;> rfl

end Sighting

namespace Desk

open Act

variable {σ : Type} (desk : Desk σ)

/-- What a move makes of the tables that are known. -/
def sighting (m : Move) (s : DeskState σ) : Option Sighting :=
  match m with
  | .ask .forgetTables => some .forgotten
  | .ask (.tables database filter view role) =>
    match (desk.perform (.tables database filter view role) s).1 with
    | .ok (.tables found) => some (.listed database found)
    | _ => none
  | _ => none

/-- What a run makes of the tables that are known, in order. -/
def sightings : List Move → DeskState σ → List Sighting
  | [], _ => []
  | m :: ms, s => (desk.sighting m s).toList ++ sightings ms (desk.move s m).2

/-- What is known of a table. -/
def tableIn (known : Assoc String (Assoc String TableStatus)) (database table : String) :
    Option TableStatus := ((Assoc.get? known database).getD []).get? table

variable {desk}

/-- The tables that are known stay as they are. -/
def KeepsTables (s t : DeskState σ) : Prop := t.memory.tables = s.memory.tables

theorem keepsTables_steady {l : Licence} (hl : ¬ l.changes .tables) :
    desk.Steady l KeepsTables := by
  refine keeps_steady (fun _ _ => rfl) (fun m h hne => ?_) hl
  cases h with
  | tables f => exact absurd rfl hne
  | _ => rfl

/-- What is known of a table once a listing is remembered. -/
theorem tableIn_rememberTables (found : Assoc String TableStatus) (hfound : found.keys.Nodup)
    (origin : String) (s : DeskState σ) (database table : String) :
    tableIn (rememberTables origin found s).2.memory.tables database table =
      (Sighting.record database table (.listed origin found)).or
        (tableIn s.memory.tables database table) := by
  unfold tableIn
  rw [Sighting.record_listed]
  show ((Assoc.get? (Assoc.put s.memory.tables origin _) database).getD []).get? table = _
  rw [Assoc.get?_put]
  by_cases hd : origin = database
  · subst hd
    rw [if_pos (beq_self_eq_true _), if_pos rfl, Option.getD_some]
    exact Assoc.get?_merge _ hfound table
  · rw [if_neg (by simpa using hd), if_neg hd, Option.none_or]

/-- A listing that fails leaves what is known as it is, and one that is given is remembered. -/
theorem tables_cases (database : String) (filter : Sql.TableFilter) (view : TableView)
    (role : Role) (s : DeskState σ) :
    (∃ e t, desk.tables database filter view role s = (.error e, t) ∧
        t.memory.tables = s.memory.tables) ∨
      ∃ found t, found.keys.Nodup ∧ t.memory.tables = s.memory.tables ∧
        desk.tables database filter view role s =
          (.ok found, (rememberTables database found t).2) := by
  have hread : (desk.allTables database filter role s).2.memory.tables = s.memory.tables :=
    (allTables_routine (l := ⟨fun _ _ => True, fun _ => False, fun _ => False⟩) (fun _ _ => trivial)
      database filter).moves (keepsTables_steady id) s
  -- the listing is remembered last, once nothing can fail any more
  rcases hcolumn : TableField.ofShowColumn? view.sortBy with _ | field
  · rw [desk.tables_of_unknown database filter role hcolumn]
    exact .inl ⟨_, s, rfl, rfl⟩
  · rw [desk.tables_of_known database filter role hcolumn, run_bind, run_ofExcept]
    rcases Order.direction view.order with e | order
    · exact .inl ⟨e, s, rfl, rfl⟩
    · dsimp only
      rw [run_bind]
      rcases hall : desk.allTables database filter role s with ⟨e | all, t⟩ <;> rw [hall] at hread
      · exact .inl ⟨e, t, rfl, hread⟩
      · dsimp only
        rw [run_bind, run_ofFault]
        rcases arrange all view order desk.settings.naturalOrder
          (view.limit.getD desk.settings.maxTableList) with f | listed
        · exact .inl ⟨.fault f, t, rfl, hread⟩
        · exact .inr ⟨byName listed, t, Assoc.nodup_keys_ofList _, hread, rfl⟩

/-- What is known of every table is what was told last of it. -/
def Knows (known : Assoc String (Assoc String TableStatus)) (h : List Sighting) : Prop :=
  ∀ database table, tableIn known database table = Sighting.last database table h

/-- Whether a request changes which tables are known. -/
def changesTables : Request → Bool
  | .tables .. | .forgetTables => true
  | _ => false

theorem tables_notMem_parts {r : Request} (h : changesTables r = false) : .tables ∉ parts r := by
  cases r with
  | tables | forgetTables => cases h
  | _ => simp [parts]

theorem sighting_of_unchanging {r : Request} (h : changesTables r = false) (s : DeskState σ) :
    desk.sighting (.ask r) s = none := by
  cases r with
  | tables | forgetTables => cases h
  | _ => rfl

theorem knows_of_tables {h : List Sighting} {s : DeskState σ} (hknows : Knows s.memory.tables h)
    (database : String) (filter : Sql.TableFilter) (view : TableView) (role : Role) :
    let m : Move := .ask (.tables database filter view role)
    Knows (desk.move s m).2.memory.tables (h ++ (desk.sighting m s).toList) := by
  intro m
  have hrun : desk.perform (.tables database filter view role) s =
      (Reply.tables <$> (desk.tables database filter view role s).1,
        (desk.tables database filter view role s).2) := run_map _ _ s
  have hstate : (desk.move s m).2 = (desk.tables database filter view role s).2 :=
    congrArg Prod.snd hrun
  have hsighting : desk.sighting m s =
      match (desk.tables database filter view role s).1 with
      | .ok found => some (Sighting.listed database found)
      | .error _ => none := by
    show (match (desk.perform (.tables database filter view role) s).1 with
      | .ok (.tables found) => some (Sighting.listed database found)
      | _ => none) = _
    rw [hrun]
    rcases (desk.tables database filter view role s).1 with e | found <;> rfl
  rw [hstate, hsighting]
  rcases tables_cases database filter view role s with ⟨e, t, hfailed, hkept⟩ |
    ⟨found, t, hkeys, hkept, hgiven⟩
  · rw [hfailed]
    intro origin table
    simpa [hkept] using hknows origin table
  · rw [hgiven]
    intro origin table
    dsimp only
    rw [tableIn_rememberTables found hkeys, hkept, hknows, Option.toList_some,
      Sighting.last_concat_listed]

theorem knows_of_move {h : List Sighting} {s : DeskState σ} (hknows : Knows s.memory.tables h)
    (m : Move) : Knows (desk.move s m).2.memory.tables (h ++ (desk.sighting m s).toList) := by
  cases m with
  | drive r =>
    have hnone : desk.sighting (.drive r) s = none := rfl
    rw [hnone, Option.toList_none, List.append_nil]
    exact hknows
  | ask r =>
    rcases hchange : changesTables r with _ | _
    · have hkept : (desk.move s (.ask r)).2.memory.tables = s.memory.tables :=
        perform_within (keepsTables_steady (tables_notMem_parts hchange)) s
      rw [hkept, sighting_of_unchanging hchange, Option.toList_none, List.append_nil]
      exact hknows
    · cases r with
      | tables database filter view role => exact knows_of_tables hknows database filter view role
      | forgetTables =>
        intro database table
        exact (Sighting.last_concat_forgotten database table h).symm
      | _ => cases hchange

theorem knows_of_run {h : List Sighting} {s : DeskState σ} (hknows : Knows s.memory.tables h)
    (ms : List Move) : Knows (desk.run ms s).2.memory.tables (h ++ desk.sightings ms s) := by
  induction ms generalizing h s with
  | nil =>
    rw [sightings, List.append_nil]
    exact hknows
  | cons m ms ih =>
    unfold run sightings
    rw [← List.append_assoc]
    exact ih (knows_of_move hknows m)

/-- At any time a table is known as a listing of its database gave it last, if one gave it since the
tables were forgotten. -/
theorem knownTable_eq_last (desk : Desk σ) (ms : List Move) (w : World σ) :
    let start : DeskState σ := ⟨desk.newMemory, w⟩
    let s := (desk.run ms start).2
    (∀ database table, (desk.perform (.knownTable database table) s).1 =
      .ok (.table (Sighting.last database table (desk.sightings ms start)))) ∧
    ∀ database filter view role,
      let listed := desk.perform (.tables database filter view role) s
      (∀ e, listed.1 = .error e → listed.2.memory.tables = s.memory.tables) ∧
      (view.Unsortable → ∃ e, listed = (.error e, s)) := by
  intro start s
  have hknows : Knows s.memory.tables (desk.sightings ms start) :=
    knows_of_run (h := []) (fun _ _ => rfl) ms
  refine ⟨fun database table => ?_, fun database filter view role => ?_⟩
  · show Except.ok (Reply.table (tableIn s.memory.tables database table)) = _
    rw [hknows]
  · intro listed
    have hlisted : listed = _ := run_map Reply.tables (desk.tables database filter view role) s
    refine ⟨fun e he => ?_, fun hview => ?_⟩
    · rcases tables_cases database filter view role s with ⟨e, t, hfailed, hkept⟩ |
        ⟨found, t, -, -, hgiven⟩
      · rw [hlisted, hfailed]
        exact hkept
      · rw [hlisted, hgiven] at he
        cases he
    · obtain ⟨e, hrefused⟩ := desk.tables_of_unsortable database filter role hview s
      exact ⟨e, by rw [hlisted, hrefused]; rfl⟩

/-- The status of tables of which the number of rows is known. -/
def statusRows (tables : List (String × Int)) : ResultSet where
  columns := ["Name", "Rows"]
  rows := tables.map fun t => [.text t.1, .int t.2]

/-- A table is known from the second of two listings, the other one from the first. A listing of
another database and one that is refused change nothing, and what was listed before the tables were
forgotten is not known. -/
theorem relisted_table_known :
    let desk := scripted { server := { disableCatalog := true } }
    let answers : List ScriptedAnswer :=
      [.rows (statusRows [("users", 1)]), .rows (statusRows [("orders", 7), ("items", 2)]),
        .rows (statusRows [("orders", 8)]), .rows (statusRows [("orders", 3)])]
    let tables (database : String) (filter : Sql.TableFilter) (view : TableView) : Move :=
      .ask (.tables database filter view .user)
    let moves : List Move :=
      [.ask (.setLink .user (some ⟨"c"⟩)), tables "shop" (.name "") {}, .ask .forgetTables,
        tables "shop" (.name "") {}, tables "shop" (.name "orders") {}, tables "log" (.name "") {},
        tables "shop" (.name "") { sortBy := "Size" }]
    let start : DeskState Script := ⟨desk.newMemory, { journal := { state := { answers } } }⟩
    let known (table : String) : Option TableStatus :=
      Sighting.last "shop" table (desk.sightings moves start)
    (∀ table, (desk.perform (.knownTable "shop" table) (desk.run moves start).2).1 =
      .ok (.table (known table))) ∧
    (known "orders").map (fun t => (t.data .rows).plain) = some "8" ∧
    (known "items").map (fun t => (t.data .rows).plain) = some "2" ∧ (known "users").isNone := by
  intro desk answers tables moves start known
  have hknown := (knownTable_eq_last desk moves start.world).1 "shop"
  exact ⟨hknown, by decide +kernel, by decide +kernel, by decide +kernel⟩

end Desk

end SqlDesk
