import Mathlib.Data.Multiset.Bind
import SqlDesk.Desk.Transformation
import SqlDesk.Proofs.Desk.Run
import SqlDesk.Proofs.Value

/-!
# Descriptions copied to the columns of a view

The stored descriptions and the columns of a view are joined by a nested loop: for each description
the columns are gone through, up to the first that it fits. So of columns with the same source only
the first one gets a description. That apart, the loop finds all there is to be copied: it stops
early once there are as many rows as columns, and then there is a row for every column.
-/

namespace SqlDesk.Desk

open Act

/-! ## Rows and columns that belong together -/

/-- A column of a view whose source is known. -/
structure Mapped (column : Row) : Prop where
  table : (column.column? tableKey).isSome
  source : (column.column? sourceKey).isSome

/-- A description is that of the source of a column. -/
def fits (description column : Row) : Bool :=
  description.column "table_name" == column.column tableKey &&
    description.column "column_name" == column.column sourceKey

/-- Two descriptions are not of one column: no names of a table and a column equal those of both. -/
def Apart (a b : Row) : Prop :=
  ¬ ∃ table name : Value, (a.column "table_name" == table) = true ∧
    (a.column "column_name" == name) = true ∧ (b.column "table_name" == table) = true ∧
    (b.column "column_name" == name) = true

/-- The description of a column of a view, as literals: its database and view, its name in the view,
or else that of its source, and what is stored of the source. -/
def described (literal : String → String) (database view : String) (description column : Row) :
    String :=
  Sql.rowOfLiterals ([.text database, .text view,
    (column.column ownKey).orElse (column.column sourceKey), description.column "comment",
    description.column "mimetype", description.column "transformation",
    description.column "transformation_options"].map fun v => literal (textOrEmpty v))

theorem demand_eq {column : Row} {key : String} (h : (column.column? key).isSome) :
    demand column key = .ok (column.column key) := by
  obtain ⟨v, hv⟩ := Option.isSome_iff_exists.mp h
  unfold demand Row.column
  rw [hv]
  rfl

section Mapped

variable (literal : String → String) (database view : String) (description : Row)

theorem describes_eq {column : Row} (h : Mapped column) :
    describes description column = .ok (fits description column) := by
  unfold describes fits
  rw [demand_eq h.table, demand_eq h.source]
  rcases htable : description.column "table_name" == column.column tableKey with _ | _
  · simp [bne, htable]
    rfl
  · simp [bne, htable]

theorem firstDescribed_eq {columns : List Row} (h : ∀ c ∈ columns, Mapped c) :
    firstDescribed description columns = .ok (columns.find? (fits description)) := by
  induction columns with
  | nil => rfl
  | cons c cs ih =>
    rw [firstDescribed, describes_eq description (h c List.mem_cons_self), List.find?_cons]
    rcases fits description c with _ | _
    · exact ih fun c hc => h c (List.mem_cons_of_mem _ hc)
    · rfl

theorem describedRow_eq {column : Row} (h : Mapped column) :
    describedRow literal database view description column =
      .ok (described literal database view description column) := by
  unfold describedRow described Value.orElse
  dsimp only
  by_cases hown : (column.column ownKey).truthy = true
  · rw [if_pos hown, if_pos hown]
    rfl
  · rw [if_neg hown, if_neg hown, demand_eq h.source]
    rfl

end Mapped

theorem Apart.not_fits {a b : Row} (h : Apart a b) {column : Row} (ha : fits a column = true) :
    fits b column = false := by
  by_contra hb
  obtain ⟨hat, han⟩ := Bool.and_eq_true_iff.mp ha
  obtain ⟨hbt, hbn⟩ := Bool.and_eq_true_iff.mp (Bool.of_not_eq_false hb)
  exact h ⟨_, _, hat, han, hbt, hbn⟩

/-- Descriptions that name their columns by texts are apart if the names are not the same. -/
theorem apart_iff_of_texts {a b : Row} {table name table' name' : String}
    (hat : a.column "table_name" = .text table) (han : a.column "column_name" = .text name)
    (hbt : b.column "table_name" = .text table') (hbn : b.column "column_name" = .text name') :
    Apart a b ↔ (table, name) ≠ (table', name') := by
  unfold Apart
  rw [hat, han, hbt, hbn]
  simp only [Value.text_beq]
  refine not_congr ⟨?_, ?_⟩
  · rintro ⟨t, n, rfl, rfl, ht, hn⟩
    rw [Value.text.inj ht, Value.text.inj hn]
  · rintro h
    obtain ⟨rfl, rfl⟩ := Prod.mk.inj h
    exact ⟨_, _, rfl, rfl, rfl, rfl⟩

/-! ## The loop -/

theorem fetchMapping_of_nil {data : ResultSet} (h : data.fetchMappings.1 = []) :
    data.fetchMapping = (none, data) := by
  have hend : data.rows.length ≤ data.position := List.drop_eq_nil_iff.mp (List.map_eq_nil_iff.mp h)
  unfold ResultSet.fetchMapping ResultSet.fetchRow
  rw [List.getElem?_eq_none hend]
  rfl

theorem fetchMapping_of_cons {data : ResultSet} {d : Row} {ds : List Row}
    (h : data.fetchMappings.1 = d :: ds) :
    data.fetchMapping = (some d, { data with position := data.position + 1 }) ∧
      ({ data with position := data.position + 1 } : ResultSet).fetchMappings.1 = ds := by
  obtain ⟨row, rows, hrows, rfl, rfl⟩ := List.map_eq_cons_iff.mp h
  have hrow : data.rows[data.position]? = some row := by
    rw [← List.head?_drop]
    exact congrArg List.head? hrows
  have hrest : data.rows.drop (data.position + 1) = rows := by
    rw [← List.tail_drop]
    exact congrArg List.tail hrows
  constructor
  · unfold ResultSet.fetchMapping ResultSet.fetchRow
    rw [hrow]
    rfl
  · exact congrArg _ hrest

section Loop

variable {literal : String → String} {database view : String} {columns : List Row}

/-- What the loop makes of descriptions: a row for the first column that each of them fits. -/
def copied (literal : String → String) (database view : String) (columns ds : List Row) :
    List String :=
  ds.filterMap fun d => (columns.find? (fits d)).map (described literal database view d)

/-- The columns that a description fits. -/
def covered (columns ds : List Row) : Nat := columns.countP fun c => ds.any fun d => fits d c

theorem covered_filter_sublist (columns : List Row) (d : Row) (ds : List Row) :
    (columns.filter fun c => ds.any fun e => fits e c).Sublist
      (columns.filter fun c => (d :: ds).any fun e => fits e c) :=
  List.monotone_filter_right columns fun c h => by rw [List.any_cons, h, Bool.or_true]

/-- A description covers the first column that it fits anew, as no other one fits that column. -/
theorem covered_cons (columns : List Row) {d : Row} {ds : List Row} (hd : ∀ e ∈ ds, Apart d e) :
    (columns.find? (fits d)).toList.length + covered columns ds ≤ covered columns (d :: ds) := by
  have hsublist := covered_filter_sublist columns d ds
  unfold covered
  rw [List.countP_eq_length_filter, List.countP_eq_length_filter]
  rcases hfind : columns.find? (fits d) with _ | c
  · simpa using hsublist.length_le
  · have hfits : fits d c = true := List.find?_some hfind
    have hnew : ¬ ∃ e ∈ ds, fits e c = true := by
      rintro ⟨e, he, hfits'⟩
      cases hfits'.symm.trans ((hd e he).not_fits hfits)
    have hlt : columns.filter (fun c => ds.any fun e => fits e c) ≠
        columns.filter (fun c => (d :: ds).any fun e => fits e c) := by
      intro heq
      have hc : c ∈ columns.filter (fun c => (d :: ds).any fun e => fits e c) :=
        List.mem_filter.mpr ⟨List.mem_of_find?_eq_some hfind, by rw [List.any_cons, hfits]; rfl⟩
      rw [← heq] at hc
      exact hnew (List.any_eq_true.mp (List.mem_filter.mp hc).2)
    have := Nat.lt_of_le_of_ne hsublist.length_le (mt hsublist.eq_of_length hlt)
    rw [Option.toList_some, List.length_singleton]
    omega

theorem copied_cons (literal : String → String) (database view : String) (columns : List Row)
    (d : Row) (ds : List Row) : copied literal database view columns (d :: ds) =
      ((columns.find? (fits d)).map (described literal database view d)).toList ++
        copied literal database view columns ds := by
  unfold copied
  rw [List.filterMap_cons]
  cases columns.find? (fits d) <;> rfl

theorem copied_of_covered_eq_zero {ds : List Row} (h : covered columns ds = 0) :
    copied literal database view columns ds = [] := by
  refine List.filterMap_eq_nil_iff.mpr fun d hd => ?_
  have hnone : columns.find? (fits d) = none := by
    refine List.find?_eq_none.mpr fun c hc hfits => ?_
    exact List.countP_eq_zero.mp h c hc (List.any_eq_true.mpr ⟨d, hd, hfits⟩)
  rw [hnone]
  rfl

/-- One round of the loop. -/
theorem copyDescriptions_of_cons (hmapped : ∀ c ∈ columns, Mapped c) {data : ResultSet} {d : Row}
    {ds : List Row} (h : data.fetchMappings.1 = d :: ds) (fuel : Nat) (rows : List String) :
    copyDescriptions literal database view columns data (fuel + 1) rows =
      let next := { data with position := data.position + 1 }
      let rows := rows ++
        ((columns.find? (fits d)).map (described literal database view d)).toList
      if rows.length = columns.length then (.ok rows, next)
      else copyDescriptions literal database view columns next fuel rows := by
  rw [copyDescriptions, (fetchMapping_of_cons h).1]
  dsimp only
  rw [firstDescribed_eq d hmapped, Except.ok_bind]
  rcases hfind : columns.find? (fits d) with _ | c
  · rw [Option.map_none, Option.toList_none, List.append_nil]
    rfl
  · dsimp only
    rw [describedRow_eq literal database view d (hmapped c (List.mem_of_find?_eq_some hfind))]
    rfl

/-- The loop goes through all unread descriptions, or stops where none of the others fits. As long
as there is room for a row for every column that they cover, none is lost. -/
theorem copyDescriptions_eq (hmapped : ∀ c ∈ columns, Mapped c) {data : ResultSet} {fuel : Nat}
    {rows : List String} (hfuel : data.fetchMappings.1.length < fuel)
    (happart : data.fetchMappings.1.Pairwise Apart)
    (hroom : rows.length + covered columns data.fetchMappings.1 ≤ columns.length) :
    (copyDescriptions literal database view columns data fuel rows).1 =
      .ok (rows ++ copied literal database view columns data.fetchMappings.1) := by
  induction fuel generalizing data rows with
  | zero => exact absurd hfuel (Nat.not_lt_zero _)
  | succ fuel ih =>
    rcases hds : data.fetchMappings.1 with _ | ⟨d, ds⟩
    · rw [copyDescriptions, fetchMapping_of_nil hds]
      simp [copied]
    · rw [hds] at hfuel happart hroom
      obtain ⟨hd, happart⟩ := List.pairwise_cons.mp happart
      have hrest := (fetchMapping_of_cons hds).2
      have hfirst := covered_cons columns hd
      rw [copyDescriptions_of_cons hmapped hds, copied_cons, ← List.append_assoc]
      set next : ResultSet := { data with position := data.position + 1 }
      set rows' := rows ++
        ((columns.find? (fits d)).map (described literal database view d)).toList with hrows'
      have hlength : rows'.length = rows.length + (columns.find? (fits d)).toList.length := by
        rw [hrows', List.length_append]
        cases columns.find? (fits d) <;> rfl
      dsimp only
      split
      · rename_i hfull
        have hnone : covered columns ds = 0 := by omega
        rw [copied_of_covered_eq_zero hnone, List.append_nil]
      · rw [List.length_cons] at hfuel
        rw [ih (by rw [hrest]; omega) (hrest ▸ happart) (by rw [hrest]; omega), hrest]

end Loop

/-! ## The join -/

section Join

variable (literal : String → String) (database view : String) (columns ds : List Row)

/-- What there is to be copied: a row for every column whose source a description is of. -/
def wanted : List String :=
  columns.filterMap fun c =>
    (ds.find? (fits · c)).map fun d => described literal database view d c

/-- The rows for all columns that descriptions fit, description by description. -/
def joined : List String :=
  ds.flatMap fun d => (columns.filter (fits d)).map (described literal database view d)

theorem copied_eq_flatMap : copied literal database view columns ds = ds.flatMap fun d =>
    ((columns.filter (fits d)).map (described literal database view d)).take 1 := by
  unfold copied
  rw [List.filterMap_eq_flatMap_toList]
  refine List.flatMap_congr fun d _ => ?_
  rw [← List.map_take, List.take_one, List.head?_filter]
  cases columns.find? (fits d) <;> rfl

theorem copied_sublist : (copied literal database view columns ds).Sublist
    (joined literal database view columns ds) := by
  rw [copied_eq_flatMap]
  induction ds with
  | nil => exact .slnil
  | cons d ds ih => exact (List.take_sublist 1 _).append ih

theorem copied_perm_joined_iff :
    (copied literal database view columns ds).Perm (joined literal database view columns ds) ↔
      ∀ d ∈ ds, columns.countP (fits d) ≤ 1 := by
  have hsublist := copied_sublist literal database view columns ds
  constructor
  · intro hperm
    have hlength := hperm.length_eq
    clear hperm hsublist
    induction ds with
    | nil => simp
    | cons d ds ih =>
      have hle := (copied_sublist literal database view columns ds).length_le
      rw [copied_eq_flatMap] at hlength hle
      unfold joined at hlength hle ih
      rw [List.flatMap_cons, List.flatMap_cons, List.length_append, List.length_append,
        List.length_take, List.length_map, ← List.countP_eq_length_filter] at hlength
      rw [copied_eq_flatMap] at ih
      refine List.forall_mem_cons.mpr ⟨by omega, ih (by omega)⟩
  · intro hone
    suffices h : copied literal database view columns ds =
        joined literal database view columns ds by
      rw [h]
    rw [copied_eq_flatMap]
    refine List.flatMap_congr fun d hd => List.take_of_length_le ?_
    rw [List.length_map, ← List.countP_eq_length_filter]
    exact hone d hd

end Join

theorem filter_eq_find? {α : Type} {p : α → Bool} {xs : List α}
    (h : xs.Pairwise fun a b => p a = true → p b = false) :
    xs.filter p = (xs.find? p).toList := by
  induction xs with
  | nil => rfl
  | cons x xs ih =>
    obtain ⟨hx, hxs⟩ := List.pairwise_cons.mp h
    rw [List.filter_cons, List.find?_cons]
    rcases hp : p x with _ | _
    · exact ih hxs
    · have hnone : xs.filter p = [] :=
        List.filter_eq_nil_iff.mpr fun y hy => by simp [hx y hy hp]
      simp [hnone]

theorem flatMap_swap {α β γ : Type} (xs : List α) (ys : List β) (f : α → β → List γ) :
    (xs.flatMap fun x => ys.flatMap (f x)).Perm
      (ys.flatMap fun y => xs.flatMap fun x => f x y) := by
  rw [← Multiset.coe_eq_coe]
  simp only [← Multiset.coe_bind]
  exact Multiset.bind_bind _ _

theorem flatMap_ite {α β : Type} (p : α → Bool) (g : α → β) (xs : List α) :
    (xs.flatMap fun x => if p x then [g x] else []) = (xs.filter p).map g := by
  induction xs with
  | nil => rfl
  | cons x xs ih =>
    rw [List.flatMap_cons, ih, List.filter_cons]
    split <;> rfl

/-- The rows for all columns that descriptions fit are, column by column, those that are wanted, as
no column is fit by two descriptions. -/
theorem joined_perm_wanted (literal : String → String) (database view : String)
    (columns : List Row) {ds : List Row} (happart : ds.Pairwise Apart) :
    (joined literal database view columns ds).Perm (wanted literal database view columns ds) := by
  have hunique (c : Row) : ds.filter (fits · c) = (ds.find? (fits · c)).toList :=
    filter_eq_find? (happart.imp fun h => h.not_fits)
  have hwanted : wanted literal database view columns ds = columns.flatMap fun c =>
      ds.flatMap fun d => if fits d c then [described literal database view d c] else [] := by
    unfold wanted
    rw [List.filterMap_eq_flatMap_toList]
    refine List.flatMap_congr fun c _ => ?_
    rw [flatMap_ite, hunique, Option.toList_map]
  have hjoined : joined literal database view columns ds = ds.flatMap fun d =>
      columns.flatMap fun c => if fits d c then [described literal database view d c] else [] :=
    List.flatMap_congr fun d _ => (flatMap_ite _ _ _).symm
  rw [hwanted, hjoined]
  exact flatMap_swap ds columns _

theorem copied_eq_nil_iff (literal : String → String) (database view : String)
    (columns ds : List Row) :
    copied literal database view columns ds = [] ↔ ∀ c ∈ columns, ∀ d ∈ ds, fits d c = false := by
  unfold copied
  rw [List.filterMap_eq_nil_iff]
  simp only [Option.map_eq_none_iff, List.find?_eq_none, Bool.not_eq_true]
  exact ⟨fun h c hc d hd => h d hd c hc, fun h d hd c hc => h c hc d hd⟩

theorem insertDescriptions_ne_empty (table : String) (rows : List String) :
    Sql.insertDescriptions table rows ≠ "" := by
  intro h
  have htext := congrArg String.toList h
  unfold Sql.insertDescriptions at htext
  simp only [String.toList_append, List.append_assoc] at htext
  exact List.append_ne_nil_of_left_ne_nil (by decide) _ htext

/-! ## The statement -/

variable {σ : Type} (desk : Desk σ)

/-- The source of every column is known in the map that is made of a query. -/
theorem mapped_of_columnMap {sql : String} {names : List String} {s : DeskState σ}
    {columns : List Row} (h : (desk.columnMap sql names s).1 = .ok columns) :
    ∀ c ∈ columns, Mapped c := by
  unfold columnMap at h
  rw [fst_bind] at h
  obtain ⟨_ | r, -, h⟩ := Except.bind_eq_ok.mp h
  · obtain rfl : [] = columns := Except.ok.inj h
    simp
  · dsimp only at h
    split at h
    · obtain rfl := Except.ok.inj h
      intro c hc
      obtain ⟨f, -, rfl⟩ := List.mem_map.mp hc
      exact ⟨rfl, rfl⟩
    · split at h
      · obtain rfl : [] = columns := Except.ok.inj h
        simp
      · obtain rfl := Except.ok.inj h
        intro c hc
        obtain ⟨i, hi, rfl⟩ := List.mem_iff_getElem.mp hc
        rw [List.getElem_zipWith]
        exact ⟨rfl, rfl⟩

/-- The rows of the statement that copies descriptions. -/
theorem copyStatement_fst {table : String} (htable : desk.descriptionTable = some table)
    {data : ResultSet} {columns : List Row} (hmapped : ∀ c ∈ columns, Mapped c)
    (happart : data.fetchMappings.1.Pairwise Apart) (view database : String) (s : DeskState σ) :
    let rows := copied (desk.literalIn .control s) database view columns data.fetchMappings.1
    ∃ rest, (desk.copyStatement data columns view database s).1 =
      .ok (.ok (if rows.isEmpty then "" else Sql.insertDescriptions table rows), rest) := by
  have hfuel : data.fetchMappings.1.length < data.count + 1 := by
    have hlength : data.fetchMappings.1.length = data.rows.length - data.position := by
      simp [ResultSet.fetchMappings, ResultSet.remaining]
    unfold ResultSet.count
    omega
  have hroom : ([] : List String).length + covered columns data.fetchMappings.1 ≤
      columns.length := by
    rw [List.length_nil, Nat.zero_add]
    exact List.countP_le_length
  have hcopied : (copyDescriptions (desk.literalIn .control s) database view columns data
      (data.count + 1) []).1 = .ok _ := copyDescriptions_eq hmapped hfuel happart hroom
  rw [List.nil_append] at hcopied
  unfold copyStatement
  rw [htable]
  dsimp only
  rw [fst_bind, run_literal, Except.ok_bind]
  rcases hrun : copyDescriptions (desk.literalIn .control s) database view columns data
    (data.count + 1) [] with ⟨r, rest⟩
  rw [hrun] at hcopied
  obtain rfl : r = .ok _ := hcopied
  exact ⟨rest, rfl⟩

/-- The statement that copies descriptions to the columns of a view has no row but those of columns
whose source is described, at most one for each. It has all of them exactly if no description is
that of the source of two columns, and it is nothing exactly if no column has one. -/
theorem copyStatement_complete_iff {table : String}
    (htable : desk.descriptionTable = some table) {data : ResultSet} {columns : List Row}
    (hmapped : ∀ c ∈ columns, Mapped c) (happart : data.fetchMappings.1.Pairwise Apart)
    (view database : String) (s : DeskState σ) :
    let ds := data.fetchMappings.1
    let due := wanted (desk.literalIn .control s) database view columns ds
    ∃ rows text rest,
      (desk.copyStatement data columns view database s).1 = .ok (.ok text, rest) ∧
      text = (if rows.isEmpty then "" else Sql.insertDescriptions table rows) ∧
      rows.Subperm due ∧
      (rows.Perm due ↔ ∀ d ∈ ds, columns.countP (fits d) ≤ 1) ∧
      (text = "" ↔ ∀ c ∈ columns, ∀ d ∈ ds, fits d c = false) := by
  intro ds due
  obtain ⟨rest, hrun⟩ := desk.copyStatement_fst htable hmapped happart view database s
  set rows := copied (desk.literalIn .control s) database view columns ds with hrows
  have hjoined : (joined (desk.literalIn .control s) database view columns ds).Perm due :=
    joined_perm_wanted _ _ _ _ happart
  have hsubperm : rows.Subperm due :=
    (copied_sublist _ _ _ _ _).subperm.trans hjoined.subperm
  refine ⟨rows, _, rest, hrun, rfl, hsubperm, ?_, ?_⟩
  · rw [← copied_perm_joined_iff (desk.literalIn .control s) database view]
    exact ⟨fun h => h.trans hjoined.symm, fun h => h.trans hjoined⟩
  · rw [← copied_eq_nil_iff (desk.literalIn .control s) database view, ← hrows]
    rcases rows with _ | ⟨row, rows⟩
    · simp
    · simpa using insertDescriptions_ne_empty table (row :: rows)

/-- The desk of a configuration storage. -/
def storageDesk : Desk Script :=
  scripted { server := { storageDb := "pmadb", columnInfo := "column_info" } }

/-- A new desk. -/
def storageState : DeskState Script := ⟨storageDesk.newMemory, { journal := { state := {} } }⟩

/-- What is stored of two columns of a table. -/
def storedDescriptions : ResultSet where
  columns := ["table_name", "column_name", "comment", "mimetype", "transformation",
    "transformation_options"]
  rows := [[.text "t", .text "c", .text "note", .null, .null, .null],
    [.text "t", .text "d", .null, .text "text/plain", .null, .null]]

/-- A column of a view with the column behind it. -/
def viewColumn (source own : String) : Row :=
  .ofFacts [(tableKey, .text "t"), (sourceKey, .text source), (ownKey, .text own)]

theorem viewColumn_mapped (source own : String) : Mapped (viewColumn source own) := ⟨rfl, rfl⟩

theorem storedDescriptions_apart : storedDescriptions.fetchMappings.1.Pairwise Apart :=
  List.pairwise_pair.mpr ((apart_iff_of_texts rfl rfl rfl rfl).mpr (by decide))

theorem distinct_sources_described :
    let columns := [viewColumn "d" "a", viewColumn "e" "", viewColumn "c" ""]
    storageDesk.descriptionTable = some (Sql.qualified "pmadb" "column_info") ∧
      (∀ c ∈ columns, Mapped c) ∧ storedDescriptions.fetchMappings.1.Pairwise Apart ∧
      ∃ rows rest,
        (storageDesk.copyStatement storedDescriptions columns "v" "shop" storageState).1 =
          .ok (.ok (Sql.insertDescriptions (Sql.qualified "pmadb" "column_info") rows), rest) ∧
        rows.Perm ["('shop', 'v', 'a', '', 'text/plain', '', '')",
          "('shop', 'v', 'c', 'note', '', '', '')"] := by
  intro columns
  have hmapped : ∀ c ∈ columns, Mapped c := by
    simp [columns, viewColumn_mapped]
  refine ⟨rfl, hmapped, storedDescriptions_apart, ?_⟩
  obtain ⟨rows, text, rest, hrun, htext, -, hperm, -⟩ :=
    storageDesk.copyStatement_complete_iff rfl hmapped storedDescriptions_apart "v" "shop"
      storageState
  have hrows : rows.Perm _ := hperm.mpr (by decide +kernel)
  have hnonempty : ¬ rows.isEmpty = true := by
    intro h
    rw [List.isEmpty_iff.mp h] at hrows
    exact absurd hrows.length_eq (by decide +kernel)
  rw [if_neg hnonempty] at htext
  exact ⟨rows, rest, htext ▸ hrun, hrows⟩

/-- Of two columns of a view with the same source only the first one gets a description. -/
theorem shared_source_described_once :
    let columns := [viewColumn "c" "a", viewColumn "c" "b"]
    let due := wanted (storageDesk.literalIn .control storageState) "shop" "v" columns
      storedDescriptions.fetchMappings.1
    storageDesk.descriptionTable = some (Sql.qualified "pmadb" "column_info") ∧
      (∀ c ∈ columns, Mapped c) ∧ storedDescriptions.fetchMappings.1.Pairwise Apart ∧
      due = ["('shop', 'v', 'a', 'note', '', '', '')", "('shop', 'v', 'b', 'note', '', '', '')"] ∧
      ∃ rest, (storageDesk.copyStatement storedDescriptions columns "v" "shop" storageState).1 =
        .ok (.ok (Sql.insertDescriptions (Sql.qualified "pmadb" "column_info")
          ["('shop', 'v', 'a', 'note', '', '', '')"]), rest) := by
  refine ⟨rfl, ?_, storedDescriptions_apart, rfl, _, rfl⟩
  simp [viewColumn_mapped]

end SqlDesk.Desk
