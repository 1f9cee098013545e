import Mathlib.Algebra.BigOperators.Group.List.Basic
import SqlDesk.Desk.Databases
import SqlDesk.Proofs.Table

/-!
# The totals of a database

Summing up the tables of a database one by one comes to the aggregates that the catalog has for
them. Both are functions of the figures of the tables: the fold adds what each table counts for
(`addTables_counting`), while an aggregate ignores what is null and is null itself if nothing is
left.
-/

namespace SqlDesk

open Number

/-! ## Integers as values -/

namespace Value

/-- An integer, or null. -/
def ofInt? : Option Int → Value
  | none => .null
  | some n => .int n

theorem int_orElse (n : Int) : (Value.int n).orElse (.int 0) = .int n := by
  by_cases hn : n = 0 <;> simp [orElse, truthy, hn]

theorem ofInt?_orElse (o : Option Int) : (ofInt? o).orElse (.int 0) = .int (o.getD 0) := by
  cases o with
  | none => rfl
  | some n => exact int_orElse n

theorem int_plus (m n : Int) : (Value.int m).plus (.int n) = .ok (.int (m + n)) := rfl

end Value

/-! ## Figures -/

/-- What the totals of a database take from a table. -/
structure Figures where
  engine : Option String
  rows : Option Int
  dataLength : Option Int
  maxDataLength : Option Int
  indexLength : Option Int
  dataFree : Option Int

namespace Figures

/-- What a table counts for in each total. -/
def counts (g : Figures) : DatabaseField → Int
  | .tables => 1
  | .tableRows => g.rows.getD 0
  | .dataLength => g.dataLength.getD 0
  | .maxDataLength => g.maxDataLength.getD 0
  | .indexLength => g.indexLength.getD 0
  | .length => g.dataLength.getD 0 + g.indexLength.getD 0
  | .dataFree => if g.engine = some "InnoDB" then 0 else g.dataFree.getD 0

/-- The totals over tables. -/
def total (gs : List Figures) (f : DatabaseField) : Int := (gs.map (·.counts f)).sum

theorem total_perm {gs gs' : List Figures} (h : gs.Perm gs') (f : DatabaseField) :
    total gs f = total gs' f := (h.map _).sum_eq

theorem total_length (gs : List Figures) :
    total gs .length = total gs .dataLength + total gs .indexLength := by
  exact List.sum_map_add

/-- The figures that a status has. -/
structure Of (t : TableStatus) (g : Figures) : Prop where
  engine : t.data .engine = (g.engine.map Value.text).getD .null
  rows : t.data .rows = .ofInt? g.rows
  dataLength : t.data .dataLength = .ofInt? g.dataLength
  maxDataLength : t.data .maxDataLength = .ofInt? g.maxDataLength
  indexLength : t.data .indexLength = .ofInt? g.indexLength
  dataFree : t.data .dataFree = .ofInt? g.dataFree

end Figures

/-! ## Summing up -/

namespace DatabaseStats

/-- A database with numbers as its totals. -/
def counting (d : DatabaseStats) (n : DatabaseField → Int) : DatabaseStats :=
  { d with data := fun f => .int (n f) }

theorem counting_set (d : DatabaseStats) (n : DatabaseField → Int) (f : DatabaseField) (m : Int) :
    (d.counting n).set f (.int m) = d.counting fun g => if g = f then m else n g := by
  refine congrArg (fun data => { d with data }) (funext fun g => ?_)
  by_cases hg : g = f <;> simp [counting, hg]

/-- Changes that add to different totals add to each of them. -/
theorem applyChanges_counting (d : DatabaseStats) (n add : DatabaseField → Int)
    {cs : List (DatabaseField × (Value → Except Fault Value))}
    (hadd : ∀ c ∈ cs, ∀ m, c.2 (.int m) = .ok (.int (m + add c.1)))
    (hnodup : (cs.map Prod.fst).Nodup) :
    (d.counting n).applyChanges cs =
      (d.counting fun f => if f ∈ cs.map Prod.fst then n f + add f else n f, none) := by
  induction cs generalizing n with
  | nil => simp [applyChanges]
  | cons c cs ih =>
    obtain ⟨hc, hnodup⟩ := List.nodup_cons.mp hnodup
    have hstep :
        c.2 (((d.counting n).data c.1).orElse (.int 0)) = .ok (.int (n c.1 + add c.1)) := by
      rw [counting, Value.int_orElse]
      exact hadd c List.mem_cons_self (n c.1)
    rw [applyChanges, hstep]
    dsimp only
    rw [counting_set, ih _ (fun c hc => hadd c (List.mem_cons_of_mem _ hc)) hnodup]
    refine congrArg (fun k => (d.counting k, none)) (funext fun f => ?_)
    by_cases hf : f = c.1
    · subst hf
      simp [hc]
    · have hmem : f ∈ (c :: cs).map Prod.fst ↔ f ∈ cs.map Prod.fst := by simp [hf]
      simp only [hmem, if_neg hf]

theorem addTable_counting {t : TableStatus} {g : Figures} (h : g.Of t) (d : DatabaseStats)
    (n : DatabaseField → Int) :
    (d.counting n).addTable t = (d.counting fun f => n f + g.counts f, none) := by
  have hfields : (changes t).map Prod.fst = [.tables, .tableRows, .dataLength, .maxDataLength,
    .indexLength, .dataFree, .length] := rfl
  have hadd : ∀ c ∈ changes t, ∀ m, c.2 (.int m) = .ok (.int (m + g.counts c.1)) := by
    intro c hc m
    have hgrow (f : TableField) (o : Option Int) (hf : t.get f = .ofInt? o) :
        (Value.int m).plus ((t.get f).orElse (.int 0)) = .ok (.int (m + o.getD 0)) := by
      rw [hf, Value.ofInt?_orElse, Value.int_plus]
    simp only [changes, List.mem_cons, List.not_mem_nil, or_false] at hc
    rcases hc with rfl | rfl | rfl | rfl | rfl | rfl | rfl
    · rfl
    · exact hgrow .rows _ h.rows
    · exact hgrow .dataLength _ h.dataLength
    · exact hgrow .maxDataLength _ h.maxDataLength
    · exact hgrow .indexLength _ h.indexLength
    · -- free space is added unless the engine is InnoDB
      have hengine : (t.get .engine == .text "InnoDB") = true ↔ g.engine = some "InnoDB" := by
        rw [Value.beq_text, show t.get .engine = _ from h.engine]
        cases g.engine <;> simp
      by_cases hinno : g.engine = some "InnoDB"
      · simp [hengine.mpr hinno, Figures.counts, hinno]
      · have hother := mt hengine.mp hinno
        simp only [if_neg hother, Figures.counts, if_neg hinno]
        exact hgrow .dataFree _ h.dataFree
    · have htotal : t.totalLength = .ok (.int (g.dataLength.getD 0 + g.indexLength.getD 0)) := by
        rw [TableStatus.totalLength, show t.get .dataLength = _ from h.dataLength,
          show t.get .indexLength = _ from h.indexLength, Value.ofInt?_orElse, Value.ofInt?_orElse,
          Value.int_plus]
      simp only [htotal]
      rfl
  rw [addTable, applyChanges_counting d n g.counts hadd (by rw [hfields]; decide)]
  refine congrArg (fun k => (d.counting k, none)) (funext fun f => ?_)
  rw [hfields]
  cases f <;> rfl

end DatabaseStats

/-! ## Rows of `SHOW TABLE STATUS` -/

/-- The integer that a value denotes. -/
def Value.integer? (v : Value) : Option Int :=
  match v.toNumber with
  | .ok (some (.int n)) => some n
  | _ => none

/-- The text that a value is. -/
def Value.text? : Value → Option String
  | .text s => some s
  | _ => none

/-- The figures in a row. -/
def Figures.ofRow (row : Row) : Figures where
  engine := (row.column "Engine").text?
  rows := (row.column "Rows").integer?
  dataLength := (row.column "Data_length").integer?
  maxDataLength := (row.column "Max_data_length").integer?
  indexLength := (row.column "Index_length").integer?
  dataFree := (row.column "Data_free").integer?

/-- The attributes that totals are made of. -/
def sizeFields : List TableField := [.rows, .dataLength, .maxDataLength, .indexLength, .dataFree]

/-- A row whose sizes are integers or null. A table has both lengths or none, and no free space
without an engine. -/
structure Countable (row : Row) : Prop where
  size : ∀ f ∈ sizeFields, row.column f.showColumn = .null ∨
    ∃ n, (row.column f.showColumn).toNumber = .ok (some (.int n))
  engine : row.column "Engine" = .null ∨ ∃ s, row.column "Engine" = .text s
  lengths : row.column "Data_length" = .null ↔ row.column "Index_length" = .null
  free : row.column "Engine" = .null → row.column "Data_free" = .null

theorem Countable.of {row : Row} (h : Countable row) {schema : String} {t : TableStatus}
    (ht : TableStatus.ofShowRow row schema = .ok t) : (Figures.ofRow row).Of t := by
  have hsize (f : TableField) (hf : f ∈ sizeFields) :
      t.data f = .ofInt? (row.column f.showColumn).integer? := by
    have hread := TableStatus.data_of_ofShowRow ht f
    have hnumeric : f.isNumeric = true := by
      revert hf
      cases f <;> decide
    rw [hnumeric] at hread
    rcases h.size f hf with hv | ⟨n, hn⟩
    · rw [hv] at hread ⊢
      exact (Except.ok.inj hread).symm
    · rw [TableStatus.coerce, if_pos rfl, hn] at hread
      rw [Value.integer?, hn]
      exact (Except.ok.inj hread).symm
  have hengine : t.data .engine = row.column "Engine" :=
    (Except.ok.inj (TableStatus.data_of_ofShowRow ht .engine)).symm
  refine ⟨?_, hsize .rows (by decide), hsize .dataLength (by decide),
    hsize .maxDataLength (by decide), hsize .indexLength (by decide), hsize .dataFree (by decide)⟩
  rw [hengine, Figures.ofRow]
  rcases h.engine with hv | ⟨e, hv⟩ <;> rw [hv] <;> rfl

/-- Summing up the tables of a database adds the totals of their figures, whatever the tables are
called. -/
theorem addTables_counting {schema : String} {rows : List Row}
    (hread : ∀ row ∈ rows, ∃ t, TableStatus.ofShowRow row schema = .ok t)
    (hrows : ∀ row ∈ rows, Countable row) (d : DatabaseStats) (n : DatabaseField → Int) :
    Desk.addTables schema rows (d.counting n) =
      .ok (d.counting fun f => n f + Figures.total (rows.map Figures.ofRow) f) := by
  unfold Desk.addTables
  induction rows generalizing n with
  | nil =>
    refine congrArg (fun k => Except.ok (d.counting k)) (funext fun f => ?_)
    simp [Figures.total]
  | cons row rows ih =>
    obtain ⟨t, ht⟩ := hread row List.mem_cons_self
    have hstep := DatabaseStats.addTable_counting ((hrows row List.mem_cons_self).of ht) d n
    rw [List.foldlM_cons]
    simp only [ht, Except.ok_bind, hstep]
    refine (ih (fun r hr => hread r (List.mem_cons_of_mem _ hr))
      (fun r hr => hrows r (List.mem_cons_of_mem _ hr)) _).trans ?_
    refine congrArg (fun k => Except.ok (d.counting k)) (funext fun f => ?_)
    simp only [Figures.total, List.map_cons, List.sum_cons]
    omega

/-! ## Aggregates of the catalog -/

namespace Sql

/-- `SUM` of a column: what is null is left out, and the sum of nothing is null. -/
def sumOf (vs : List (Option Int)) : Option Int :=
  if (vs.filterMap id).isEmpty then none else some (vs.filterMap id).sum

/-- A sum of two columns, null if one of them is. -/
def plus (a b : Option Int) : Option Int := a.bind fun m => b.map (m + ·)

/-- `IF(engine <> 'InnoDB', free, 0)`, where a comparison with null does not hold. -/
def freeSpace (engine : Option String) (free : Option Int) : Option Int :=
  match engine with
  | some e => if e ≠ "InnoDB" then free else some 0
  | none => some 0

/-- The tables that a database is joined with: a database without tables is joined with nulls. -/
def joined (gs : List Figures) : List (Option Figures) :=
  if gs.isEmpty then [none] else gs.map some

/-- The aggregates that the catalog has for a database with tables. -/
def aggregate (gs : List Figures) : DatabaseField → Option Int
  | .tables => some (((joined gs).filterMap id).length : Nat)
  | .tableRows => sumOf ((joined gs).map (·.bind Figures.rows))
  | .dataLength => sumOf ((joined gs).map (·.bind Figures.dataLength))
  | .maxDataLength => sumOf ((joined gs).map (·.bind Figures.maxDataLength))
  | .indexLength => sumOf ((joined gs).map (·.bind Figures.indexLength))
  | .length => sumOf ((joined gs).map fun t =>
      plus (t.bind Figures.dataLength) (t.bind Figures.indexLength))
  | .dataFree => sumOf ((joined gs).map fun t =>
      freeSpace (t.bind Figures.engine) (t.bind Figures.dataFree))

theorem sumOf_getD (vs : List (Option Int)) :
    (sumOf vs).getD 0 = (vs.map (·.getD 0)).sum := by
  have hsum : (vs.filterMap id).sum = (vs.map (·.getD 0)).sum := by
    induction vs with
    | nil => rfl
    | cons v vs ih =>
      cases v with
      | none => simpa using ih
      | some n => simpa using ih
  rw [← hsum, sumOf]
  split
  · rename_i hempty
    rw [List.isEmpty_iff.mp hempty]
    rfl
  · rfl

/-- A sum over the joined tables is one over the tables, if nulls count for nothing. -/
theorem sumOf_joined (gs : List Figures) {column : Option Figures → Option Int}
    (hnull : (column none).getD 0 = 0) {count : Figures → Int}
    (h : ∀ g ∈ gs, (column (some g)).getD 0 = count g) :
    (sumOf ((joined gs).map column)).getD 0 = (gs.map count).sum := by
  rw [sumOf_getD, List.map_map, joined]
  split
  · rename_i hempty
    rw [List.isEmpty_iff.mp hempty]
    simpa using hnull
  · rw [List.map_map]
    exact congrArg List.sum (List.map_congr_left h)

end Sql

/-- The catalog's aggregates are the totals of the tables, read as zero where they are null. -/
theorem Countable.aggregate_getD {rows : List Row} (h : ∀ row ∈ rows, Countable row)
    (f : DatabaseField) : (Sql.aggregate (rows.map Figures.ofRow) f).getD 0 =
      Figures.total (rows.map Figures.ofRow) f := by
  cases f with
  | tables =>
    have hcount : ((Sql.joined (rows.map Figures.ofRow)).filterMap id).length = rows.length := by
      cases rows <;> simp [Sql.joined, List.filterMap_map, Function.comp_def]
    rw [Sql.aggregate, hcount]
    simp [Figures.total, Figures.counts, Function.comp_def]
  | length =>
    -- the catalog's sum is null if one of its parts is, and the parts are null together only
    refine Sql.sumOf_joined _ rfl fun g hg => ?_
    obtain ⟨row, hrow, rfl⟩ := List.mem_map.mp hg
    have hrow := h row hrow
    show (Sql.plus (row.column "Data_length").integer?
        (row.column "Index_length").integer?).getD 0 =
      (row.column "Data_length").integer?.getD 0 + (row.column "Index_length").integer?.getD 0
    rcases hrow.size .dataLength (by decide) with hdata | ⟨m, hm⟩
    · have hdata : row.column "Data_length" = .null := hdata
      rw [hdata, hrow.lengths.mp hdata]
      rfl
    · rcases hrow.size .indexLength (by decide) with hindex | ⟨n, hn⟩
      · have hm : (row.column "Data_length").toNumber = .ok (some (.int m)) := hm
        rw [hrow.lengths.mpr hindex] at hm
        cases hm
      · have hm : (row.column "Data_length").integer? = some m := by
          rw [Value.integer?, show (row.column "Data_length").toNumber = _ from hm]
        have hn : (row.column "Index_length").integer? = some n := by
          rw [Value.integer?, show (row.column "Index_length").toNumber = _ from hn]
        rw [hm, hn]
        rfl
  | dataFree =>
    refine Sql.sumOf_joined _ rfl fun g hg => ?_
    obtain ⟨row, hrow, rfl⟩ := List.mem_map.mp hg
    show (Sql.freeSpace (Figures.ofRow row).engine (Figures.ofRow row).dataFree).getD 0 =
      (Figures.ofRow row).counts .dataFree
    rcases (h row hrow).engine with hnone | ⟨e, he⟩
    · have hengine : (Figures.ofRow row).engine = none := by
        rw [Figures.ofRow, hnone]
        rfl
      have hfree : (Figures.ofRow row).dataFree = none := by
        rw [Figures.ofRow, (h row hrow).free hnone]
        rfl
      simp [Sql.freeSpace, Figures.counts, hengine, hfree]
    · have hengine : (Figures.ofRow row).engine = some e := by
        rw [Figures.ofRow, he]
        rfl
      by_cases hinno : e = "InnoDB" <;> simp [Sql.freeSpace, Figures.counts, hengine, hinno]
  | tableRows | dataLength | maxDataLength | indexLength =>
    exact Sql.sumOf_joined _ rfl fun g _ => rfl

/-- What an aggregate may be sent as: null, or its number in any form. -/
def Reports (v : Value) : Option Int → Prop
  | none => v = .null
  | some n => ∃ x, v.toNumber = .ok (some x) ∧ x.exact.compare? (.finite n 1) = some .eq

theorem Exact.eq_of_compare? {m n : Int} {k : Nat}
    (h : (Exact.finite m k).compare? (.finite n 1) = some .eq) : m = n * k := by
  have hcompare : compare (m * (1 : Nat)) (n * k) = .eq := Option.some.inj h
  simpa using hcompare

/-- A float that is a zero denotes no other number. -/
theorem Number.Binary64.eq_zero_of_isZero {x : Binary64} (h : x.isZero = true) {n : Int}
    (hn : (Exact.ofFloat x).compare? (.finite n 1) = some .eq) : n = 0 := by
  unfold isZero at h
  unfold Exact.ofFloat at hn
  rcases hview : x.view with ⟨neg, m, q⟩ | neg | _ <;> rw [hview] at h hn
  · obtain rfl : m = 0 := by
      cases m with
      | zero => rfl
      | succ m => simp at h
    have hproduct : n * ((2 ^ (-q).toNat : Nat) : Int) = 0 := by
      simpa using (Exact.eq_of_compare? hn).symm
    have hpower : ((2 ^ (-q).toNat : Nat) : Int) ≠ 0 :=
      Int.natCast_ne_zero.mpr (Nat.ne_of_gt (Nat.two_pow_pos _))
    exact (Int.mul_eq_zero.mp hproduct).resolve_right hpower
  · simp at h
  · simp at h

/-- A number in any form is read as a value that equals it. -/
theorem Reports.readAggregate {row : Row} {f : DatabaseField} {v : Value} {o : Option Int}
    (hv : row.column? f.column = some v) (h : Reports v o) :
    ∃ w, DatabaseStats.readAggregate row f = .ok w ∧ (w == .int (o.getD 0)) = true := by
  unfold DatabaseStats.readAggregate
  rw [hv]
  cases o with
  | none =>
    obtain rfl : v = .null := h
    exact ⟨.int 0, rfl, rfl⟩
  | some n =>
    obtain ⟨x, hx, hexact⟩ := h
    refine ⟨x.toValue.orElse (.int 0), by simp only [hx]; rfl, ?_⟩
    cases x with
    | int m =>
      obtain rfl : m = n := by simpa using Exact.eq_of_compare? hexact
      rw [Num.toValue, Value.int_orElse]
      show (Exact.compare? (.finite m 1) (.finite m 1) == some .eq) = true
      rw [show Exact.compare? (.finite m 1) (.finite m 1) = _ from hexact]
      rfl
    | float x =>
      by_cases hzero : x.isZero = true
      · obtain rfl := Binary64.eq_zero_of_isZero hzero hexact
        simp [Num.toValue, Value.orElse, Value.truthy, hzero]
        rfl
      · have hvalue : (Value.float x).orElse (.int 0) = .float x := by
          simp [Value.orElse, Value.truthy, hzero]
        rw [Num.toValue, hvalue]
        show ((Exact.ofFloat x).compare? (.finite n 1) == some .eq) = true
        rw [show (Exact.ofFloat x).compare? (.finite n 1) = _ from hexact]
        rfl

/-- A row of the catalog with the aggregates of a database with tables. -/
structure IsAggregate (row : Row) (gs : List Figures) : Prop where
  name : ∃ s, DatabaseStats.readName (row.column "SCHEMA_NAME") = .ok s
  reports : ∀ f, ∃ v, row.column? f.column = some v ∧ Reports v (Sql.aggregate gs f)

theorem IsAggregate.ofCatalogRow {row : Row} {gs : List Figures} (h : IsAggregate row gs) :
    ∃ e, DatabaseStats.ofCatalogRow row = .ok e ∧
      ∀ f, (e.data f == .int ((Sql.aggregate gs f).getD 0)) = true := by
  have hread (f : DatabaseField) : ∃ w, DatabaseStats.readAggregate row f = .ok w ∧
      (w == .int ((Sql.aggregate gs f).getD 0)) = true := by
    obtain ⟨v, hv, hreports⟩ := h.reports f
    exact hreports.readAggregate hv
  choose w hw hsame using hread
  obtain ⟨name, hname⟩ := h.name
  have hall : (DatabaseField.all.mapM fun f => do
      return (f, ← DatabaseStats.readAggregate row f)) =
        .ok (DatabaseField.all.map fun f => (f, w f)) :=
    Except.mapM_eq_ok_map (fun f => by rw [hw]; rfl) _
  unfold DatabaseStats.ofCatalogRow
  rw [hall, hname]
  refine ⟨_, rfl, fun f => ?_⟩
  have hdata : (DatabaseField.all.map fun f => (f, w f)).lookup f = some (w f) := by
    cases f <;> rfl
  show (((DatabaseField.all.map fun f => (f, w f)).lookup f).getD .null == _) = true
  rw [hdata]
  exact hsame f

/-- Summing up the tables of a database gives the aggregates of the catalog, in whatever form these
are sent. The order of the tables does not count, and the length of a database is that of data and
indexes together. -/
theorem addTables_eq_aggregate {schema : String} {rows : List Row}
    (hread : ∀ row ∈ rows, ∃ t, TableStatus.ofShowRow row schema = .ok t)
    (hrows : ∀ row ∈ rows, Countable row) (stats : DatabaseStats) :
    ∃ d, Desk.addTables schema rows stats.startStatistics = .ok d ∧
      (∀ row, IsAggregate row (rows.map Figures.ofRow) →
        ∃ e, DatabaseStats.ofCatalogRow row = .ok e ∧ ∀ f, (e.data f == d.data f) = true) ∧
      (∀ rows', rows'.Perm rows → Desk.addTables schema rows' stats.startStatistics = .ok d) ∧
      ∃ m n, d.data .dataLength = .int m ∧ d.data .indexLength = .int n ∧
        d.data .length = .int (m + n) := by
  have hfold (rows' : List Row) (hperm : rows'.Perm rows) :
      Desk.addTables schema rows' stats.startStatistics =
        .ok (stats.counting (Figures.total (rows.map Figures.ofRow))) := by
    refine (addTables_counting (fun row hrow => hread row (hperm.subset hrow))
      (fun row hrow => hrows row (hperm.subset hrow)) stats fun _ => 0).trans ?_
    refine congrArg (fun k => Except.ok (stats.counting k)) (funext fun f => ?_)
    rw [Int.zero_add, Figures.total_perm (hperm.map _)]
  refine ⟨_, hfold rows (.refl rows), fun row hrow => ?_, hfold, _, _, rfl, rfl,
    congrArg Value.int (Figures.total_length _)⟩
  obtain ⟨e, he, hdata⟩ := hrow.ofCatalogRow
  refine ⟨e, he, fun f => ?_⟩
  have htotal := hdata f
  rwa [Countable.aggregate_getD hrows] at htotal

/-- A table and a view in the answer to `SHOW TABLE STATUS`. -/
def shopRows : List Row :=
  [.ofFacts [("Name", .text "orders"), ("Engine", .text "MyISAM"), ("Rows", .text "7"),
      ("Data_length", .int 16384), ("Index_length", .text "1024"), ("Data_free", .int 10)],
    .ofFacts [("Name", .text "totals"), ("Comment", .text "VIEW")]]

/-- What the catalog has for them. -/
def shopAggregate : Row := .ofFacts
  [("SCHEMA_NAME", .text "shop"), ("SCHEMA_TABLES", .int 2),
    ("SCHEMA_TABLE_ROWS", .decimal (.finite false 7 0)),
    ("SCHEMA_DATA_LENGTH", .decimal (.finite false 16384 0)), ("SCHEMA_MAX_DATA_LENGTH", .null),
    ("SCHEMA_INDEX_LENGTH", .text "1024"), ("SCHEMA_LENGTH", .text "17408.0"),
    ("SCHEMA_DATA_FREE", .int 10)]

theorem shopRows_countable : ∀ row ∈ shopRows, Countable row := by
  have hsizes {p : TableField → Prop} (h : p .rows ∧ p .dataLength ∧ p .maxDataLength ∧
      p .indexLength ∧ p .dataFree) : ∀ f ∈ sizeFields, p f := by
    simpa [sizeFields] using h
  intro row hrow
  simp only [shopRows, List.mem_cons, List.not_mem_nil, or_false] at hrow
  rcases hrow with rfl | rfl
  · exact ⟨hsizes ⟨.inr ⟨_, rfl⟩, .inr ⟨_, rfl⟩, .inl rfl, .inr ⟨_, rfl⟩, .inr ⟨_, rfl⟩⟩,
      .inr ⟨_, rfl⟩, iff_of_false nofun nofun, nofun⟩
  · exact ⟨hsizes ⟨.inl rfl, .inl rfl, .inl rfl, .inl rfl, .inl rfl⟩, .inl rfl, Iff.rfl,
      fun _ => rfl⟩

theorem shopAggregate_isAggregate : IsAggregate shopAggregate (shopRows.map Figures.ofRow) := by
  refine ⟨⟨_, rfl⟩, fun f => ?_⟩
  cases f
  case maxDataLength => exact ⟨_, rfl, rfl⟩
  all_goals exact ⟨_, rfl, _, rfl, rfl⟩

theorem shop_totals_eq_aggregate :
    ∃ d e, Desk.addTables "shop" shopRows (DatabaseStats.startStatistics { name := "shop" }) =
        .ok d ∧ DatabaseStats.ofCatalogRow shopAggregate = .ok e ∧
      ∀ f, (e.data f == d.data f) = true := by
  have hread : ∀ row ∈ shopRows, ∃ t, TableStatus.ofShowRow row "shop" = .ok t := by
    simp only [shopRows, List.mem_cons, List.not_mem_nil, or_false, forall_eq_or_imp, forall_eq]
    exact ⟨⟨_, rfl⟩, ⟨_, rfl⟩⟩
  obtain ⟨d, hd, haggregate, -⟩ :=
    addTables_eq_aggregate hread shopRows_countable { name := "shop" }
  obtain ⟨e, he, hsame⟩ := haggregate shopAggregate shopAggregate_isAggregate
  exact ⟨d, e, hd, he, hsame⟩

end SqlDesk
