import SqlDesk.Proofs.Order.Blocks
import SqlDesk.Proofs.Order.Listing

/-!
# Tables by numbers and by names

Where a column of tables holds integers and nulls only, tables are compared by the places of these,
null below every number, and then by the keys of their names. The length of a table is that of its
data and its indexes together, where null counts as zero.
-/

namespace SqlDesk

open SqlDesk.Order

/-! ## Figures -/

namespace Value

/-- An integer or nothing. -/
def IsFigure (v : Value) : Prop := v = .null ∨ ∃ n, v = .int n

/-- The place of an integer or nothing: nothing is below every number. -/
def figure : Value → Option Int
  | .int n => some n
  | _ => none

/-- What a value counts in a sum. -/
def counted (v : Value) : Int :=
  match v.orElse (.int 0) with
  | .int n => n
  | _ => 0

theorem compare_ints (m n : Int) : (Num.int m).compare (.int n) = signOf (compare m n) := by
  have hexact : (Num.int m).exact.compare? (Num.int n).exact = some (compare m n) := by
    -- whole numbers are compared as fractions over one
    show some (compare (m * (1 : Nat)) (n * (1 : Nat))) = _
    rw [Nat.cast_one, Int.mul_one, Int.mul_one]
  unfold Num.compare
  rw [hexact]
  cases compare m n <;> rfl

theorem compareValues_figures {v w : Value} (hv : v.IsFigure) (hw : w.IsFigure)
    (natural : Bool) : compareValues v w natural = .ok (signOf (compare v.figure w.figure)) := by
  rcases hv with rfl | ⟨m, rfl⟩ <;> rcases hw with rfl | ⟨n, rfl⟩
  · rfl
  · rfl
  · rfl
  · exact congrArg Except.ok (compare_ints m n)

end Value

/-! ## Tables -/

namespace TableStatus

/-- The place of a table among others by a column of integers and nulls. -/
def rank (f : TableField) (t : TableStatus) : Option Int :=
  if f = .dataLength then some ((t.data .dataLength).counted + (t.data .indexLength).counted)
  else (t.data f).figure

/-- What a sort by an attribute reads of a table can be placed: its name has a key, its lengths
count in a sum, and any other attribute is an integer or nothing. -/
structure HasRank (natural : Bool) (f : TableField) (t : TableStatus) : Prop where
  name : ∃ k, textKey natural (.text t.name) = .ok k
  counts : f = .dataLength → t.HasCounts
  figure : f ≠ .name → f ≠ .dataLength → (t.data f).IsFigure

theorem HasCounts.totalLength_eq {t : TableStatus} (h : t.HasCounts) :
    t.totalLength = .ok (.int ((t.data .dataLength).counted + (t.data .indexLength).counted)) := by
  obtain ⟨⟨m, hm⟩, n, hn⟩ := h
  unfold Value.counted
  show ((t.data .dataLength).orElse (.int 0)).plus ((t.data .indexLength).orElse (.int 0)) = _
  rw [hm, hn]
  rfl

end TableStatus

namespace Order

/-- The key of a name, an empty one if it has none. -/
def nameKey (natural : Bool) (name : String) : List Chunk :=
  (textKey natural (.text name)).toOption.getD []

/-- The order of tables by their names. -/
def nameOrder (natural : Bool) (a b : TableStatus) : Ordering :=
  compareKeys (nameKey natural a.name) (nameKey natural b.name)

/-- The order of tables by an attribute. -/
def columnOrder (natural : Bool) (f : TableField) (a b : TableStatus) : Ordering :=
  if f = .name then nameOrder natural a b else compare (a.rank f) (b.rank f)

variable {natural : Bool} {f : TableField}

theorem columnOrder_name : columnOrder natural .name = nameOrder natural :=
  funext fun _ => funext fun _ => if_pos rfl

theorem columnOrder_of_ne (h : f ≠ .name) :
    columnOrder natural f = compareOn (TableStatus.rank f) :=
  funext fun _ => funext fun _ => if_neg h

instance : Std.TransCmp (nameOrder natural) where
  eq_swap {a b} := by
    show compareKeys _ _ = (compareKeys _ _).swap
    exact Std.OrientedCmp.eq_swap
  isLE_trans {a b c} hab hbc := by
    change (compareKeys _ _).isLE = true at hab hbc
    show (compareKeys _ _).isLE = true
    exact Std.TransCmp.isLE_trans hab hbc

instance : Std.TransCmp (columnOrder natural f) := by
  by_cases h : f = .name
  · rw [h, columnOrder_name]
    infer_instance
  · rw [columnOrder_of_ne h]
    infer_instance

theorem compareTexts_names {a b : String} (ha : ∃ k, textKey natural (.text a) = .ok k)
    (hb : ∃ k, textKey natural (.text b) = .ok k) :
    compareTexts (.text a) (.text b) natural =
      .ok (signOf (compareKeys (nameKey natural a) (nameKey natural b))) := by
  obtain ⟨x, hx⟩ := ha
  obtain ⟨y, hy⟩ := hb
  unfold nameKey
  rw [compareTexts_of_keys hx hy, hx, hy]
  rfl

theorem compareBy_ranks {a b : TableStatus} (ha : a.HasRank natural f)
    (hb : b.HasRank natural f) :
    compareBy natural f a b = .ok (signOf (columnOrder natural f a b)) := by
  unfold compareBy columnOrder
  split
  · exact compareTexts_names ha.name hb.name
  · rename_i hname
    unfold TableStatus.rank
    split
    · rename_i hlength
      rw [TableStatus.compareLengths, (ha.counts hlength).totalLength_eq,
        (hb.counts hlength).totalLength_eq]
      exact Value.sign_int _ _
    · rename_i hlength
      exact Value.compareValues_figures (ha.figure hname hlength) (hb.figure hname hlength) natural

/-- Tables that can be placed are compared by their places, in a direction, and then by the keys of
their names. -/
theorem comparesBy_ranks {ts : List TableStatus} (hts : ∀ t ∈ ts, t.HasRank natural f)
    (order : String) :
    ComparesBy (fun a b => compareTables a b f.showColumn order natural) (columnOrder natural f)
      (nameOrder natural) order ts := by
  intro a ha b hb
  show compareTables a b f.showColumn order natural = _
  rw [compareTables_eq, compareBy_ranks (hts a ha) (hts b hb),
    compareTexts_names (hts a ha).name (hts b hb).name]
  have hswap : columnOrder natural f b a = (columnOrder natural f a b).swap :=
    Std.OrientedCmp.eq_swap
  unfold withNames inTurn turned directed
  rw [Except.ok_bind, hswap]
  by_cases horder : order = "DESC"
  · rw [if_pos horder, if_pos horder]
    cases columnOrder natural f a b <;> rfl
  · rw [if_neg horder, if_neg horder]
    cases columnOrder natural f a b <;> rfl

end Order

end SqlDesk
