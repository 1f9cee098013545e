import SqlDesk.Proofs.Assoc
import SqlDesk.Proofs.Desk.Run
import SqlDesk.Proofs.ResultSet.Delivery
import SqlDesk.Proofs.Value

/-!
# The ways to read a column

A column of a result can be read at once or row by row, under its name or at its place, from the
rows as mappings, and through a desk that runs the statement. All of them give the same values, and
two columns give the same mapping, whether they are picked by name or come first and second.
-/

namespace SqlDesk

namespace ResultSet

variable (r : ResultSet)

/-- The values of the unread rows at a place. -/
def valuesAt (i : Nat) : List Value := r.remaining.map fun row => row.getD i .null

/-- The values of all rows at two places, row by row. -/
def pairsAt (i j : Nat) : List (Value × Value) :=
  r.rows.map fun row => (row.getD i .null, row.getD j .null)

/-- The answers to so many readings of one value, one after the other. -/
def successive (column : ColumnRef) : Nat → ResultSet → List (Except Fault Value)
  | 0, _ => []
  | n + 1, r => (r.fetchValue column).1 :: successive column n (r.fetchValue column).2

/-- Pairs as the entries of a mapping, if all their first values can be keys. -/
def entriesOf (pairs : List (Value × Value)) : Except Fault (List (Value × Value)) :=
  if pairs.all fun p => p.1.isKey then .ok pairs else .error .unfitOperands

variable {r} {column : ColumnRef} {c : String} {i : Nat}

/-- The name of a column means its place if no other column has that name. -/
theorem resolve_name (hdistinct : r.columns.Nodup) (hc : r.columns[i]? = some c) :
    r.resolve (.name c) = .ok i := by
  obtain ⟨hlt, rfl⟩ := List.getElem?_eq_some_iff.mp hc
  have hfound : r.columns.findIdx? (· == r.columns[i]) = some i := by
    rw [List.findIdx?_eq_some_iff_getElem]
    refine ⟨hlt, by simp, fun j hj => ?_⟩
    simpa using List.pairwise_iff_getElem.mp hdistinct j i _ hlt hj
  simp only [resolve, columnIndex, hfound]
  rfl

theorem cell_of_fits (h : r.Sound) (hi : i < r.columns.length) {row : List Value}
    (hrow : row ∈ r.rows) : cell row i = .ok (row.getD i .null) :=
  cell_of_lt (by rw [h.fits row hrow]; exact hi)

theorem mem_rows_of_mem_remaining {row : List Value} (h : row ∈ r.remaining) : row ∈ r.rows :=
  List.mem_of_mem_drop h

/-! ## The unread rows -/

theorem fetchColumn_fst (h : r.Sound) (hi : i < r.columns.length)
    (hc : r.resolve column = .ok (i : Int)) : (r.fetchColumn column).1 = .ok (r.valuesAt i) := by
  have hcells : (r.remaining.mapM fun row => cell row i) = .ok (r.valuesAt i) := by
    refine Except.mapM_eq_ok.mpr (List.forall₂_map_right_iff.mpr (List.forall₂_same.mpr ?_))
    exact fun row hrow => cell_of_fits h hi (mem_rows_of_mem_remaining hrow)
  unfold fetchColumn
  rw [hc, Except.ok_bind, hcells]

theorem column?_asMapping (hdistinct : r.columns.Nodup) (hc : r.columns[i]? = some c)
    {row : List Value} (hrow : row.length = r.columns.length) :
    Row.column? (r.asMapping row) c = some (row.getD i .null) := by
  obtain ⟨hlt, rfl⟩ := List.getElem?_eq_some_iff.mp hc
  have hwritten : r.asMapping row = Row.putAll [] (r.columns.zip row) := by
    unfold asMapping Assoc.ofList Assoc.merge Row.putAll Row.put
    rw [List.zip_map_left, List.foldl_map]
    rfl
  have hnames : (r.columns.zip row).map Prod.fst = r.columns := by
    rw [List.map_fst_zip]
    omega
  have hlt' : i < row.length := hrow ▸ hlt
  have hmem : (r.columns[i], row.getD i .null) ∈ r.columns.zip row := by
    refine List.mem_iff_getElem.mpr ⟨i, by simp; omega, ?_⟩
    simp [List.getElem?_eq_getElem hlt']
  rw [hwritten]
  exact Row.column?_putAll_of_mem (by rwa [hnames]) hmem []

theorem column?_fetchMappings (h : r.Sound) (hdistinct : r.columns.Nodup)
    (hc : r.columns[i]? = some c) :
    r.fetchMappings.1.map (Row.column? · c) = (r.valuesAt i).map some := by
  unfold fetchMappings valuesAt
  rw [List.map_map, List.map_map]
  refine List.map_congr_left fun row hrow => ?_
  exact column?_asMapping hdistinct hc (h.fits row (mem_rows_of_mem_remaining hrow))

/-- Readings of one value after the other give the values of the unread rows in order, and null once
there are no more. -/
theorem successive_eq (h : r.Sound) (hc : r.resolve column = .ok (i : Int)) (n : Nat) :
    successive column n r =
      ((r.valuesAt i).take n).map .ok ++
        List.replicate (n - (r.valuesAt i).length) (.ok .null) := by
  induction n generalizing r with
  | zero => simp [successive]
  | succ n ih =>
    have hpasses : r.Passes (r.remaining.take 1) (r.fetchValue column).2 := by
      rw [fetchValue_state]
      exact (passes_fetchRow h.bounded).1
    have hcolumn : (r.fetchValue column).2.resolve column = .ok (i : Int) := by
      rw [← hc]
      unfold resolve columnIndex
      rw [hpasses.columns]
    have hvalue (row : List Value) : r.valueAt column row = row.getD i .null := by
      unfold valueAt
      rw [hc]
      simp
    have hrest := hpasses.remaining
    rw [successive, ih (hpasses.sound h) hcolumn, fetchValue_answer h]
    unfold valuesAt
    rcases hremaining : r.remaining with _ | ⟨row, rows⟩ <;> rw [hremaining] at hrest
    · have hnone : (r.fetchValue column).2.remaining = [] := by simpa using hrest.symm
      simp [hnone, orNull, List.replicate_succ]
    · have hmore : (r.fetchValue column).2.remaining = rows := by simpa using hrest.symm
      simp [hmore, orNull, hvalue]

/-! ## All rows as a mapping -/

/-- A traversal of rows that gives the pairs of two places gives the entries of a mapping. -/
theorem mapM_entries {f : List Value → Except Fault (Value × Value)} {j : Nat}
    (h : ∀ row ∈ r.rows, f row = if (row.getD i .null).isKey then
      .ok (row.getD i .null, row.getD j .null) else .error .unfitOperands) :
    r.rows.mapM f = entriesOf (r.pairsAt i j) := by
  rw [Except.mapM_eq_ite h]
  unfold entriesOf pairsAt
  rw [List.all_map]
  rfl

theorem entriesOf_eq_ok {pairs : List (Value × Value)} (h : ∀ p ∈ pairs, p.1.isKey = true) :
    entriesOf pairs = .ok pairs := if_pos (List.all_eq_true.mpr h)

theorem entriesOf_eq_error {pairs : List (Value × Value)}
    (h : ¬ ∀ p ∈ pairs, p.1.isKey = true) : entriesOf pairs = .error .unfitOperands :=
  if_neg (mt List.all_eq_true.mp h)

/-- The first two columns of rows that have no more make the mapping of their pairs. -/
theorem fetchKeyed_fst (h : r.Sound) (hstart : r.position = 0) {k v : String}
    (hc : r.columns = [k, v]) : r.fetchKeyed.1 = Assoc.ofList <$> entriesOf (r.pairsAt 0 1) := by
  have hread : r.remaining.mapM keyedEntry = entriesOf (r.pairsAt 0 1) := by
    rw [remaining, hstart, List.drop_zero]
    refine mapM_entries fun row hrow => ?_
    have hlength : row.length = 2 := by rw [h.fits row hrow, hc]; rfl
    obtain ⟨a, b, rfl⟩ := List.length_eq_two.mp hlength
    rfl
  unfold fetchKeyed
  rw [hread]
  rcases entriesOf (r.pairsAt 0 1) with e | es <;> rfl

end ResultSet

namespace Desk

open Act ResultSet

variable {σ : Type} {desk : Desk σ} {sql : String} {role : Role} {s : DeskState σ} {r : ResultSet}
  {i j : Nat}

theorem pick_eq_ok (h : r.Sound) (hdistinct : r.columns.Nodup) {c : String}
    (hc : r.columns[i]? = some c) {row : List Value} (hrow : row ∈ r.rows) :
    pick r row (.name c) = .ok (row.getD i .null) := by
  unfold pick
  rw [resolve_name hdistinct hc]
  exact cell_of_fits h (List.getElem?_eq_some_iff.mp hc).1 hrow

/-- A desk that lists a column of a result gives the values of all its rows. -/
theorem fetchList_fst (hresult : (desk.ask sql role s).1 = .ok (some r)) (h : r.Sound)
    (hdistinct : r.columns.Nodup) {c : String} (hc : r.columns[i]? = some c) :
    (desk.fetchList sql (some (.name c)) role s).1 =
      .ok (r.rows.map fun row => row.getD i .null) := by
  have hread : r.rows.mapM (entryOf r (some (.name c))) =
      .ok (r.rows.map fun row => row.getD i .null) := by
    refine Except.mapM_eq_ok.mpr (List.forall₂_map_right_iff.mpr (List.forall₂_same.mpr ?_))
    exact fun row hrow => pick_eq_ok h hdistinct hc hrow
  unfold fetchList
  rw [fst_bind, hresult, Except.ok_bind]
  dsimp only
  rw [run_ofFault, hread, Error.ofFault_ok]

/-- A desk that maps a column of a result to another one makes the mapping of their pairs. -/
theorem fetchKeyed_fst (hresult : (desk.ask sql role s).1 = .ok (some r)) (h : r.Sound)
    (hdistinct : r.columns.Nodup) {k v : String} (hk : r.columns[i]? = some k)
    (hv : r.columns[j]? = some v) :
    (desk.fetchKeyed sql (.name k) (some (.name v)) role s).1 =
      Error.ofFault (Assoc.ofList <$> entriesOf (r.pairsAt i j)) := by
  have hread : r.rows.mapM (keyedEntryOf r (.name k) (some (.name v))) =
      entriesOf (r.pairsAt i j) := by
    refine mapM_entries fun row hrow => ?_
    unfold keyedEntryOf entryOf
    dsimp only
    rw [pick_eq_ok h hdistinct hk hrow, pick_eq_ok h hdistinct hv hrow]
    rfl
  unfold fetchKeyed
  rw [fst_bind, hresult, Except.ok_bind]
  dsimp only
  rw [run_map, run_ofFault, hread]
  exact (Error.ofFault_map _ _).symm

end Desk

namespace ResultSet

open Desk

variable {σ : Type} {r : ResultSet}

/-- All readings of a column agree: from wherever the cursor is, the column at once under its name
or at its place, its entries in the rows as mappings, and its values one after the other give the
same values, after which there are only nulls. From the start these are also the ones that a desk
lists when the statement has this result. Any two columns make a mapping there that is gathered from
their pairs, unless one cannot be a key; for two columns in order it is the one that the result
itself makes of them. -/
theorem column_readings_agree (h : r.Sound) (hdistinct : r.columns.Nodup) {c : String} {i : Nat}
    (hc : r.columns[i]? = some c) :
    let values := r.valuesAt i
    let single (n : Nat) : List (Except Fault Value) :=
      (values.take n).map .ok ++ List.replicate (n - values.length) (.ok .null)
    (r.fetchColumn (.name c)).1 = .ok values ∧ (r.fetchColumn (.index i)).1 = .ok values ∧
      r.fetchMappings.1.map (Row.column? · c) = values.map some ∧
      (∀ n, successive (.name c) n r = single n) ∧ (∀ n, successive (.index i) n r = single n) ∧
      ∀ (desk : Desk σ) sql role s, (desk.ask sql role s).1 = .ok (some r) →
        (r.position = 0 → (desk.fetchList sql (some (.name c)) role s).1 = .ok values) ∧
        ∀ k v j l, r.columns[j]? = some k → r.columns[l]? = some v →
          let pairs := r.pairsAt j l
          let mapping := (desk.fetchKeyed sql (.name k) (some (.name v)) role s).1
          ((∀ p ∈ pairs, p.1.isKey) → ∃ m, mapping = .ok m ∧ Assoc.Gathers pairs m) ∧
          ((¬ ∀ p ∈ pairs, p.1.isKey) → mapping = .error (.fault .unfitOperands)) ∧
          (r.position = 0 → r.columns = [k, v] → mapping = Error.ofFault r.fetchKeyed.1) := by
  intro values single
  have hi : i < r.columns.length := (List.getElem?_eq_some_iff.mp hc).1
  have hname := resolve_name hdistinct hc
  refine ⟨fetchColumn_fst h hi hname, fetchColumn_fst h hi rfl,
    column?_fetchMappings h hdistinct hc, successive_eq h hname, successive_eq h rfl,
    fun desk sql role s hresult => ⟨fun hstart => ?_, fun k v j l hk hv => ?_⟩⟩
  · have hall : r.remaining = r.rows := by rw [remaining, hstart, List.drop_zero]
    rw [Desk.fetchList_fst hresult h hdistinct hc, ← hall]
    rfl
  · intro pairs mapping
    have hmapping : mapping = Error.ofFault (Assoc.ofList <$> entriesOf pairs) :=
      Desk.fetchKeyed_fst hresult h hdistinct hk hv
    refine ⟨fun hkeys => ?_, fun hkeys => ?_, fun hstart hcolumns => ?_⟩
    · rw [hmapping, entriesOf_eq_ok hkeys]
      exact ⟨_, rfl, Assoc.gathers_ofList pairs⟩
    · rw [hmapping, entriesOf_eq_error hkeys]
      rfl
    · -- the two names stand at the first two places only
      have hplace {c : String} {i j : Nat} (hi : r.columns[i]? = some c)
          (hj : r.columns[j]? = some c) : i = j :=
        (List.getElem?_inj (List.getElem?_eq_some_iff.mp hi).1 hdistinct).mp (hi.trans hj.symm)
      obtain rfl : j = 0 := hplace hk (by rw [hcolumns]; rfl)
      obtain rfl : l = 1 := hplace hv (by rw [hcolumns]; rfl)
      rw [hmapping, ResultSet.fetchKeyed_fst h hstart hcolumns]

/-- A key that comes again, as a truth value, keeps its first place and spelling and takes the last
value, for a desk as for the result; with the cursor behind the first row a column has two values
left. -/
theorem repeated_key_readings_agree :
    let r : ResultSet :=
      { columns := ["k", "v"]
        rows := [[.int 1, .text "a"], [.int 2, .text "b"], [.bool true, .text "c"]] }
    let behind : ResultSet := { r with position := 1 }
    let s : DeskState Script :=
      ⟨{ scripted.newMemory with links := [(.user, some ⟨"c"⟩)] },
        { journal := { state := { answers := [.rows r] } } }⟩
    let sql := "SELECT k, v FROM t"
    (r.Sound ∧ behind.Sound ∧ r.columns.Nodup ∧ r.columns[1]? = some "v" ∧
      (scripted.ask sql .user s).1 = .ok (some r) ∧ ∀ p ∈ r.pairsAt 0 1, p.1.isKey) ∧
      successive (.name "v") 3 behind = [.ok (.text "b"), .ok (.text "c"), .ok .null] ∧
      (scripted.fetchList sql (some (.name "v")) .user s).1 = .ok (r.valuesAt 1) ∧
      (∃ m, (scripted.fetchKeyed sql (.name "k") (some (.name "v")) .user s).1 = .ok m ∧
        Assoc.Gathers (r.pairsAt 0 1) m) ∧
      (scripted.fetchKeyed sql (.name "k") (some (.name "v")) .user s).1 =
        Error.ofFault r.fetchKeyed.1 ∧
      r.fetchKeyed.1 = .ok [(.int 1, .text "c"), (.int 2, .text "b")] := by
  intro r behind s sql
  have hfits : ∀ row ∈ r.rows, row.length = r.columns.length := by decide +kernel
  have hsound : r.Sound := ⟨hfits, Nat.zero_le _⟩
  have hbehind : behind.Sound := ⟨hfits, by decide⟩
  have hdistinct : r.columns.Nodup := by decide
  have hcolumn : r.columns[1]? = some "v" := rfl
  have hresult : (scripted.ask sql .user s).1 = .ok (some r) := rfl
  have hkeys : ∀ p ∈ r.pairsAt 0 1, p.1.isKey := by decide +kernel
  obtain ⟨-, -, -, hsingle, -⟩ :=
    column_readings_agree (σ := Script) hbehind hdistinct hcolumn
  obtain ⟨-, -, -, -, -, hdesk⟩ := column_readings_agree (σ := Script) hsound hdistinct hcolumn
  obtain ⟨hlist, hmapping⟩ := hdesk scripted sql .user s hresult
  obtain ⟨hgathers, -, hkeyed⟩ := hmapping "k" "v" 0 1 rfl rfl
  exact ⟨⟨hsound, hbehind, hdistinct, hcolumn, hresult, hkeys⟩, hsingle 3, hlist rfl,
    hgathers hkeys, hkeyed rfl rfl, rfl⟩

end ResultSet

end SqlDesk
