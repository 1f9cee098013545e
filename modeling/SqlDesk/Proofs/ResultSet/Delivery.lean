import SqlDesk.Proofs.Except
import SqlDesk.ResultSet.Iteration

/-!
# What a cursor delivers

Each step at a result set is due some of the rows that have not been read: the next one, all of them,
or none. Its answer is made of these rows alone. If it returns, the cursor passes them; if it fails,
the cursor stays. So the rows delivered one after the other are the unread ones in order, each once,
until the cursor is put elsewhere.
-/

namespace SqlDesk

namespace ResultSet

variable (r : ResultSet)

/-- Every row has a value for each column and no others, and the cursor is on a row or behind the
last one. -/
structure Sound : Prop where
  fits : ∀ row ∈ r.rows, row.length = r.columns.length
  bounded : r.position ≤ r.rows.length

/-- The value that a row has in a column, null if there is no such column. -/
def valueAt (column : ColumnRef) (row : List Value) : Value :=
  match r.resolve column with
  | .ok i => if 0 ≤ i then row.getD i.toNat .null else .null
  | .error _ => .null

/-- A position at which the cursor can be put. -/
def IsPosition (offset : Int) : Prop := 0 ≤ offset ∧ offset ≤ r.rows.length

instance (offset : Int) : Decidable (r.IsPosition offset) := inferInstanceAs (Decidable (_ ∧ _))

/-- The unread rows that a reading is about. -/
def due : Reading → List (List Value)
  | .row | .mapping | .value _ => r.remaining.take 1
  | .mappings | .column _ | .keyed => r.remaining
  | .seek _ | .count | .names | .describe => []

/-- The answer to a reading that is about the given rows. -/
def told : Reading → List (List Value) → Except Fault Value
  | .row, rows => .ok (orNull .list rows.head?)
  | .mapping, rows => .ok (orNull .map (rows.head?.map r.asMapping))
  | .value column, rows => .ok (orNull (r.valueAt column) rows.head?)
  | .mappings, rows => .ok (.list (rows.map fun row => .map (r.asMapping row)))
  | .column column, rows => do
    let i ← r.resolve column
    return .list (← rows.mapM fun row => cell row i)
  | .keyed, rows => do return .map (Assoc.ofList (← rows.mapM keyedEntry))
  | .seek offset, _ => .ok (.bool (r.IsPosition offset))
  | .count, _ => .ok (.int r.rows.length)
  | .names, _ => .ok (.list (r.columns.map .text))
  | .describe, _ => .ok (.text r.describe)

/-- The rows that a reading gets: those that it is about, unless it fails. -/
def taken (x : Reading) : List (List Value) :=
  match (r.read x).1 with
  | .ok _ => r.due x
  | .error _ => []

/-! ## Passing rows -/

/-- Between two states of a result set the cursor passes some rows, one after the other. -/
structure Passes (passed : List (List Value)) (s : ResultSet) : Prop where
  columns : s.columns = r.columns
  rows : s.rows = r.rows
  bounded : s.position ≤ s.rows.length
  remaining : r.remaining = passed ++ s.remaining

variable {r} {s t : ResultSet} {passed passed' : List (List Value)}

theorem Passes.refl (h : r.position ≤ r.rows.length) : r.Passes [] r := ⟨rfl, rfl, h, rfl⟩

theorem Passes.trans (h : r.Passes passed s) (h' : s.Passes passed' t) :
    r.Passes (passed ++ passed') t where
  columns := h'.columns.trans h.columns
  rows := h'.rows.trans h.rows
  bounded := h'.bounded
  remaining := by rw [h.remaining, h'.remaining, List.append_assoc]

/-- The cursor moves by the number of rows that it passes. -/
theorem Passes.position (h : r.Passes passed s) (hr : r.position ≤ r.rows.length) :
    s.position = r.position + passed.length := by
  have hlength := congrArg List.length h.remaining
  have hbounded := h.bounded
  unfold ResultSet.remaining at hlength
  rw [List.length_append, List.length_drop, List.length_drop, h.rows] at hlength
  rw [h.rows] at hbounded
  omega

theorem Passes.sound (h : r.Passes passed s) (hr : r.Sound) : s.Sound where
  fits := by
    rw [h.rows, h.columns]
    exact hr.fits
  bounded := h.bounded

theorem passes_fetchRow (h : r.position ≤ r.rows.length) :
    r.Passes (r.remaining.take 1) r.fetchRow.2 ∧ r.fetchRow.1 = r.remaining.head? := by
  have hhead : r.remaining.head? = r.rows[r.position]? := List.head?_drop
  unfold fetchRow
  rcases hrow : r.rows[r.position]? with _ | row
  · have hnone : r.remaining = [] := by
      rw [← List.head?_eq_none_iff, hhead, hrow]
    rw [hnone]
    exact ⟨.refl h, rfl⟩
  · obtain ⟨hlt, rfl⟩ := List.getElem?_eq_some_iff.mp hrow
    have hcons : r.remaining = r.rows[r.position] :: r.rows.drop (r.position + 1) :=
      List.drop_eq_getElem_cons hlt
    rw [hcons]
    exact ⟨⟨rfl, rfl, hlt, hcons⟩, rfl⟩

theorem passes_exhausted (r : ResultSet) : r.Passes r.remaining r.exhausted where
  columns := rfl
  rows := rfl
  bounded := Nat.le_refl _
  remaining := by simp [exhausted, remaining]

/-! ## Readings -/

theorem seek_of_isPosition {offset : Int} (h : r.IsPosition offset) :
    r.seek offset = (true, { r with position := offset.toNat }) := if_pos h

theorem seek_of_not_isPosition {offset : Int} (h : ¬ r.IsPosition offset) :
    r.seek offset = (false, r) := if_neg h

theorem fetchValue_state (column : ColumnRef) : (r.fetchValue column).2 = r.fetchRow.2 := by
  unfold fetchValue
  rcases r.fetchRow with ⟨_ | row, s⟩ <;> rfl

/-- A row has a value at each of its places. -/
theorem cell_of_lt {row : List Value} {i : Nat} (h : i < row.length) :
    cell row i = .ok (row.getD i .null) := by
  have hcast : ((i : Int)).toNat = i := Int.toNat_natCast i
  simp [cell, hcast, List.getElem?_eq_getElem h]

/-- A row that fits has a value at every place of a column. -/
theorem cell_of_findIdx? {row : List Value} (hrow : row.length = r.columns.length) {c : String}
    {i : Nat} (hi : r.columns.findIdx? (· == c) = some i) :
    cell row i = .ok (row.getD i .null) := by
  refine cell_of_lt ?_
  rw [hrow]
  exact (List.findIdx?_eq_some_iff_findIdx_eq.mp hi).1

theorem fetchValue_answer (h : r.Sound) (column : ColumnRef) :
    (r.fetchValue column).1 = .ok (orNull (r.valueAt column) r.remaining.head?) := by
  have hhead := (passes_fetchRow h.bounded).2
  rw [← hhead]
  unfold fetchValue
  rcases hfetched : r.fetchRow with ⟨_ | row, s⟩
  · rfl
  · have hmem : row ∈ r.rows := by
      rw [hfetched] at hhead
      exact List.mem_of_mem_drop (List.mem_of_head? hhead.symm)
    have hrow := h.fits row hmem
    cases column with
    | index i => rfl
    | name c =>
      rcases hi : r.columns.findIdx? (· == c) with _ | i
      · simp [orNull, valueAt, resolve, columnIndex, hi]
      · simp [orNull, valueAt, resolve, columnIndex, hi, cell_of_findIdx? hrow hi]

/-- The answer to a reading is made of the unread rows that it is about. -/
theorem read_answer (h : r.Sound) (x : Reading) : (r.read x).1 = r.told x (r.due x) := by
  have hhead : (r.remaining.take 1).head? = r.remaining.head? := by
    cases r.remaining <;> rfl
  have hrow := (passes_fetchRow h.bounded).2
  cases x with
  | row =>
    show Except.ok (orNull .list r.fetchRow.1) = _
    rw [hrow, told, due, hhead]
  | mapping =>
    show Except.ok (orNull .map (r.fetchRow.1.map r.asMapping)) = _
    rw [hrow, told, due, hhead]
  | value column =>
    show (r.fetchValue column).1 = _
    rw [fetchValue_answer h, told, due, hhead]
  | mappings =>
    show Except.ok (Value.list ((r.remaining.map r.asMapping).map .map)) = _
    rw [List.map_map]
    rfl
  | column column =>
    show Value.list <$> (r.fetchColumn column).1 = _
    unfold fetchColumn
    rw [told, due]
    rcases r.resolve column with e | i
    · rfl
    · simp only [Except.ok_bind]
      rcases r.remaining.mapM fun row => cell row i with e | vs <;> rfl
  | keyed =>
    show Value.map <$> r.fetchKeyed.1 = _
    unfold fetchKeyed
    rw [told, due]
    rcases r.remaining.mapM keyedEntry with e | es <;> rfl
  | seek offset =>
    show Except.ok (Value.bool (r.seek offset).1) = _
    by_cases hoffset : r.IsPosition offset
    · rw [seek_of_isPosition hoffset, told, decide_eq_true hoffset]
    · rw [seek_of_not_isPosition hoffset, told, decide_eq_false hoffset]
  | count | names | describe => rfl

/-- A reading of many rows passes all that are unread if it returns. -/
theorem passes_bulk {α : Type} (answer : Except Fault α) (f : α → Value) {s : ResultSet}
    (h : r.position ≤ r.rows.length)
    (hs : s = match answer with | .ok _ => r.exhausted | .error _ => r) :
    r.Passes (match f <$> answer with | .ok _ => r.remaining | .error _ => []) s := by
  subst hs
  rcases answer with e | a
  · exact .refl h
  · exact r.passes_exhausted

/-- A reading that does not put the cursor elsewhere passes the rows that it gets. -/
theorem read_passes (h : r.Sound) {x : Reading}
    (hx : ∀ offset, x = .seek offset → ¬ r.IsPosition offset) :
    r.Passes (r.taken x) (r.read x).2 := by
  have hrow := (passes_fetchRow h.bounded).1
  cases x with
  | row => exact hrow
  | mapping => exact hrow
  | value column =>
    have htaken : r.taken (.value column) = r.remaining.take 1 := by
      unfold taken
      rw [read_answer h, told]
      rfl
    rw [htaken]
    show r.Passes _ (r.fetchValue column).2
    rwa [fetchValue_state]
  | mappings => exact r.passes_exhausted
  | column column =>
    refine passes_bulk (r.fetchColumn column).1 .list h.bounded ?_
    show (r.fetchColumn column).2 = _
    unfold fetchColumn
    rcases r.resolve column >>= fun i => r.remaining.mapM fun row => cell row i with e | vs <;> rfl
  | keyed =>
    refine passes_bulk r.fetchKeyed.1 .map h.bounded ?_
    show r.fetchKeyed.2 = _
    unfold fetchKeyed
    rcases r.remaining.mapM keyedEntry with e | es <;> rfl
  | seek offset =>
    show r.Passes [] (r.seek offset).2
    rw [seek_of_not_isPosition (hx offset rfl)]
    exact .refl h.bounded
  | count | names | describe => exact .refl h.bounded

/-- What is told of rows does not depend on where the cursor is. -/
theorem told_congr (hcolumns : s.columns = r.columns) (hrows : s.rows = r.rows) (x : Reading) :
    s.told x = r.told x := by
  obtain ⟨columns, rows, _, _, _⟩ := s
  obtain rfl : columns = r.columns := hcolumns
  obtain rfl : rows = r.rows := hrows
  cases x <;> rfl

end ResultSet

/-! ## Walks -/

namespace Walk

open ResultSet

/-- A step that puts the cursor on a position. -/
def Step.Seeks (r : ResultSet) (x : Step) : Prop :=
  ∃ offset, x = .read (.seek offset) ∧ r.IsPosition offset

/-- A step that is about all unread rows. -/
inductive Step.IsBulk : Step → Prop where
  | mappings : IsBulk (.read .mappings)
  | column (column : ColumnRef) : IsBulk (.read (.column column))
  | keyed : IsBulk (.read .keyed)

variable (w : Walk)

/-- The unread rows that a step is about. -/
def due : Step → List (List Value)
  | .read x => w.result.due x
  | .next iterator => if iterator ∈ w.ended then [] else w.result.remaining.take 1

/-- The answer to a step that is about the given rows. -/
def told : Step → List (List Value) → Except Fault Value
  | .read x, rows => w.result.told x rows
  | .next _, rows => .ok (orNull .map (rows.head?.map w.result.asMapping))

/-- The rows that a step gets: those that it is about, unless it fails. -/
def taken (x : Step) : List (List Value) :=
  match (w.step x).1 with
  | .ok _ => w.due x
  | .error _ => []

/-- The rows that steps get, one step after the other. -/
def delivered : Walk → List Step → List (List (List Value))
  | _, [] => []
  | w, x :: xs => w.taken x :: delivered (w.step x).2 xs

variable {w}

theorem next_eq (h : w.result.Sound) (iterator : Nat) :
    (w.next iterator).1 = ((w.due (.next iterator)).head?.map w.result.asMapping) ∧
      w.result.Passes (w.due (.next iterator)) (w.next iterator).2.result := by
  obtain ⟨hpasses, hrow⟩ := passes_fetchRow h.bounded
  have hhead : (w.result.remaining.take 1).head? = w.result.remaining.head? := by
    cases w.result.remaining <;> rfl
  rw [due]
  unfold next
  by_cases hended : iterator ∈ w.ended
  · rw [if_pos hended, if_pos hended]
    exact ⟨rfl, .refl h.bounded⟩
  · rw [if_neg hended, if_neg hended, hhead, ← hrow]
    unfold fetchMapping
    rcases hfetched : w.result.fetchRow with ⟨_ | row, s⟩ <;> rw [hfetched] at hpasses <;>
      exact ⟨rfl, hpasses⟩

theorem step_answer (h : w.result.Sound) (x : Step) : (w.step x).1 = w.told x (w.due x) := by
  cases x with
  | read x => exact read_answer h x
  | next iterator =>
    show Except.ok (orNull .map (w.next iterator).1) = _
    rw [(next_eq h iterator).1]
    rfl

/-- A step that does not put the cursor elsewhere passes the rows that it gets. -/
theorem step_passes (h : w.result.Sound) {x : Step} (hx : ¬ x.Seeks w.result) :
    w.result.Passes (w.taken x) (w.step x).2.result := by
  cases x with
  | read x => exact read_passes h fun offset heq hoffset => hx ⟨offset, congrArg _ heq, hoffset⟩
  | next iterator => exact (next_eq h iterator).2

theorem step_of_isPosition {offset : Int} (h : w.result.IsPosition offset) :
    w.step (.read (.seek offset)) =
      (.ok (.bool true), { w with result := { w.result with position := offset.toNat } }) := by
  show (Except.ok (Value.bool (w.result.seek offset).1),
    ({ w with result := (w.result.seek offset).2 } : Walk)) = _
  rw [seek_of_isPosition h]

theorem step_of_not_isPosition {offset : Int} (h : ¬ w.result.IsPosition offset) :
    w.step (.read (.seek offset)) = (.ok (.bool false), w) := by
  show (Except.ok (Value.bool (w.result.seek offset).1),
    ({ w with result := (w.result.seek offset).2 } : Walk)) = _
  rw [seek_of_not_isPosition h]

/-- No step changes columns and rows or takes the cursor out of bounds. -/
theorem step_keeps (h : w.result.Sound) (x : Step) :
    (w.step x).2.result.columns = w.result.columns ∧ (w.step x).2.result.rows = w.result.rows ∧
      (w.step x).2.result.Sound := by
  by_cases hx : x.Seeks w.result
  · obtain ⟨offset, rfl, hoffset⟩ := hx
    rw [step_of_isPosition hoffset]
    refine ⟨rfl, rfl, h.fits, ?_⟩
    have hle := hoffset.2
    show offset.toNat ≤ w.result.rows.length
    omega
  · have hpasses := step_passes h hx
    exact ⟨hpasses.columns, hpasses.rows, hpasses.sound h⟩

theorem run_keeps (h : w.result.Sound) (xs : List Step) :
    (w.run xs).result.columns = w.result.columns ∧ (w.run xs).result.rows = w.result.rows ∧
      (w.run xs).result.Sound := by
  induction xs generalizing w with
  | nil => exact ⟨rfl, rfl, h⟩
  | cons x xs ih =>
    obtain ⟨hcolumns, hrows, hsound⟩ := step_keeps h x
    obtain ⟨hcolumns', hrows', hsound'⟩ := ih hsound
    exact ⟨hcolumns'.trans hcolumns, hrows'.trans hrows, hsound'⟩

theorem Step.seeks_congr {r s : ResultSet} (h : s.rows = r.rows) (x : Step) :
    x.Seeks s ↔ x.Seeks r := by
  unfold Seeks IsPosition
  rw [h]

/-- Steps that do not put the cursor elsewhere pass the rows that they get, in order. -/
theorem run_passes (h : w.result.Sound) {xs : List Step} (hxs : ∀ x ∈ xs, ¬ x.Seeks w.result) :
    w.result.Passes (w.delivered xs).flatten (w.run xs).result := by
  induction xs generalizing w with
  | nil => exact .refl h.bounded
  | cons x xs ih =>
    have hpasses := step_passes h (hxs x List.mem_cons_self)
    refine hpasses.trans (ih (hpasses.sound h) fun y hy => ?_)
    rw [Step.seeks_congr hpasses.rows]
    exact hxs y (List.mem_cons_of_mem _ hy)

/-- Nothing of a bulk step that returns is left. -/
theorem remaining_of_isBulk (h : w.result.Sound) {x : Step} (hx : x.IsBulk) {v : Value}
    (hv : (w.step x).1 = .ok v) : (w.step x).2.result.remaining = [] := by
  have hseeks : ¬ x.Seeks w.result := by
    rintro ⟨offset, rfl, -⟩
    cases hx
  have hdue : w.due x = w.result.remaining := by cases hx <;> rfl
  have hsplit := (step_passes h hseeks).remaining
  unfold taken at hsplit
  rw [hv] at hsplit
  dsimp only at hsplit
  rw [hdue] at hsplit
  exact List.self_eq_append_right.mp hsplit

/-- In every run of steps columns and rows stay as they are and the cursor stays in bounds. The answer
to a step is made of the rows that are due to it. A step that fails and a refused position leave the
cursor, an accepted one moves it there, and a bulk step that returns leaves nothing unread. What steps
get one after the other, without a change of position among them, is what was unread before them, up
to what is unread after them. -/
theorem run_delivers_in_order (start : Walk) (h : start.result.Sound) (xs : List Step) :
    let w := start.run xs
    w.result.columns = start.result.columns ∧ w.result.rows = start.result.rows ∧
      w.result.position ≤ w.result.rows.length ∧
      (∀ x, (w.step x).1 = start.told x (w.due x) ∧
        (∀ e, (w.step x).1 = .error e → (w.step x).2.result.position = w.result.position) ∧
        (x.IsBulk → ∀ v, (w.step x).1 = .ok v → (w.step x).2.result.remaining = [])) ∧
      (∀ offset, start.result.IsPosition offset → w.step (.read (.seek offset)) =
        (.ok (.bool true), { w with result := { w.result with position := offset.toNat } })) ∧
      (∀ offset, ¬ start.result.IsPosition offset →
        w.step (.read (.seek offset)) = (.ok (.bool false), w)) ∧
      ∀ ys, (∀ y ∈ ys, ¬ y.Seeks start.result) →
        w.result.remaining = (w.delivered ys).flatten ++ (w.run ys).result.remaining := by
  intro w
  obtain ⟨hcolumns, hrows, hsound⟩ := run_keeps h xs
  have hposition (offset : Int) : w.result.IsPosition offset ↔ start.result.IsPosition offset := by
    unfold IsPosition
    rw [hrows]
  refine ⟨hcolumns, hrows, hsound.bounded, fun x => ⟨?_, fun e he => ?_, fun hx v hv => ?_⟩,
    fun offset h => step_of_isPosition ((hposition offset).mpr h),
    fun offset h => step_of_not_isPosition (mt (hposition offset).mp h), fun ys hys => ?_⟩
  · rw [step_answer hsound]
    cases x with
    | read x => exact congrFun (told_congr hcolumns hrows x) _
    | next iterator =>
      unfold told asMapping
      rw [hcolumns]
  · have hseeks : ¬ x.Seeks w.result := by
      rintro ⟨offset, rfl, hoffset⟩
      rw [step_of_isPosition hoffset] at he
      cases he
    -- a step that fails has taken nothing, so the cursor is where it was
    have hnone : w.taken x = [] := by
      unfold taken
      rw [he]
    rw [(step_passes hsound hseeks).position hsound.bounded, hnone]
    rfl
  · exact remaining_of_isBulk hsound hx hv
  · refine (run_passes hsound fun y hy => ?_).remaining
    rw [Step.seeks_congr hrows]
    exact hys y hy

/-- An iterator that has ended gives no row even after the cursor was put back, while a new one and
readings of several kinds share the rows. Two columns that there are not and a refused position take
none. -/
theorem mixed_readings_in_order :
    let start : Walk :=
      { result :=
        { columns := ["id", "name"]
          rows := [[.int 1, .text "a"], [.int 2, .text "b"], [.int 3, .text "c"], [.int 4, .null]] } }
    let before : List Step := [.read .mappings, .next 0, .read (.seek 0)]
    let steps : List Step :=
      [.read .row, .next 0, .read (.column (.name "size")), .next 1, .read (.seek 7),
        .read (.column (.index 2)), .read .keyed, .read (.value (.name "id"))]
    let w := start.run before
    start.result.Sound ∧ (∀ y ∈ steps, ¬ y.Seeks start.result) ∧
      w.result.remaining = (w.delivered steps).flatten ++ (w.run steps).result.remaining ∧
      (w.delivered steps).map List.length = [1, 0, 0, 1, 0, 0, 2, 0] := by
  intro start before steps w
  have hsound : start.result.Sound := ⟨by decide +kernel, by decide⟩
  have hsteps : ∀ y ∈ steps, ¬ y.Seeks start.result := by
    rintro y hy ⟨offset, rfl, hoffset⟩
    obtain rfl : offset = 7 := by simpa [steps] using hy
    exact absurd hoffset (by decide)
  obtain ⟨-, -, -, -, -, -, hrun⟩ := run_delivers_in_order start hsound before
  have hlengths : (w.delivered steps).map List.length = [1, 0, 0, 1, 0, 0, 2, 0] := by decide +kernel
  exact ⟨hsound, hsteps, hrun steps hsteps, hlengths⟩

end Walk

end SqlDesk
