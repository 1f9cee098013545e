import SqlDesk.Order.Sorting
import SqlDesk.Proofs.Except

/-!
# Sorted and cut listings

Sorting and cutting look at the items of a list only through the comparison: items that compare in
the same way are sorted in the same way, with the same failures. What a sort returns has the items
that it was given, and a page has some of them.
-/

namespace SqlDesk.Order

variable {ε α β : Type}

/-! ## Items that compare in the same way -/

section Map

variable {f : α → β} {below : α → α → Except ε Bool} {below' : β → β → Except ε Bool}
  (h : ∀ a b, below' (f a) (f b) = below a b)

include h

theorem runLength_map (want : Bool) (prev : α) (xs : List α) :
    runLength below' want (f prev) (xs.map f) = runLength below want prev xs := by
  induction xs generalizing prev with
  | nil => rfl
  | cons x xs ih => rw [List.map_cons, runLength, runLength, h, ih]

theorem firstRun_map (xs : List α) :
    firstRun below' (xs.map f) =
      (fun p => (p.1.map f, p.2.map f)) <$> firstRun below xs := by
  match xs with
  | [] => rfl
  | [x] => rfl
  | x :: y :: xs =>
    simp only [List.map_cons, firstRun, h, runLength_map h]
    rcases below y x with e | down
    · rfl
    · simp only [Except.ok_bind]
      rcases runLength below down y xs with e | n
      · rfl
      · cases down <;> simp [pure, Except.pure]

theorem position_map (x : α) (xs : List α) (lo hi : Nat) :
    position below' (f x) (xs.map f).toArray lo hi = position below x xs.toArray lo hi := by
  fun_induction position below x xs.toArray lo hi with
  | case1 lo hi hlt mid hget =>
    rw [position, if_pos hlt]
    simp_all [mid]
  | case2 lo hi hlt mid y hget e hy =>
    rw [position, if_pos hlt]
    simp_all [mid]
  | case3 lo hi hlt mid y hget hy ih =>
    rw [position, if_pos hlt]
    simp_all [mid]
  | case4 lo hi hlt mid y hget hy ih =>
    rw [position, if_pos hlt]
    simp_all [mid]
  | case5 lo hi hlt => rw [position, if_neg hlt]

theorem insertInto_map (xs : List α) (x : α) :
    insertInto below' (xs.map f) (f x) = List.map f <$> insertInto below xs x := by
  simp only [insertInto, position_map h, List.length_map]
  rcases position below x xs.toArray 0 xs.length with e | i
  · rfl
  · simp [pure, Except.pure]

theorem foldlM_insertInto_map (xs rest : List α) :
    (rest.map f).foldlM (insertInto below') (xs.map f) =
      List.map f <$> rest.foldlM (insertInto below) xs := by
  induction rest generalizing xs with
  | nil => rfl
  | cons x rest ih =>
    rw [List.map_cons, List.foldlM_cons, List.foldlM_cons, insertInto_map h]
    rcases insertInto below xs x with e | ys
    · rfl
    · exact ih ys

theorem sortBy_map (xs : List α) :
    sortBy below' (xs.map f) = List.map f <$> sortBy below xs := by
  simp only [sortBy, firstRun_map h]
  rcases firstRun below xs with e | ⟨run, rest⟩
  · rfl
  · exact foldlM_insertInto_map h run rest

end Map

theorem sortWith_map {f : α → β} {cmp : α → α → Except ε Int} {cmp' : β → β → Except ε Int}
    (h : ∀ a b, cmp' (f a) (f b) = cmp a b) (xs : List α) :
    sortWith cmp' (xs.map f) = List.map f <$> sortWith cmp xs :=
  sortBy_map (fun a b => by rw [h]) xs

theorem page_map (f : α → β) (xs : List α) (offset limit : Int) :
    page (xs.map f) offset limit = (page xs offset limit).map f := by
  unfold page slice sliceFrom
  split <;> simp

/-! ## The items of a listing -/

section Items

variable {below : α → α → Except ε Bool}

theorem perm_of_firstRun {xs run rest : List α} (h : firstRun below xs = .ok (run, rest)) :
    (run ++ rest).Perm xs := by
  match xs with
  | [] | [x] =>
    obtain ⟨rfl, rfl⟩ := Prod.mk.inj (Except.ok.inj h)
    simp
  | x :: y :: xs =>
    obtain ⟨down, -, h⟩ := Except.bind_eq_ok.mp h
    obtain ⟨n, -, h⟩ := Except.bind_eq_ok.mp h
    obtain ⟨rfl, rfl⟩ := Prod.mk.inj (Except.ok.inj h)
    have hcut : (x :: y :: xs.take n) ++ xs.drop n = x :: y :: xs := by simp
    cases down
    · rw [if_neg Bool.false_ne_true, hcut]
    · rw [if_pos rfl]
      exact ((List.reverse_perm _).append_right _).trans (.of_eq hcut)

theorem perm_of_insertInto {xs ys : List α} {x : α} (h : insertInto below xs x = .ok ys) :
    ys.Perm (x :: xs) := by
  obtain ⟨i, -, h⟩ := Except.bind_eq_ok.mp h
  obtain rfl := Except.ok.inj h
  refine List.perm_middle.trans (.cons x (.of_eq ?_))
  exact List.take_append_drop i xs

theorem perm_of_foldlM_insertInto {xs rest ys : List α}
    (h : rest.foldlM (insertInto below) xs = .ok ys) : ys.Perm (xs ++ rest) := by
  induction rest generalizing xs with
  | nil =>
    obtain rfl := Except.ok.inj h
    simp
  | cons x rest ih =>
    rw [List.foldlM_cons] at h
    obtain ⟨zs, hzs, h⟩ := Except.bind_eq_ok.mp h
    exact (ih h).trans (((perm_of_insertInto hzs).append_right rest).trans
      List.perm_middle.symm)

theorem perm_of_sortBy {xs ys : List α} (h : sortBy below xs = .ok ys) : ys.Perm xs := by
  obtain ⟨⟨run, rest⟩, hrun, h⟩ := Except.bind_eq_ok.mp h
  exact (perm_of_foldlM_insertInto h).trans (perm_of_firstRun hrun)

end Items

/-- A sort returns the items that it was given. -/
theorem perm_of_sortWith {cmp : α → α → Except ε Int} {xs ys : List α}
    (h : sortWith cmp xs = .ok ys) : ys.Perm xs := perm_of_sortBy h

/-! ## Pages of a listing -/

/-- Nothing is cut off without an offset and a limit. -/
@[simp] theorem page_zero (xs : List α) : page xs 0 0 = xs := by
  simp [page, sliceFrom, bound]

theorem page_ofNat (xs : List α) (start : Nat) {n : Nat} (hn : 0 < n) :
    page xs start n = (xs.drop start).take n := by
  have hlimit : (0 : Int) < n := by omega
  have hbound (i : Nat) : bound xs.length i = min i xs.length := by simp [bound]
  have hstop : ((start : Int) + n) = ((start + n : Nat) : Int) := by omega
  unfold page slice
  rw [if_pos hlimit, hstop, hbound, hbound]
  refine List.ext_getElem? fun i => ?_
  rw [List.getElem?_drop, List.getElem?_take, List.getElem?_take, List.getElem?_drop]
  by_cases hi : start + i < xs.length
  · by_cases hin : i < n
    · rw [if_pos (by omega), if_pos hin, Nat.min_eq_left (by omega)]
    · rw [if_neg (by omega), if_neg hin]
  · have hend : xs[start + i]? = none := List.getElem?_eq_none (by omega)
    rw [hend, List.getElem?_eq_none (by omega)]
    simp

/-- The first pages of a length put together are the first entries of the listing. -/
theorem flatten_page (xs : List α) {n : Nat} (hn : 0 < n) (k : Nat) :
    ((List.range k).map fun i => page xs ((i * n : Nat) : Int) n).flatten = xs.take (k * n) := by
  induction k with
  | zero => simp
  | succ k ih =>
    rw [List.range_succ, List.map_append, List.flatten_append, ih, List.map_singleton,
      List.flatten_singleton, page_ofNat xs _ hn, Nat.succ_mul, List.take_add]

theorem page_sublist (xs : List α) (offset limit : Int) : (page xs offset limit).Sublist xs := by
  unfold page slice sliceFrom
  split
  · exact (List.drop_sublist _ _).trans (List.take_sublist _ _)
  · exact List.drop_sublist _ _

end SqlDesk.Order
