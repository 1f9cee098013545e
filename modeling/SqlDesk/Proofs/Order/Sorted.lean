import Mathlib.Data.List.Forall2
import SqlDesk.Proofs.Order.Preorder
import SqlDesk.Proofs.Order.Sorting

/-!
# Sorted lists

A sort fails only with one of its comparisons, and to return it has to compare every item. For a total
preorder it returns a sorted list. Then the order in which the items came does not matter: two sorted
lists of the same items agree place by place, up to items that compare as equal.
-/

namespace SqlDesk.Order

variable {ε α : Type}

/-! ## A sort fails with its comparisons -/

section Fails

variable {P : α → Prop} {Q : ε → Prop} {below : α → α → Except ε Bool}
  (hbelow : ∀ a b, P a → P b → ∀ e, below a b = .error e → Q e)

include hbelow

theorem error_of_runLength {want : Bool} {prev : α} {xs : List α} (hprev : P prev)
    (hxs : ∀ x ∈ xs, P x) {e : ε} (he : runLength below want prev xs = .error e) : Q e := by
  induction xs generalizing prev with
  | nil => cases he
  | cons x xs ih =>
    have hx : P x := hxs x List.mem_cons_self
    rw [runLength, Except.bind_eq_error] at he
    rcases he with he | ⟨t, -, he⟩
    · exact hbelow x prev hx hprev e he
    · split at he
      · rcases Except.bind_eq_error.mp he with he | ⟨n, -, he⟩
        · exact ih hx (fun y hy => hxs y (List.mem_cons_of_mem _ hy)) he
        · cases he
      · cases he

theorem error_of_firstRun {xs : List α} (hxs : ∀ x ∈ xs, P x) {e : ε}
    (he : firstRun below xs = .error e) : Q e := by
  match xs with
  | [] | [_] => cases he
  | x :: y :: xs =>
    have hy : P y := hxs y (by simp)
    rw [firstRun, Except.bind_eq_error] at he
    rcases he with he | ⟨down, -, he⟩
    · exact hbelow y x hy (hxs x (by simp)) e he
    · rcases Except.bind_eq_error.mp he with he | ⟨n, -, he⟩
      · exact error_of_runLength hbelow hy (fun z hz => hxs z (by simp [hz])) he
      · cases he

theorem error_of_position {xs : List α} {x : α} (hx : P x) (hxs : ∀ y ∈ xs, P y) {lo hi : Nat}
    {e : ε} (he : position below x xs.toArray lo hi = .error e) : Q e := by
  fun_induction position below x xs.toArray lo hi with
  | case1 => cases he
  | case2 lo hi hlt mid y hget e' hy =>
    obtain rfl := Except.error.inj he
    rw [List.getElem?_toArray] at hget
    exact hbelow x y hx (hxs y (List.mem_of_getElem? hget)) _ hy
  | case3 lo hi hlt mid y hget hy ih => exact ih he
  | case4 lo hi hlt mid y hget hy ih => exact ih he
  | case5 => cases he

theorem error_of_insertInto {xs : List α} {x : α} (hx : P x) (hxs : ∀ y ∈ xs, P y) {e : ε}
    (he : insertInto below xs x = .error e) : Q e := by
  rcases Except.bind_eq_error.mp he with he | ⟨i, -, he⟩
  · exact error_of_position hbelow hx hxs he
  · cases he

theorem error_of_foldlM_insertInto {xs rest : List α} (hxs : ∀ x ∈ xs, P x)
    (hrest : ∀ x ∈ rest, P x) {e : ε} (he : rest.foldlM (insertInto below) xs = .error e) :
    Q e := by
  induction rest generalizing xs with
  | nil => cases he
  | cons x rest ih =>
    have hx : P x := hrest x List.mem_cons_self
    rw [List.foldlM_cons, Except.bind_eq_error] at he
    rcases he with he | ⟨ys, hys, he⟩
    · exact error_of_insertInto hbelow hx hxs he
    · refine ih (fun y hy => ?_) (fun y hy => hrest y (List.mem_cons_of_mem _ hy)) he
      rcases List.mem_cons.mp ((perm_of_insertInto hys).subset hy) with rfl | hy
      · exact hx
      · exact hxs y hy

theorem error_of_sortBy {xs : List α} (hxs : ∀ x ∈ xs, P x) {e : ε}
    (he : sortBy below xs = .error e) : Q e := by
  rcases Except.bind_eq_error.mp he with he | ⟨⟨run, rest⟩, hrun, he⟩
  · exact error_of_firstRun hbelow hxs he
  · have hmem : ∀ x ∈ run ++ rest, P x := fun x hx => hxs x ((perm_of_firstRun hrun).subset hx)
    exact error_of_foldlM_insertInto hbelow (fun x hx => hmem x (List.mem_append_left _ hx))
      (fun x hx => hmem x (List.mem_append_right _ hx)) he

end Fails

/-- A sort that fails does so with a comparison of two of its items. -/
theorem error_of_sortWith {cmp : α → α → Except ε Int} {xs : List α} {e : ε}
    (he : sortWith cmp xs = .error e) : ∃ a ∈ xs, ∃ b ∈ xs, cmp a b = .error e := by
  refine error_of_sortBy (P := (· ∈ xs)) (Q := fun e => ∃ a ∈ xs, ∃ b ∈ xs, cmp a b = .error e)
    (fun a b ha hb e he => ?_) (fun x hx => hx) he
  exact ⟨a, ha, b, hb, Except.map_eq_error.mp he⟩

/-- A sort of items that can all be compared returns. -/
theorem exists_sortWith {cmp : α → α → Except ε Int} {xs : List α}
    (h : ∀ a ∈ xs, ∀ b ∈ xs, ∃ n, cmp a b = .ok n) : ∃ ys, sortWith cmp xs = .ok ys := by
  rcases hrun : sortWith cmp xs with e | ys
  · obtain ⟨a, ha, b, hb, he⟩ := error_of_sortWith hrun
    obtain ⟨n, hn⟩ := h a ha b hb
    cases he.symm.trans hn
  · exact ⟨ys, rfl⟩

/-! ## A sort that returns has compared every item -/

section Compared

variable {Q : α → Prop} {below : α → α → Except ε Bool}
  (hbelow : ∀ a b t, below a b = .ok t → Q a ∧ Q b)

include hbelow

theorem compared_of_runLength {want : Bool} {prev : α} {xs : List α} {n : Nat}
    (h : runLength below want prev xs = .ok n) : ∀ x ∈ xs.take n, Q x := by
  induction xs generalizing prev n with
  | nil => simp
  | cons x xs ih =>
    obtain ⟨t, ht, h⟩ := Except.bind_eq_ok.mp h
    split at h
    · obtain ⟨m, hm, h⟩ := Except.bind_eq_ok.mp h
      obtain rfl := Except.ok.inj h
      rw [List.take_succ_cons]
      exact List.forall_mem_cons.mpr ⟨(hbelow x prev t ht).1, ih hm⟩
    · obtain rfl := Except.ok.inj h
      simp

theorem compared_of_firstRun {xs run rest : List α} (hlong : 2 ≤ xs.length)
    (h : firstRun below xs = .ok (run, rest)) : run ≠ [] ∧ ∀ x ∈ run, Q x := by
  match xs with
  | [] | [_] => simp at hlong
  | x :: y :: xs =>
    obtain ⟨down, hdown, h⟩ := Except.bind_eq_ok.mp h
    obtain ⟨n, hn, h⟩ := Except.bind_eq_ok.mp h
    obtain ⟨rfl, -⟩ := Prod.mk.inj (Except.ok.inj h)
    obtain ⟨hy, hx⟩ := hbelow y x down hdown
    have hstart : ∀ z ∈ x :: y :: xs.take n, Q z := List.forall_mem_cons.mpr
      ⟨hx, List.forall_mem_cons.mpr ⟨hy, compared_of_runLength hbelow hn⟩⟩
    cases down
    · exact ⟨by simp, hstart⟩
    · rw [if_pos rfl]
      exact ⟨by simp, fun z hz => hstart z (List.mem_reverse.mp hz)⟩

theorem compared_of_position {xs : List α} {x : α} {lo hi i : Nat} (hlt : lo < hi)
    (hhi : hi ≤ xs.length) (h : position below x xs.toArray lo hi = .ok i) : Q x := by
  have hmid : lo + (hi - lo) / 2 < xs.length := by omega
  rw [position, if_pos hlt] at h
  dsimp only at h
  rw [List.getElem?_toArray, List.getElem?_eq_getElem hmid] at h
  dsimp only at h
  rcases hfirst : below x xs[lo + (hi - lo) / 2] with e | t
  · rw [hfirst] at h
    cases h
  · exact (hbelow _ _ t hfirst).1

theorem compared_of_foldlM_insertInto {xs rest ys : List α} (hne : xs ≠ [])
    (h : rest.foldlM (insertInto below) xs = .ok ys) : ∀ x ∈ rest, Q x := by
  induction rest generalizing xs with
  | nil => simp
  | cons x rest ih =>
    rw [List.foldlM_cons] at h
    obtain ⟨zs, hzs, h⟩ := Except.bind_eq_ok.mp h
    have hperm := perm_of_insertInto hzs
    obtain ⟨i, hi, -⟩ := Except.bind_eq_ok.mp hzs
    have hx : Q x :=
      compared_of_position hbelow (List.length_pos_iff.mpr hne) (Nat.le_refl _) hi
    have hzsne : zs ≠ [] := by
      rintro rfl
      simpa using hperm.length_eq
    exact List.forall_mem_cons.mpr ⟨hx, ih hzsne h⟩

end Compared

/-- A sort of two or more items that returns has compared each of them with another. -/
theorem compared_of_sortWith {Q : α → Prop} {cmp : α → α → Except ε Int}
    (hcmp : ∀ a b n, cmp a b = .ok n → Q a ∧ Q b) {xs ys : List α} (hlong : 2 ≤ xs.length)
    (h : sortWith cmp xs = .ok ys) : ∀ x ∈ xs, Q x := by
  have hbelow (a b : α) (t : Bool) (ht : (fun n => decide (n < 0)) <$> cmp a b = .ok t) :
      Q a ∧ Q b := by
    obtain ⟨n, hn, -⟩ := Except.map_eq_ok.mp ht
    exact hcmp a b n hn
  obtain ⟨⟨run, rest⟩, hrun, h⟩ := Except.bind_eq_ok.mp h
  obtain ⟨hne, hstart⟩ := compared_of_firstRun hbelow hlong hrun
  have hrest := compared_of_foldlM_insertInto hbelow hne h
  intro x hx
  rcases List.mem_append.mp ((perm_of_firstRun hrun).mem_iff.mpr hx) with hx | hx
  · exact hstart x hx
  · exact hrest x hx

/-! ## What a sort returns is sorted -/

section Sorted

variable {P : α → Prop} {cmp : α → α → Except ε Int} (h : TotalPreorder P cmp)

/-- The comparison of a sort. -/
def belowOf (cmp : α → α → Except ε Int) (a b : α) : Except ε Bool := (· < 0) <$> cmp a b

theorem belowOf_eq_true {a b : α} : belowOf cmp a b = .ok true ↔ Below cmp a b := by
  unfold belowOf Below
  rw [Except.map_eq_ok]
  simp

include h

theorem belowOf_eq_false {a b : α} (ha : P a) (hb : P b) :
    belowOf cmp a b = .ok false ↔ AtMost cmp b a := by
  rw [← h.not_below ha hb, ← belowOf_eq_true]
  obtain ⟨n, hn⟩ := h.returns ha hb
  have hrun : belowOf cmp a b = .ok (decide (n < 0)) := by
    unfold belowOf
    rw [hn]
    rfl
  rw [hrun]
  simp

omit h in
/-- How items of a run follow each other: strictly down if that is wanted, and up otherwise. -/
def Follows (cmp : α → α → Except ε Int) (want : Bool) (a b : α) : Prop :=
  if want then Below cmp b a else AtMost cmp a b

theorem follows_of_belowOf {want : Bool} {a b : α} (ha : P a) (hb : P b)
    (hwant : belowOf cmp b a = .ok want) : Follows cmp want a b := by
  unfold Follows
  cases want
  · rw [if_neg Bool.false_ne_true]
    exact (belowOf_eq_false h hb ha).mp hwant
  · rw [if_pos rfl]
    exact belowOf_eq_true.mp hwant

theorem follows_trans {want : Bool} {a b c : α} (ha : P a) (hb : P b) (hc : P c)
    (hab : Follows cmp want a b) (hbc : Follows cmp want b c) : Follows cmp want a c := by
  unfold Follows at hab hbc ⊢
  split at hab <;> rename_i hwant
  · rw [if_pos hwant] at hbc ⊢
    exact h.below_of_below_of_atMost hc hb ha hbc hab.atMost
  · rw [if_neg hwant] at hbc ⊢
    exact h.atMost_trans ha hb hc hab hbc

theorem pairwise_of_runLength {want : Bool} {prev : α} {xs : List α} (hprev : P prev)
    (hxs : ∀ x ∈ xs, P x) {n : Nat} (hn : runLength (belowOf cmp) want prev xs = .ok n) :
    (prev :: xs.take n).Pairwise (Follows cmp want) := by
  induction xs generalizing prev n with
  | nil => simp
  | cons x xs ih =>
    have hx : P x := hxs x List.mem_cons_self
    have hrest : ∀ y ∈ xs, P y := fun y hy => hxs y (List.mem_cons_of_mem _ hy)
    obtain ⟨t, ht, hn⟩ := Except.bind_eq_ok.mp hn
    split at hn
    · rename_i hwant
      obtain ⟨m, hm, hn⟩ := Except.bind_eq_ok.mp hn
      obtain rfl := Except.ok.inj hn
      have hfirst : Follows cmp want prev x := follows_of_belowOf h hprev hx (hwant ▸ ht)
      have hrun := ih hx hrest hm
      rw [List.take_succ_cons]
      refine List.pairwise_cons.mpr ⟨fun y hy => ?_, hrun⟩
      rcases List.mem_cons.mp hy with rfl | hy
      · exact hfirst
      · exact follows_trans h hprev hx (hrest y (List.mem_of_mem_take hy)) hfirst
          ((List.pairwise_cons.mp hrun).1 y hy)
    · obtain rfl := Except.ok.inj hn
      simp

/-- The first run is a start of the list that goes one way, turned round if it goes down. -/
theorem cut_of_firstRun {xs run rest : List α} (hxs : ∀ x ∈ xs, P x)
    (hrun : firstRun (belowOf cmp) xs = .ok (run, rest)) :
    ∃ down start, xs = start ++ rest ∧ start.Pairwise (Follows cmp down) ∧
      run = if down then start.reverse else start := by
  match xs with
  | [] | [x] =>
    obtain ⟨rfl, rfl⟩ := Prod.mk.inj (Except.ok.inj hrun)
    exact ⟨false, _, (List.append_nil _).symm, by simp, rfl⟩
  | x :: y :: xs =>
    obtain ⟨down, hdown, hrun⟩ := Except.bind_eq_ok.mp hrun
    obtain ⟨n, hn, hrun⟩ := Except.bind_eq_ok.mp hrun
    obtain ⟨rfl, rfl⟩ := Prod.mk.inj (Except.ok.inj hrun)
    refine ⟨down, x :: y :: xs.take n, by simp, ?_, rfl⟩
    have hlength : runLength (belowOf cmp) down x (y :: xs) = .ok (n + 1) := by
      rw [runLength, hdown, Except.ok_bind, if_pos rfl, hn]
      rfl
    exact pairwise_of_runLength h (hxs x (by simp))
      (fun z hz => hxs z (List.mem_cons_of_mem _ hz)) hlength

theorem pairwise_of_firstRun {xs run rest : List α} (hxs : ∀ x ∈ xs, P x)
    (hrun : firstRun (belowOf cmp) xs = .ok (run, rest)) : run.Pairwise (AtMost cmp) := by
  obtain ⟨down, start, -, hpairs, rfl⟩ := cut_of_firstRun h hxs hrun
  cases down
  · exact hpairs
  · rw [if_pos rfl, List.pairwise_reverse]
    exact hpairs.imp Below.atMost

/-- The position of an item in a sorted list: it is not below the items before it, and below those
from it on. -/
theorem between_of_position {xs : List α} {x : α} (hx : P x) (hxs : ∀ y ∈ xs, P y)
    (hsorted : xs.Pairwise (AtMost cmp)) {lo hi i : Nat} (hhi : hi ≤ xs.length) (hlo : lo ≤ hi)
    (hbefore : ∀ y ∈ xs.take lo, AtMost cmp y x) (hafter : ∀ y ∈ xs.drop hi, Below cmp x y)
    (hposition : position (belowOf cmp) x xs.toArray lo hi = .ok i) :
    (∀ y ∈ xs.take i, AtMost cmp y x) ∧ ∀ y ∈ xs.drop i, Below cmp x y := by
  fun_induction position (belowOf cmp) x xs.toArray lo hi with
  | case1 lo hi hlt mid hget =>
    have hmid : mid < xs.length := by omega
    rw [List.getElem?_toArray, List.getElem?_eq_none_iff] at hget
    omega
  | case2 => cases hposition
  | case3 lo hi hlt mid y hget hy ih =>
    -- the item is below the middle one, so below all from there on
    have hmid : mid < xs.length := by omega
    obtain ⟨_, rfl⟩ := List.getElem?_eq_some_iff.mp ((List.getElem?_toArray ..).symm.trans hget)
    have hxy : Below cmp x xs[mid] := belowOf_eq_true.mp hy
    refine ih (by omega) (by omega) hbefore (fun z hz => ?_) hposition
    rw [List.drop_eq_getElem_cons hmid] at hz
    have hpairs := hsorted.sublist (List.drop_sublist mid xs)
    rw [List.drop_eq_getElem_cons hmid] at hpairs
    rcases List.mem_cons.mp hz with rfl | hz
    · exact hxy
    · exact h.below_of_below_of_atMost hx (hxs _ (List.getElem_mem hmid))
        (hxs z (List.mem_of_mem_drop hz)) hxy ((List.pairwise_cons.mp hpairs).1 z hz)
  | case4 lo hi hlt mid y hget hy ih =>
    -- it is not below the middle one, so not below any up to there
    have hmid : mid < xs.length := by omega
    obtain ⟨_, rfl⟩ := List.getElem?_eq_some_iff.mp ((List.getElem?_toArray ..).symm.trans hget)
    have hmem : P xs[mid] := hxs _ (List.getElem_mem hmid)
    have hyx : AtMost cmp xs[mid] x := (belowOf_eq_false h hx hmem).mp hy
    refine ih hhi (by omega) (fun z hz => ?_) hafter hposition
    rw [List.take_succ_eq_append_getElem hmid] at hz
    have hpairs := hsorted.sublist (List.take_sublist (mid + 1) xs)
    rw [List.take_succ_eq_append_getElem hmid] at hpairs
    rcases List.mem_append.mp hz with hz | hz
    · have hzy := (List.pairwise_append.mp hpairs).2.2 z hz _ (List.mem_singleton_self _)
      exact h.atMost_trans (hxs z (List.mem_of_mem_take hz)) hmem hx hzy hyx
    · obtain rfl := List.mem_singleton.mp hz
      exact hyx
  | case5 lo hi hlt =>
    obtain rfl := Except.ok.inj hposition
    obtain rfl : lo = hi := by omega
    exact ⟨hbefore, hafter⟩

/-- An item is inserted between the items that it is not below and those that it is below. -/
theorem cut_of_insertInto {xs ys : List α} {x : α} (hx : P x) (hxs : ∀ y ∈ xs, P y)
    (hsorted : xs.Pairwise (AtMost cmp)) (hys : insertInto (belowOf cmp) xs x = .ok ys) :
    ∃ before after, xs = before ++ after ∧ ys = before ++ x :: after ∧
      (∀ y ∈ before, AtMost cmp y x) ∧ ∀ y ∈ after, Below cmp x y := by
  obtain ⟨i, hi, hys⟩ := Except.bind_eq_ok.mp hys
  obtain rfl := Except.ok.inj hys
  exact ⟨xs.take i, xs.drop i, (List.take_append_drop i xs).symm, rfl,
    between_of_position h hx hxs hsorted (Nat.le_refl _) (Nat.zero_le _) (by simp) (by simp) hi⟩

theorem pairwise_of_insertInto {xs ys : List α} {x : α} (hx : P x) (hxs : ∀ y ∈ xs, P y)
    (hsorted : xs.Pairwise (AtMost cmp)) (hys : insertInto (belowOf cmp) xs x = .ok ys) :
    ys.Pairwise (AtMost cmp) := by
  obtain ⟨before, after, rfl, rfl, hbefore, hafter⟩ := cut_of_insertInto h hx hxs hsorted hys
  obtain ⟨hfirst, hlast, hacross⟩ := List.pairwise_append.mp hsorted
  refine List.pairwise_append.mpr
    ⟨hfirst, List.pairwise_cons.mpr ⟨fun y hy => (hafter y hy).atMost, hlast⟩, ?_⟩
  intro y hy z hz
  rcases List.mem_cons.mp hz with rfl | hz
  · exact hbefore y hy
  · exact hacross y hy z hz

theorem pairwise_of_foldlM_insertInto {xs rest ys : List α} (hxs : ∀ x ∈ xs, P x)
    (hrest : ∀ x ∈ rest, P x) (hsorted : xs.Pairwise (AtMost cmp))
    (hys : rest.foldlM (insertInto (belowOf cmp)) xs = .ok ys) : ys.Pairwise (AtMost cmp) := by
  induction rest generalizing xs with
  | nil =>
    obtain rfl := Except.ok.inj hys
    exact hsorted
  | cons x rest ih =>
    rw [List.foldlM_cons] at hys
    obtain ⟨zs, hzs, hys⟩ := Except.bind_eq_ok.mp hys
    have hx : P x := hrest x List.mem_cons_self
    refine ih (fun z hz => ?_) (fun z hz => hrest z (List.mem_cons_of_mem _ hz))
      (pairwise_of_insertInto h hx hxs hsorted hzs) hys
    rcases List.mem_cons.mp ((perm_of_insertInto hzs).subset hz) with rfl | hz
    · exact hx
    · exact hxs z hz

/-- What a sort by a total preorder returns is sorted. -/
theorem pairwise_of_sortWith {xs ys : List α} (hxs : ∀ x ∈ xs, P x)
    (hys : sortWith cmp xs = .ok ys) : ys.Pairwise (AtMost cmp) := by
  obtain ⟨⟨run, rest⟩, hrun, hys⟩ := Except.bind_eq_ok.mp hys
  have hmem : ∀ x ∈ run ++ rest, P x := fun x hx => hxs x ((perm_of_firstRun hrun).subset hx)
  exact pairwise_of_foldlM_insertInto h (fun x hx => hmem x (List.mem_append_left _ hx))
    (fun x hx => hmem x (List.mem_append_right _ hx)) (pairwise_of_firstRun h hxs hrun) hys

/-! ## Sorted lists of the same items -/

open Classical in
/-- The number of items of a list that are below an item. -/
noncomputable def rankIn (cmp : α → α → Except ε Int) (xs : List α) (a : α) : Nat :=
  xs.countP fun x => Below cmp x a

theorem rankIn_le {xs : List α} (hxs : ∀ x ∈ xs, P x) {a b : α} (ha : P a) (hb : P b)
    (hab : AtMost cmp a b) : rankIn cmp xs a ≤ rankIn cmp xs b := by
  classical
  refine List.countP_mono_left fun x hx hbelow => ?_
  rw [decide_eq_true_iff] at hbelow ⊢
  exact h.below_of_below_of_atMost (hxs x hx) ha hb hbelow hab

theorem rankIn_lt {xs : List α} (hxs : ∀ x ∈ xs, P x) {a b : α} (ha : a ∈ xs) (hb : P b)
    (hab : Below cmp a b) : rankIn cmp xs a < rankIn cmp xs b := by
  classical
  have hself : ¬ Below cmp a a := (h.not_below (hxs a ha) (hxs a ha)).mpr
    (atMost_of_zero (h.refl (hxs a ha)))
  obtain ⟨before, after, rfl⟩ := List.append_of_mem ha
  have hbefore := rankIn_le h (fun x hx => hxs x (List.mem_append_left _ hx)) (hxs a ha) hb
    hab.atMost
  have hafter : rankIn cmp after a ≤ rankIn cmp after b := rankIn_le h
    (fun x hx => hxs x (List.mem_append_right _ (List.mem_cons_of_mem _ hx))) (hxs a ha) hb
    hab.atMost
  unfold rankIn at hbefore hafter ⊢
  rw [List.countP_append, List.countP_append, List.countP_cons_of_neg (by simpa using hself),
    List.countP_cons_of_pos (by simpa using hab)]
  omega

/-- Two sorted lists of the same items agree place by place, up to items that compare as equal. -/
theorem forall₂_of_perm {xs ys : List α} (hxs : ∀ x ∈ xs, P x) (hperm : xs.Perm ys)
    (hsorted : xs.Pairwise (AtMost cmp)) (hsorted' : ys.Pairwise (AtMost cmp)) :
    List.Forall₂ (fun x y => cmp x y = .ok 0) xs ys := by
  have hequal {a b : α} (ha : a ∈ xs) (hb : b ∈ xs) (hrank : rankIn cmp xs a = rankIn cmp xs b) :
      cmp a b = .ok 0 := by
    refine h.eq_zero_of_atMost (hxs a ha) (hxs b hb) ?_ ?_
    · refine (h.below_or_atMost (hxs b hb) (hxs a ha)).resolve_left fun hba => ?_
      exact absurd (rankIn_lt h hxs hb (hxs a ha) hba) (by omega)
    · refine (h.below_or_atMost (hxs a ha) (hxs b hb)).resolve_left fun hab => ?_
      exact absurd (rankIn_lt h hxs ha (hxs b hb) hab) (by omega)
  -- the ranks of a sorted list go up, so they are the same list for both
  have hranks {zs : List α} (hzs : ∀ z ∈ zs, z ∈ xs) (hpairs : zs.Pairwise (AtMost cmp)) :
      (zs.map (rankIn cmp xs)).Pairwise (· ≤ ·) := by
    rw [List.pairwise_map]
    exact hpairs.imp_of_mem fun ha hb hab =>
      rankIn_le h hxs (hxs _ (hzs _ ha)) (hxs _ (hzs _ hb)) hab
  have hmap : xs.map (rankIn cmp xs) = ys.map (rankIn cmp xs) :=
    (hperm.map _).eq_of_pairwise (fun _ _ _ _ => Nat.le_antisymm) (hranks (fun _ hz => hz) hsorted)
      (hranks (fun _ hz => hperm.mem_iff.mpr hz) hsorted')
  have hsame : List.Forall₂ (fun x y => rankIn cmp xs x = rankIn cmp xs y) xs ys := by
    have heq : List.Forall₂ (· = ·) (xs.map (rankIn cmp xs)) (ys.map (rankIn cmp xs)) := by
      rw [hmap]
      exact List.forall₂_refl _
    rwa [List.forall₂_map_left_iff, List.forall₂_map_right_iff] at heq
  obtain ⟨hlength, hzip⟩ := List.forall₂_iff_zip.mp hsame
  refine List.forall₂_iff_zip.mpr ⟨hlength, fun {a b} hab => ?_⟩
  exact hequal (List.of_mem_zip hab).1 (hperm.mem_iff.mpr (List.of_mem_zip hab).2) (hzip hab)

/-- Sorts of the same items that came in two orders agree, up to items that compare as equal. -/
theorem sortWith_of_perm {xs ys : List α} (hxs : ∀ x ∈ xs, P x) (hperm : xs.Perm ys) :
    ∃ xs' ys', sortWith cmp xs = .ok xs' ∧ sortWith cmp ys = .ok ys' ∧
      List.Forall₂ (fun x y => cmp x y = .ok 0) xs' ys' := by
  have hys : ∀ y ∈ ys, P y := fun y hy => hxs y (hperm.mem_iff.mpr hy)
  obtain ⟨xs', hxs'⟩ := exists_sortWith fun a ha b hb => h.returns (hxs a ha) (hxs b hb)
  obtain ⟨ys', hys'⟩ := exists_sortWith fun a ha b hb => h.returns (hys a ha) (hys b hb)
  have hpermx := perm_of_sortWith hxs'
  have hpermy := perm_of_sortWith hys'
  refine ⟨xs', ys', hxs', hys', forall₂_of_perm h (fun x hx => hxs x (hpermx.subset hx)) ?_
    (pairwise_of_sortWith h hxs hxs') (pairwise_of_sortWith h hys hys')⟩
  exact (hpermx.trans hperm).trans hpermy.symm

end Sorted

theorem forall₂_page {β : Type} {R : α → β → Prop} {xs : List α} {ys : List β}
    (h : List.Forall₂ R xs ys) (offset limit : Int) :
    List.Forall₂ R (page xs offset limit) (page ys offset limit) := by
  have hlength := h.length_eq
  unfold page slice sliceFrom
  rw [hlength]
  split
  · exact List.forall₂_drop _ (List.forall₂_take _ h)
  · exact List.forall₂_drop _ h

end SqlDesk.Order
