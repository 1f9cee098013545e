import SqlDesk.Proofs.Order.Sorted

/-!
# Stable sorting

A sort by a total preorder leaves items that compare as equal in the order in which they came. There
is only one such list: a sorted list of the same items, in which equal ones have kept their order,
is what the sort returns (`sortWith_eq_ok_iff`). So two ways to sort that compare in the same way
agree, ties included.
-/

namespace SqlDesk.Order

variable {ε α β : Type}

/-- The items of a list that satisfy a predicate all compare as equal. -/
def Tied (cmp : α → α → Except ε Int) (xs : List α) (p : α → Bool) : Prop :=
  ∀ a ∈ xs, ∀ b ∈ xs, p a = true → p b = true → cmp a b = .ok 0

/-- A list in ascending order has the items of another, and any of them that compare as equal stand
in the same order in both. -/
structure StablySorted (cmp : α → α → Except ε Int) (xs ys : List α) : Prop where
  perm : ys.Perm xs
  sorted : ys.Pairwise (AtMost cmp)
  stable : ∀ p, Tied cmp xs p → ys.filter p = xs.filter p

/-- Turning a list round does not show where a predicate holds of one item at most. -/
theorem filter_reverse_of_pairwise {p : α → Bool} {xs : List α}
    (h : xs.Pairwise fun a b => ¬ (p a = true ∧ p b = true)) :
    xs.reverse.filter p = xs.filter p := by
  rw [List.filter_reverse]
  have hfew := h.filter p
  have hall : ∀ a ∈ xs.filter p, p a = true := fun a ha => (List.mem_filter.mp ha).2
  match hfilter : xs.filter p with
  | [] | [_] => rfl
  | a :: b :: rest =>
    rw [hfilter] at hfew hall
    have hpair := (List.pairwise_cons.mp hfew).1 b List.mem_cons_self
    exact absurd ⟨hall a List.mem_cons_self, hall b (by simp)⟩ hpair

/-! ## A sort is stable -/

section Returned

variable {P : α → Prop} {cmp : α → α → Except ε Int} (h : TotalPreorder P cmp)

theorem Below.not_tied {a b : α} (hab : Below cmp a b) : cmp a b ≠ .ok 0 := by
  obtain ⟨n, hn, hneg⟩ := hab
  rw [hn]
  intro hzero
  rw [Except.ok.inj hzero] at hneg
  exact absurd hneg (by decide)

include h

/-- Items that compare as equal to a third one compare as equal. -/
theorem TotalPreorder.tied_of_tied {a b c : α} (ha : P a) (hb : P b) (hc : P c)
    (hab : cmp a b = .ok 0) (hac : cmp a c = .ok 0) : cmp b c = .ok 0 := by
  have hba : cmp b a = .ok 0 := h.swap ha hb hab
  have hca : cmp c a = .ok 0 := h.swap ha hc hac
  exact h.eq_zero_of_atMost hb hc
    (h.atMost_trans hb ha hc (atMost_of_zero hba) (atMost_of_zero hac))
    (h.atMost_trans hc ha hb (atMost_of_zero hca) (atMost_of_zero hab))

variable {p : α → Bool} (hp : ∀ a b, P a → P b → p a = true → p b = true → cmp a b = .ok 0)

include hp

theorem filter_of_firstRun {xs run rest : List α} (hxs : ∀ x ∈ xs, P x)
    (hrun : firstRun (belowOf cmp) xs = .ok (run, rest)) :
    (run ++ rest).filter p = xs.filter p := by
  obtain ⟨down, start, rfl, hpairs, rfl⟩ := cut_of_firstRun h hxs hrun
  cases down
  · rfl
  · -- a run that goes strictly down has no two equal items
    rw [if_pos rfl, List.filter_append, List.filter_append, filter_reverse_of_pairwise]
    refine hpairs.imp_of_mem fun {a b} ha hb hba htied => ?_
    exact Below.not_tied hba (hp b a (hxs b (List.mem_append_left _ hb))
      (hxs a (List.mem_append_left _ ha)) htied.2 htied.1)

theorem filter_of_insertInto {xs ys : List α} {x : α} (hx : P x) (hxs : ∀ y ∈ xs, P y)
    (hsorted : xs.Pairwise (AtMost cmp)) (hys : insertInto (belowOf cmp) xs x = .ok ys) :
    ys.filter p = xs.filter p ++ [x].filter p := by
  obtain ⟨before, after, rfl, rfl, -, hafter⟩ := cut_of_insertInto h hx hxs hsorted hys
  by_cases hpx : p x = true
  · have hnone : after.filter p = [] := by
      refine List.filter_eq_nil_iff.mpr fun y hy hpy => ?_
      exact (hafter y hy).not_tied (hp x y hx (hxs y (List.mem_append_right _ hy)) hpx hpy)
    rw [List.filter_append, List.filter_cons_of_pos hpx, List.filter_append, hnone,
      List.append_nil, List.filter_cons_of_pos hpx, List.filter_nil]
  · rw [List.filter_append, List.filter_cons_of_neg hpx, List.filter_append,
      List.filter_cons_of_neg hpx, List.filter_nil, List.append_nil]

theorem filter_of_foldlM_insertInto {xs rest ys : List α} (hxs : ∀ x ∈ xs, P x)
    (hrest : ∀ x ∈ rest, P x) (hsorted : xs.Pairwise (AtMost cmp))
    (hys : rest.foldlM (insertInto (belowOf cmp)) xs = .ok ys) :
    ys.filter p = (xs ++ rest).filter p := by
  induction rest generalizing xs with
  | nil =>
    obtain rfl := Except.ok.inj hys
    rw [List.append_nil]
  | cons x rest ih =>
    rw [List.foldlM_cons] at hys
    obtain ⟨zs, hzs, hys⟩ := Except.bind_eq_ok.mp hys
    have hx : P x := hrest x List.mem_cons_self
    have hmem : ∀ z ∈ zs, P z := by
      intro z hz
      rcases List.mem_cons.mp ((perm_of_insertInto hzs).subset hz) with rfl | hz
      · exact hx
      · exact hxs z hz
    rw [ih hmem (fun z hz => hrest z (List.mem_cons_of_mem _ hz))
      (pairwise_of_insertInto h hx hxs hsorted hzs) hys, List.filter_append,
      filter_of_insertInto h hp hx hxs hsorted hzs, List.append_assoc, ← List.filter_append,
      ← List.filter_append, List.singleton_append]

theorem filter_of_sortWith {xs ys : List α} (hxs : ∀ x ∈ xs, P x)
    (hys : sortWith cmp xs = .ok ys) : ys.filter p = xs.filter p := by
  obtain ⟨⟨run, rest⟩, hrun, hys⟩ := Except.bind_eq_ok.mp hys
  have hmem : ∀ x ∈ run ++ rest, P x := fun x hx => hxs x ((perm_of_firstRun hrun).subset hx)
  rw [filter_of_foldlM_insertInto h hp (fun x hx => hmem x (List.mem_append_left _ hx))
    (fun x hx => hmem x (List.mem_append_right _ hx)) (pairwise_of_firstRun h hxs hrun) hys,
    filter_of_firstRun h hp hxs hrun]

end Returned

/-! ## There is one stably sorted list -/

section Unique

variable {P : α → Prop} {cmp : α → α → Except ε Int} (h : TotalPreorder P cmp)

include h

/-- Lists that agree up to items that compare as equal, and in the order of those, are the same. -/
theorem eq_of_forall₂_tied {ys zs : List α} (hys : ∀ y ∈ ys, P y) (hzs : ∀ z ∈ zs, P z)
    (hequal : List.Forall₂ (fun y z => cmp y z = .ok 0) ys zs)
    (hfilter : ∀ p : α → Bool, (∀ a b, P a → P b → p a = true → p b = true → cmp a b = .ok 0) →
      ys.filter p = zs.filter p) : ys = zs := by
  classical
  induction hequal with
  | nil => rfl
  | @cons y z ys zs hyz hrest ih =>
    have hy : P y := hys y List.mem_cons_self
    have hz : P z := hzs z List.mem_cons_self
    -- both begin with the first of the items that are equal to their heads
    let p (a : α) : Bool := decide (P a ∧ cmp y a = .ok 0)
    have hclass := hfilter p fun a b ha hb hpa hpb => h.tied_of_tied hy ha hb
      (of_decide_eq_true hpa).2 (of_decide_eq_true hpb).2
    have hpy : p y = true := decide_eq_true ⟨hy, h.refl hy⟩
    have hpz : p z = true := decide_eq_true ⟨hz, hyz⟩
    rw [List.filter_cons_of_pos hpy, List.filter_cons_of_pos hpz] at hclass
    obtain ⟨rfl, -⟩ := List.cons.inj hclass
    refine congrArg (y :: ·) (ih (fun a ha => hys a (List.mem_cons_of_mem _ ha))
      (fun a ha => hzs a (List.mem_cons_of_mem _ ha)) fun q hq => ?_)
    have hboth := hfilter q hq
    by_cases hqy : q y = true
    · rw [List.filter_cons_of_pos hqy, List.filter_cons_of_pos hqy] at hboth
      exact (List.cons.inj hboth).2
    · rwa [List.filter_cons_of_neg hqy, List.filter_cons_of_neg hqy] at hboth

theorem StablySorted.unique {xs ys zs : List α} (hxs : ∀ x ∈ xs, P x)
    (hy : StablySorted cmp xs ys) (hz : StablySorted cmp xs zs) : ys = zs := by
  have hys : ∀ y ∈ ys, y ∈ xs := fun y hy' => hy.perm.subset hy'
  have hzs : ∀ z ∈ zs, z ∈ xs := fun z hz' => hz.perm.subset hz'
  have hmem := h.mono hxs
  refine eq_of_forall₂_tied hmem hys hzs
    (forall₂_of_perm hmem hys (hy.perm.trans hz.perm.symm) hy.sorted hz.sorted) fun p hp => ?_
  have htied : Tied cmp xs p := fun a ha b hb => hp a b ha hb
  rw [hy.stable p htied, hz.stable p htied]

/-- A sort by a total preorder returns the one stably sorted list. -/
theorem sortWith_eq_ok_iff {xs ys : List α} (hxs : ∀ x ∈ xs, P x) :
    sortWith cmp xs = .ok ys ↔ StablySorted cmp xs ys := by
  have hmem := h.mono hxs
  have hsound {zs : List α} (hzs : sortWith cmp xs = .ok zs) : StablySorted cmp xs zs :=
    ⟨perm_of_sortWith hzs, pairwise_of_sortWith h hxs hzs, fun p hp =>
      filter_of_sortWith hmem (fun a b ha hb => hp a ha b hb) (fun _ hx => hx) hzs⟩
  refine ⟨hsound, fun hy => ?_⟩
  obtain ⟨zs, hzs⟩ := exists_sortWith fun a ha b hb => h.returns (hxs a ha) (hxs b hb)
  rw [hzs, StablySorted.unique h hxs hy (hsound hzs)]

end Unique

namespace StablySorted

variable {cmp : α → α → Except ε Int} {xs ys : List α}

/-- Two items that compare as equal stand in the same order in both lists. -/
theorem sublist {P : α → Prop} (h : TotalPreorder P cmp) (hxs : ∀ x ∈ xs, P x)
    (hy : StablySorted cmp xs ys) {a b : α} (hab : [a, b].Sublist xs) (htied : cmp a b = .ok 0) :
    [a, b].Sublist ys := by
  classical
  let p (c : α) : Bool := decide (c ∈ xs ∧ cmp a c = .ok 0)
  have ha : a ∈ xs := hab.subset List.mem_cons_self
  have hb : b ∈ xs := hab.subset (by simp)
  have hclass := hy.stable p fun c hc d hd hpc hpd => h.tied_of_tied (hxs a ha) (hxs c hc)
    (hxs d hd) (of_decide_eq_true hpc).2 (of_decide_eq_true hpd).2
  have hpair : [a, b].filter p = [a, b] := by
    have hpa : p a = true := decide_eq_true ⟨ha, h.refl (hxs a ha)⟩
    have hpb : p b = true := decide_eq_true ⟨hb, htied⟩
    rw [List.filter_cons_of_pos hpa, List.filter_cons_of_pos hpb, List.filter_nil]
  have hfilter := hab.filter p
  rw [hpair, ← hclass] at hfilter
  exact hfilter.trans List.filter_sublist

/-- Items that compare in the same way are sorted in the same way. -/
theorem map {f : α → β} {cmp' : β → β → Except ε Int}
    (hcmp : ∀ a ∈ xs, ∀ b ∈ xs, cmp' (f a) (f b) = cmp a b) (hy : StablySorted cmp xs ys) :
    StablySorted cmp' (xs.map f) (ys.map f) where
  perm := hy.perm.map f
  sorted := by
    rw [List.pairwise_map]
    refine hy.sorted.imp_of_mem fun {a b} ha hb hab => ?_
    unfold AtMost
    rwa [hcmp a (hy.perm.subset ha) b (hy.perm.subset hb)]
  stable p hp := by
    have htied : Tied cmp xs (p ∘ f) := by
      intro a ha b hb hpa hpb
      rw [← hcmp a ha b hb]
      exact hp _ (List.mem_map_of_mem ha) _ (List.mem_map_of_mem hb) hpa hpb
    rw [List.filter_map, List.filter_map, hy.stable _ htied]

end StablySorted

end SqlDesk.Order
