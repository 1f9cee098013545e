import SqlDesk.Order.Listing
import SqlDesk.Proofs.Except

/-!
# Comparisons that may fail as total preorders

A comparison gives a negative number for "below", zero for "beside" and a positive one for "above",
or fails. On items on which it is a total preorder it always returns. Comparing by keys is one, and
so is comparing by one preorder first and by another where that decides nothing.
-/

namespace SqlDesk.Order

variable {ε α β : Type}

/-- On items that satisfy `P` a comparison always returns, turns round with its arguments, and goes
on from item to item. -/
structure TotalPreorder (P : α → Prop) (cmp : α → α → Except ε Int) : Prop where
  returns : ∀ {a b}, P a → P b → ∃ n, cmp a b = .ok n
  swap : ∀ {a b n}, P a → P b → cmp a b = .ok n → cmp b a = .ok (-n)
  trans : ∀ {a b c m n}, P a → P b → P c → cmp a b = .ok m → cmp b c = .ok n → m ≤ 0 → n ≤ 0 →
    ∃ k, cmp a c = .ok k ∧ k ≤ 0

/-- The first item is not above the second. -/
def AtMost (cmp : α → α → Except ε Int) (a b : α) : Prop := ∃ n, cmp a b = .ok n ∧ n ≤ 0

/-- The first item is below the second. -/
def Below (cmp : α → α → Except ε Int) (a b : α) : Prop := ∃ n, cmp a b = .ok n ∧ n < 0

theorem Below.atMost {cmp : α → α → Except ε Int} {a b : α} (h : Below cmp a b) :
    AtMost cmp a b := by
  obtain ⟨n, hn, hlt⟩ := h
  exact ⟨n, hn, by omega⟩

theorem atMost_of_zero {cmp : α → α → Except ε Int} {a b : α} (h : cmp a b = .ok 0) :
    AtMost cmp a b := ⟨0, h, Int.le_refl 0⟩

namespace TotalPreorder

variable {P : α → Prop} {cmp : α → α → Except ε Int} (h : TotalPreorder P cmp)

include h

theorem refl {a : α} (ha : P a) : cmp a a = .ok 0 := by
  obtain ⟨n, hn⟩ := h.returns ha ha
  have hneg : n = -n := Except.ok.inj (hn.symm.trans (h.swap ha ha hn))
  have hzero : n = 0 := by omega
  rw [hn, hzero]

theorem atMost_trans {a b c : α} (ha : P a) (hb : P b) (hc : P c) (hab : AtMost cmp a b)
    (hbc : AtMost cmp b c) : AtMost cmp a c := by
  obtain ⟨m, hm, hm0⟩ := hab
  obtain ⟨n, hn, hn0⟩ := hbc
  exact h.trans ha hb hc hm hn hm0 hn0

/-- Of two items one is below the other, or the other is not above it. -/
theorem below_or_atMost {a b : α} (ha : P a) (hb : P b) : Below cmp a b ∨ AtMost cmp b a := by
  obtain ⟨n, hn⟩ := h.returns ha hb
  by_cases hneg : n < 0
  · exact .inl ⟨n, hn, hneg⟩
  · exact .inr ⟨-n, h.swap ha hb hn, by omega⟩

theorem not_below {a b : α} (ha : P a) (hb : P b) : ¬ Below cmp a b ↔ AtMost cmp b a := by
  constructor
  · exact (h.below_or_atMost ha hb).resolve_left
  · rintro ⟨n, hn, hn0⟩ ⟨m, hm, hm0⟩
    have hswap := h.swap hb ha hn
    rw [hm] at hswap
    have hnm : m = -n := Except.ok.inj hswap
    omega

theorem below_of_atMost_of_below {a b c : α} (ha : P a) (hb : P b) (hc : P c)
    (hab : AtMost cmp a b) (hbc : Below cmp b c) : Below cmp a c := by
  by_contra hnot
  exact (h.not_below hb hc).mpr (h.atMost_trans hc ha hb ((h.not_below ha hc).mp hnot) hab) hbc

theorem below_of_below_of_atMost {a b c : α} (ha : P a) (hb : P b) (hc : P c)
    (hab : Below cmp a b) (hbc : AtMost cmp b c) : Below cmp a c := by
  by_contra hnot
  exact (h.not_below ha hb).mpr (h.atMost_trans hb hc ha hbc ((h.not_below ha hc).mp hnot)) hab

/-- Items that are not above each other are beside each other. -/
theorem eq_zero_of_atMost {a b : α} (ha : P a) (hb : P b) (hab : AtMost cmp a b)
    (hba : AtMost cmp b a) : cmp a b = .ok 0 := by
  obtain ⟨n, hn, hn0⟩ := hab
  obtain ⟨m, hm, hm0⟩ := hba
  have hmn : m = -n := Except.ok.inj (hm.symm.trans (h.swap ha hb hn))
  have hzero : n = 0 := by omega
  rw [hn, hzero]

theorem mono {Q : α → Prop} (hQ : ∀ a, Q a → P a) : TotalPreorder Q cmp where
  returns ha hb := h.returns (hQ _ ha) (hQ _ hb)
  swap ha hb := h.swap (hQ _ ha) (hQ _ hb)
  trans ha hb hc := h.trans (hQ _ ha) (hQ _ hb) (hQ _ hc)

/-- Another comparison that gives the same. -/
theorem congr {cmp' : α → α → Except ε Int} (hcmp : ∀ a b, P a → P b → cmp' a b = cmp a b) :
    TotalPreorder P cmp' where
  returns ha hb := by
    rw [hcmp _ _ ha hb]
    exact h.returns ha hb
  swap ha hb hn := by
    rw [hcmp _ _ ha hb] at hn
    rw [hcmp _ _ hb ha]
    exact h.swap ha hb hn
  trans ha hb hc hm hn := by
    rw [hcmp _ _ ha hb] at hm
    rw [hcmp _ _ hb hc] at hn
    rw [hcmp _ _ ha hc]
    exact h.trans ha hb hc hm hn

/-- Comparing items by what a function makes of them. -/
theorem comap (f : β → α) : TotalPreorder (fun b => P (f b)) fun a b => cmp (f a) (f b) where
  returns := h.returns
  swap := h.swap
  trans := h.trans

/-- The comparison turned round. -/
theorem reverse : TotalPreorder P fun a b => (- ·) <$> cmp a b where
  returns ha hb := by
    obtain ⟨n, hn⟩ := h.returns ha hb
    exact ⟨-n, by rw [hn]; rfl⟩
  swap ha hb hn := by
    obtain ⟨m, hm, rfl⟩ := Except.map_eq_ok.mp hn
    rw [h.swap ha hb hm]
    rfl
  trans {a b c m n} ha hb hc hm hn hm0 hn0 := by
    obtain ⟨m', hm', rfl⟩ := Except.map_eq_ok.mp hm
    obtain ⟨n', hn', rfl⟩ := Except.map_eq_ok.mp hn
    obtain ⟨k, hk, hk0⟩ := h.trans hc hb ha (h.swap hb hc hn') (h.swap ha hb hm') hn0 hm0
    exact ⟨k, by rw [h.swap hc ha hk]; exact congrArg Except.ok (Int.neg_neg k), hk0⟩

theorem directed (order : String) :
    TotalPreorder P fun a b => Order.directed order <$> cmp a b := by
  unfold Order.directed
  by_cases horder : order = "DESC"
  · simp only [if_pos horder]
    exact h.reverse
  · simp only [if_neg horder]
    have hsame (x : Except ε Int) : (fun n : Int => n) <$> x = x := id_map' x
    simp only [hsame]
    exact h

omit h in
theorem directed_directed (order : String) (n : Int) :
    Order.directed order (Order.directed order n) = n := by
  unfold Order.directed
  split
  · exact Int.neg_neg n
  · rfl

omit h in
theorem directed_iff (order : String) :
    TotalPreorder P (fun a b => Order.directed order <$> cmp a b) ↔ TotalPreorder P cmp := by
  refine ⟨fun h => (h.directed order).congr fun a b _ _ => ?_, fun h => h.directed order⟩
  rcases cmp a b with e | n
  · rfl
  · exact congrArg Except.ok (directed_directed order n).symm

omit h in
/-- Compare by one comparison first, and by another where that decides nothing. -/
theorem thenBy {d e : α → α → Except ε Int} (hd : TotalPreorder P d) (he : TotalPreorder P e) :
    TotalPreorder P fun a b => d a b >>= fun n => if n = 0 then e a b else .ok n := by
  refine ⟨fun {a b} ha hb => ?_, fun {a b n} ha hb hn => ?_,
    fun {a b c m n} ha hb hc hm hn hm0 hn0 => ?_⟩
  · obtain ⟨n, hn⟩ := hd.returns ha hb
    rw [hn, Except.ok_bind]
    split
    · exact he.returns ha hb
    · exact ⟨n, rfl⟩
  · obtain ⟨m, hm, hn⟩ := Except.bind_eq_ok.mp hn
    rw [hd.swap ha hb hm, Except.ok_bind]
    by_cases hzero : m = 0
    · rw [if_pos hzero] at hn
      rw [if_pos (by omega)]
      exact he.swap ha hb hn
    · rw [if_neg hzero] at hn
      obtain rfl := Except.ok.inj hn
      rw [if_neg (by omega)]
  · -- what it takes to be at most, in terms of the two comparisons
    have hfirst {a b : α} {n : Int}
        (hn : (d a b >>= fun n => if n = 0 then e a b else .ok n) = .ok n) (hn0 : n ≤ 0) :
        Below d a b ∨ d a b = .ok 0 ∧ AtMost e a b := by
      obtain ⟨m, hm, hn⟩ := Except.bind_eq_ok.mp hn
      by_cases hzero : m = 0
      · rw [if_pos hzero] at hn
        exact .inr ⟨hzero ▸ hm, n, hn, hn0⟩
      · rw [if_neg hzero] at hn
        obtain rfl := Except.ok.inj hn
        exact .inl ⟨m, hm, by omega⟩
    have hlast (hac : Below d a c ∨ d a c = .ok 0 ∧ AtMost e a c) :
        ∃ k, (d a c >>= fun n => if n = 0 then e a c else .ok n) = .ok k ∧ k ≤ 0 := by
      rcases hac with ⟨k, hk, hk0⟩ | ⟨hk, k, hk', hk0⟩
      · exact ⟨k, by rw [hk, Except.ok_bind, if_neg (by omega)], by omega⟩
      · exact ⟨k, by rw [hk, Except.ok_bind, if_pos rfl, hk'], hk0⟩
    apply hlast
    rcases hfirst hm hm0 with hab | ⟨hab, hab'⟩ <;> rcases hfirst hn hn0 with hbc | ⟨hbc, hbc'⟩
    · exact .inl (hd.below_of_below_of_atMost ha hb hc hab hbc.atMost)
    · exact .inl (hd.below_of_below_of_atMost ha hb hc hab (atMost_of_zero hbc))
    · exact .inl (hd.below_of_atMost_of_below ha hb hc (atMost_of_zero hab) hbc)
    · refine .inr ⟨?_, he.atMost_trans ha hb hc hab' hbc'⟩
      refine hd.eq_zero_of_atMost ha hc ?_ ?_
      · exact hd.atMost_trans ha hb hc (atMost_of_zero hab) (atMost_of_zero hbc)
      · exact hd.atMost_trans hc hb ha (atMost_of_zero (hd.swap hb hc hbc))
          (atMost_of_zero (hd.swap ha hb hab))

omit h in
/-- Names that decide where a column does not. -/
theorem withNames {byColumn byName : α → α → Except Fault Int} (hcolumn : TotalPreorder P byColumn)
    (hname : TotalPreorder P byName) (order : String) :
    TotalPreorder P fun a b => Order.withNames (byColumn a b) order (byName a b) := by
  have hrun (x y : Except Fault Int) : Order.withNames x order y =
      (Order.directed order <$> x) >>= fun n => if n = 0 then y else .ok n := by
    rcases x with e | n <;> rfl
  simp only [hrun]
  exact (hcolumn.directed order).thenBy hname

end TotalPreorder

/-! ## Names and columns -/

theorem withNames_swap {x x' y y' : Except Fault Int} {order : String} {k : Int}
    (hx : ∀ n, x = .ok n → x' = .ok (-n)) (hy : ∀ n, y = .ok n → y' = .ok (-n))
    (h : withNames x order y = .ok k) : withNames x' order y' = .ok (-k) := by
  have hneg (n : Int) : directed order (-n) = -directed order n := by
    unfold directed
    split <;> rfl
  obtain ⟨n, hn, h⟩ := Except.bind_eq_ok.mp h
  unfold withNames
  rw [hx n hn, Except.ok_bind]
  dsimp only at h ⊢
  split at h
  · rename_i hzero
    rw [hneg, hzero, if_pos Int.neg_zero]
    exact hy k h
  · rename_i hzero
    obtain rfl := Except.ok.inj h
    rw [hneg, if_neg (by omega)]
    rfl

theorem exists_withNames {x y : Except Fault Int} {order : String} (hx : ∃ n, x = .ok n)
    (hy : ∃ n, y = .ok n) : ∃ n, withNames x order y = .ok n := by
  obtain ⟨n, rfl⟩ := hx
  unfold withNames
  rw [Except.ok_bind]
  dsimp only
  split
  · exact hy
  · exact ⟨_, rfl⟩

/-- If every value of a column is that of an item without a name, then items are a total preorder by
the column and their names if and only if the values of the column are one. -/
theorem withNames_totalPreorder_iff {P : α → Prop} {V : β → Prop}
    (cmp : β → β → Except Fault Int) {byName : α → α → Except Fault Int} (column : α → β)
    (item : β → α)
    (hname : TotalPreorder P byName) (hcolumn : ∀ a, P a → V (column a))
    (hitem : ∀ v, V v → P (item v)) (hvalue : ∀ v, column (item v) = v)
    (hunnamed : ∀ v w, byName (item v) (item w) = .ok 0) (order : String) :
    TotalPreorder P (fun a b => withNames (cmp (column a) (column b)) order (byName a b)) ↔
      TotalPreorder V cmp := by
  constructor
  · intro h
    have hitems := (h.comap item).mono hitem
    have hcmp (v w : β) :
        withNames (cmp (column (item v)) (column (item w))) order (byName (item v) (item w)) =
          directed order <$> cmp v w := by
      rw [hvalue, hvalue, hunnamed]
      rcases cmp v w with e | n
      · rfl
      · show (if directed order n = 0 then Except.ok 0 else Except.ok (directed order n)) = _
        split
        · rename_i hzero
          exact congrArg Except.ok hzero.symm
        · rfl
    simp only [hcmp] at hitems
    exact (TotalPreorder.directed_iff order).mp hitems
  · intro h
    exact ((h.comap column).mono hcolumn).withNames hname order

/-! ## Keys -/

theorem signOf_swap (o : Ordering) : signOf o.swap = -signOf o := by
  cases o <;> rfl

theorem signOf_le_zero {o : Ordering} : signOf o ≤ 0 ↔ o.isLE = true := by
  cases o <;> decide

/-- Comparing by keys is a total preorder on items that have them. -/
theorem totalPreorder_of_keys {κ : Type} (compare : κ → κ → Ordering) [Std.TransCmp compare]
    {P : α → Prop} {cmp : α → α → Except ε Int} (key : α → κ → Prop)
    (hkey : ∀ a, P a → ∃ x, key a x)
    (hcmp : ∀ {a b x y}, key a x → key b y → cmp a b = .ok (signOf (compare x y))) :
    TotalPreorder P cmp := by
  refine ⟨fun {a b} ha hb => ?_, fun {a b n} ha hb hn => ?_,
    fun {a b c m n} ha hb hc hm hn hm0 hn0 => ?_⟩
  · obtain ⟨x, hx⟩ := hkey a ha
    obtain ⟨y, hy⟩ := hkey b hb
    exact ⟨_, hcmp hx hy⟩
  · obtain ⟨x, hx⟩ := hkey a ha
    obtain ⟨y, hy⟩ := hkey b hb
    obtain rfl : signOf (compare x y) = n := Except.ok.inj ((hcmp hx hy).symm.trans hn)
    have hswap : compare y x = (compare x y).swap := Std.OrientedCmp.eq_swap
    rw [hcmp hy hx, ← signOf_swap, hswap]
  · obtain ⟨x, hx⟩ := hkey a ha
    obtain ⟨y, hy⟩ := hkey b hb
    obtain ⟨z, hz⟩ := hkey c hc
    obtain rfl : signOf (compare x y) = m := Except.ok.inj ((hcmp hx hy).symm.trans hm)
    obtain rfl : signOf (compare y z) = n := Except.ok.inj ((hcmp hy hz).symm.trans hn)
    refine ⟨_, hcmp hx hz, ?_⟩
    rw [signOf_le_zero] at hm0 hn0 ⊢
    exact Std.TransCmp.isLE_trans hm0 hn0

end SqlDesk.Order
