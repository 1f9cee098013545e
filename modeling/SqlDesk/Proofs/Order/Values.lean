import SqlDesk.Order.Listing
import SqlDesk.Proofs.Order.Numbers
import SqlDesk.Proofs.Order.Texts

/-!
# The order of metadata values

Two numbers are compared as numbers and everything else as texts, so the order of values that can be
sorted is made of two. Values are a total preorder unless the two cross: a value that is no number
stands between two numbers, which are in one order as numbers and in the other as texts.
-/

namespace SqlDesk

open SqlDesk.Order Text

namespace Order

/-- Null, an integer or a text that can be sorted: the number that it denotes can be read, if it
denotes one, and its text has a key. -/
structure Sortable (natural : Bool) (v : Value) : Prop where
  kind : v = .null ∨ (∃ n, v = .int n) ∨ ∃ s, v = .text s
  number : ∃ x, v.toNumber = .ok x
  key : ∃ k, textKey natural v = .ok k

/-- Numbers are a total preorder. -/
theorem compare_totalPreorder :
    TotalPreorder Num.Placed fun m n => (.ok (m.compare n) : Except Fault Int) := by
  let key (n : Num) (place : WithBot (WithTop ℚ)) : Prop := n.Placed ∧ n.exact.place = place
  refine totalPreorder_of_keys Ord.compare key (fun n hn => ⟨_, hn, rfl⟩) ?_
  rintro m n _ _ ⟨hm, rfl⟩ ⟨hn, rfl⟩
  rw [Num.compare_eq hm hn]

/-! ## Values that can be sorted -/

section Sortable

variable {natural : Bool} {a b : Value}

theorem Sortable.placed (ha : Sortable natural a) {n : Num} (h : a.toNumber = .ok (some n)) :
    n.Placed := by
  rcases ha.kind with rfl | ⟨k, rfl⟩ | ⟨s, rfl⟩
  · cases h
  · obtain rfl := Option.some.inj (Except.ok.inj h)
    exact Num.placed_int k
  · exact placed_of_numberOfText h

/-- A number is not written as nothing. -/
theorem Sortable.comparedText_ne (ha : Sortable natural a) {n : Num}
    (h : a.toNumber = .ok (some n)) : comparedText a ≠ "" := by
  rcases ha.kind with rfl | ⟨k, rfl⟩ | ⟨s, rfl⟩
  · cases h
  · show toString k ≠ ""
    cases k with
    | ofNat k => exact fun hempty => Nat.repr_ne_empty hempty
    | negSucc k => exact fun hempty => absurd (congrArg String.toList hempty) (by simp [Int.repr])
  · rintro hempty
    obtain rfl : s = "" := hempty
    cases h

theorem compareValues_of_numbers {m n : Num} (ha : a.toNumber = .ok (some m))
    (hb : b.toNumber = .ok (some n)) : compareValues a b natural = .ok (m.compare n) := by
  unfold compareValues
  rw [ha, hb]
  rfl

/-- Values of which one is no number are compared as texts, null as an empty one. -/
theorem compareValues_of_texts (ha : Sortable natural a) (hb : Sortable natural b)
    (h : a.toNumber = .ok none ∨ b.toNumber = .ok none) :
    compareValues a b natural = compareTexts a b natural := by
  have htexts := compareTexts_totalPreorder natural
  obtain ⟨x, hx⟩ := ha.number
  obtain ⟨y, hy⟩ := hb.number
  have hnull {v : Value} (hv : isNull v = true) : v = .null := by
    cases v <;> first | rfl | cases hv
  have hrun : compareValues a b natural =
      if isNull a && isNull b then .ok 0
      else if isNull a && y.isSome then .ok (-1)
      else if x.isSome && isNull b then .ok 1
      else compareTexts a b natural := by
    unfold compareValues
    rw [hx, hy]
    rcases h with h | h
    · obtain rfl := Except.ok.inj (hx.symm.trans h)
      rfl
    · obtain rfl := Except.ok.inj (hy.symm.trans h)
      rcases x with _ | m <;> rfl
  rw [hrun]
  split
  · rename_i hboth
    obtain ⟨hnulla, hnullb⟩ := Bool.and_eq_true_iff.mp hboth
    rw [hnull hnulla] at ha ⊢
    rw [hnull hnullb]
    exact (htexts.refl ha.key).symm
  · split
    · rename_i hnumber
      obtain ⟨hnulla, hsome⟩ := Bool.and_eq_true_iff.mp hnumber
      obtain ⟨n, rfl⟩ := Option.isSome_iff_exists.mp hsome
      obtain rfl := hnull hnulla
      exact (compareTexts_empty rfl (hb.comparedText_ne hy) hb.key).symm
    · split
      · rename_i hnumber
        obtain ⟨hsome, hnullb⟩ := Bool.and_eq_true_iff.mp hnumber
        obtain ⟨m, rfl⟩ := Option.isSome_iff_exists.mp hsome
        obtain rfl := hnull hnullb
        have hbelow := compareTexts_empty (a := .null) rfl (ha.comparedText_ne hx) ha.key
        exact (htexts.swap hb.key ha.key hbelow).symm
      · rfl

theorem Sortable.read (ha : Sortable natural a) :
    a.toNumber = .ok none ∨ ∃ n, a.toNumber = .ok (some n) := by
  obtain ⟨_ | n, hn⟩ := ha.number
  · exact .inl hn
  · exact .inr ⟨n, hn⟩

/-- Two values are compared as numbers or as texts. -/
theorem compareValues_cases (ha : Sortable natural a) (hb : Sortable natural b) :
    (∃ m n, a.toNumber = .ok (some m) ∧ b.toNumber = .ok (some n)) ∨
      (a.toNumber = .ok none ∨ b.toNumber = .ok none) := by
  rcases ha.read with hnone | ⟨m, hm⟩
  · exact .inr (.inl hnone)
  · rcases hb.read with hnone | ⟨n, hn⟩
    · exact .inr (.inr hnone)
    · exact .inl ⟨m, n, hm, hn⟩

theorem compareValues_returns (ha : Sortable natural a) (hb : Sortable natural b) :
    ∃ k, compareValues a b natural = .ok k := by
  rcases compareValues_cases ha hb with ⟨m, n, hm, hn⟩ | hnone
  · exact ⟨_, compareValues_of_numbers hm hn⟩
  · rw [compareValues_of_texts ha hb hnone]
    exact (compareTexts_totalPreorder natural).returns ha.key hb.key

theorem compareValues_swap (ha : Sortable natural a) (hb : Sortable natural b) {k : Int}
    (h : compareValues a b natural = .ok k) : compareValues b a natural = .ok (-k) := by
  rcases compareValues_cases ha hb with ⟨m, n, hm, hn⟩ | hnone
  · rw [compareValues_of_numbers hm hn] at h
    rw [compareValues_of_numbers hn hm]
    exact compare_totalPreorder.swap (ha.placed hm) (hb.placed hn) h
  · rw [compareValues_of_texts ha hb hnone] at h
    rw [compareValues_of_texts hb ha hnone.symm]
    exact (compareTexts_totalPreorder natural).swap ha.key hb.key h

end Sortable

/-! ## Numbers among texts -/

section Crossing

variable {natural : Bool} {V : Value → Prop}

/-- The order of numbers and the order of texts cross among values: they go round in a circle, from
a number to one that is not below it, on to the text of a value that is no number, and on to the
text of the first. Not all of them are beside each other. -/
def Crossing (natural : Bool) (V : Value → Prop) : Prop :=
  ∃ x y t, V x ∧ V y ∧ V t ∧ t.toNumber = .ok none ∧
    ∃ m n, x.toNumber = .ok (some m) ∧ y.toNumber = .ok (some n) ∧ m.compare n ≤ 0 ∧
      ∃ i j, compareTexts y t natural = .ok i ∧ i ≤ 0 ∧
        compareTexts t x natural = .ok j ∧ j ≤ 0 ∧ ¬ (m.compare n = 0 ∧ i = 0 ∧ j = 0)

variable (hV : ∀ v, V v → Sortable natural v)

include hV

theorem not_crossing_of_totalPreorder
    (h : TotalPreorder V fun a b => compareValues a b natural) : ¬ Crossing natural V := by
  rintro ⟨x, y, t, hx, hy, ht, hnone, m, n, hm, hn, hmn, i, j, hi, hi0, hj, hj0, hties⟩
  have hxy : compareValues x y natural = .ok (m.compare n) := compareValues_of_numbers hm hn
  have hyt : compareValues y t natural = .ok i :=
    (compareValues_of_texts (hV y hy) (hV t ht) (.inr hnone)).trans hi
  have htx : compareValues t x natural = .ok j :=
    (compareValues_of_texts (hV t ht) (hV x hx) (.inl hnone)).trans hj
  -- each is at most the one before it, by way of the third
  have hxy0 := h.eq_zero_of_atMost hx hy ⟨_, hxy, hmn⟩ (h.trans hy ht hx hyt htx hi0 hj0)
  have hyt0 := h.eq_zero_of_atMost hy ht ⟨_, hyt, hi0⟩ (h.trans ht hx hy htx hxy hj0 hmn)
  have htx0 := h.eq_zero_of_atMost ht hx ⟨_, htx, hj0⟩ (h.trans hx hy ht hxy hyt hmn hi0)
  exact hties ⟨Except.ok.inj (hxy.symm.trans hxy0), Except.ok.inj (hyt.symm.trans hyt0),
    Except.ok.inj (htx.symm.trans htx0)⟩

/-- Without a crossing a circle of two numbers and a value that is none is flat. -/
theorem flat_of_not_crossing (hcross : ¬ Crossing natural V) {x y t : Value} (hx : V x) (hy : V y)
    (ht : V t) (hnone : t.toNumber = .ok none) {m n : Num} (hm : x.toNumber = .ok (some m))
    (hn : y.toNumber = .ok (some n)) {i j l : Int} (hxy : compareValues x y natural = .ok i)
    (hyt : compareValues y t natural = .ok j) (htx : compareValues t x natural = .ok l)
    (hi : i ≤ 0) (hj : j ≤ 0) (hl : l ≤ 0) : i = 0 ∧ j = 0 ∧ l = 0 := by
  rw [compareValues_of_numbers hm hn] at hxy
  obtain rfl := Except.ok.inj hxy
  rw [compareValues_of_texts (hV y hy) (hV t ht) (.inr hnone)] at hyt
  rw [compareValues_of_texts (hV t ht) (hV x hx) (.inl hnone)] at htx
  by_contra hsome
  exact hcross ⟨x, y, t, hx, hy, ht, hnone, m, n, hm, hn, hi, j, l, hyt, hj, htx, hl, hsome⟩

/-- Without a crossing every circle of three values is flat. -/
theorem circle_of_not_crossing (hcross : ¬ Crossing natural V) {a b c : Value} (ha : V a)
    (hb : V b) (hc : V c) {i j l : Int} (hab : compareValues a b natural = .ok i)
    (hbc : compareValues b c natural = .ok j) (hca : compareValues c a natural = .ok l)
    (hi : i ≤ 0) (hj : j ≤ 0) (hl : l ≤ 0) : l = 0 := by
  have hflat := @flat_of_not_crossing natural V hV hcross
  have htextual (hnone : (a.toNumber = .ok none ∨ b.toNumber = .ok none) ∧
      (b.toNumber = .ok none ∨ c.toNumber = .ok none) ∧
      (c.toNumber = .ok none ∨ a.toNumber = .ok none)) : l = 0 := by
    rw [compareValues_of_texts (hV a ha) (hV b hb) hnone.1] at hab
    rw [compareValues_of_texts (hV b hb) (hV c hc) hnone.2.1] at hbc
    rw [compareValues_of_texts (hV c hc) (hV a ha) hnone.2.2] at hca
    have htexts := compareTexts_totalPreorder natural
    have hzero := htexts.eq_zero_of_atMost (hV c hc).key (hV a ha).key ⟨l, hca, hl⟩
      (htexts.trans (hV a ha).key (hV b hb).key (hV c hc).key hab hbc hi hj)
    exact Except.ok.inj (hca.symm.trans hzero)
  -- with two numbers the circle starts at the first of them
  rcases (hV a ha).read with hnonea | ⟨m, hm⟩ <;> rcases (hV b hb).read with hnoneb | ⟨n, hn⟩ <;>
    rcases (hV c hc).read with hnonec | ⟨k, hk⟩
  · exact htextual ⟨.inl hnonea, .inl hnoneb, .inl hnonec⟩
  · exact htextual ⟨.inl hnonea, .inl hnoneb, .inr hnonea⟩
  · exact htextual ⟨.inl hnonea, .inr hnonec, .inl hnonec⟩
  · exact (hflat hb hc ha hnonea hn hk hbc hca hab hj hl hi).2.1
  · exact htextual ⟨.inr hnoneb, .inl hnoneb, .inl hnonec⟩
  · exact (hflat hc ha hb hnoneb hk hm hca hab hbc hl hi hj).1
  · exact (hflat ha hb hc hnonec hm hn hab hbc hca hi hj hl).2.2
  · rw [compareValues_of_numbers hm hn] at hab
    rw [compareValues_of_numbers hn hk] at hbc
    rw [compareValues_of_numbers hk hm] at hca
    have hm' := (hV a ha).placed hm
    have hn' := (hV b hb).placed hn
    have hk' := (hV c hc).placed hk
    have hzero := compare_totalPreorder.eq_zero_of_atMost hk' hm' ⟨l, hca, hl⟩
      (compare_totalPreorder.trans hm' hn' hk' hab hbc hi hj)
    exact Except.ok.inj (hca.symm.trans hzero)

/-- Values that can be sorted are a total preorder if and only if the two orders do not cross. -/
theorem compareValues_totalPreorder_iff :
    TotalPreorder V (fun a b => compareValues a b natural) ↔ ¬ Crossing natural V := by
  refine ⟨not_crossing_of_totalPreorder hV, fun hcross => ⟨?_, ?_, ?_⟩⟩
  · exact fun ha hb => compareValues_returns (hV _ ha) (hV _ hb)
  · exact fun ha hb => compareValues_swap (hV _ ha) (hV _ hb)
  · intro a b c i j ha hb hc hi hj hi0 hj0
    obtain ⟨k, hk⟩ := compareValues_returns (hV a ha) (hV c hc)
    refine ⟨k, hk, ?_⟩
    by_contra hpos
    have hback := compareValues_swap (hV a ha) (hV c hc) hk
    have hflat := circle_of_not_crossing hV hcross ha hb hc hi hj hback hi0 hj0 (by omega)
    omega

/-- Values of which each is a number, or is written as nothing, do not cross. -/
theorem not_crossing_of_figures
    (h : ∀ v, V v → v.toNumber = .ok none → comparedText v = "") : ¬ Crossing natural V := by
  rintro ⟨x, y, t, -, hy, ht, hnone, m, n, -, hn, -, i, j, hi, hi0, -⟩
  have hbelow := compareTexts_empty (h t ht hnone) ((hV y hy).comparedText_ne hn) (hV y hy).key
  have hswap := (compareTexts_totalPreorder natural).swap (hV t ht).key (hV y hy).key hbelow
  obtain rfl : i = - -1 := Except.ok.inj (hi.symm.trans hswap)
  exact absurd hi0 (by decide)

end Crossing

end Order

end SqlDesk
