import Mathlib.Data.List.Pairwise
import Mathlib.Data.List.SplitBy
import SqlDesk.Proofs.Order.Stable

/-!
# Sorting by a column in a direction

Items are sorted by a column in a direction and, where that decides nothing, by names. The direction
is that of the column only: in the other one the blocks of items with equal values stand the other
way round, and each block is as it was (`StablySorted.blocks_reverse`).
-/

namespace SqlDesk.Order

variable {ε α : Type}

/-! ## Two orderings in turn -/

section InTurn

variable (order : String) (column name : α → α → Ordering)

/-- An ordering in a direction. -/
def turned (a b : α) : Ordering := if order = "DESC" then column b a else column a b

/-- The ordering by a column in a direction and, where that decides nothing, by names. -/
def inTurn (a b : α) : Ordering := (turned order column a b).then (name a b)

variable {order column name}

theorem turned_desc (a b : α) : turned "DESC" column a b = column b a := if_pos rfl

theorem turned_of_ne (h : order ≠ "DESC") (a b : α) : turned order column a b = column a b :=
  if_neg h

/-- Names alone decide if they are the column too. -/
theorem inTurn_self (h : order ≠ "DESC") (a b : α) : inTurn order name name a b = name a b := by
  unfold inTurn
  rw [turned_of_ne h]
  cases name a b <;> rfl

theorem turned_eq_iff [Std.OrientedCmp column] {a b : α} :
    turned order column a b = .eq ↔ column a b = .eq := by
  unfold turned
  split
  · exact Std.OrientedCmp.eq_comm
  · exact Iff.rfl

theorem inTurn_eq_iff [Std.OrientedCmp column] {a b : α} :
    inTurn order column name a b = .eq ↔ column a b = .eq ∧ name a b = .eq := by
  unfold inTurn
  rw [Ordering.then_eq_eq, turned_eq_iff]

theorem inTurn_isLE_iff [Std.OrientedCmp column] {a b : α} :
    (inTurn order column name a b).isLE = true ↔
      turned order column a b = .lt ∨ column a b = .eq ∧ (name a b).isLE = true := by
  unfold inTurn
  rw [Ordering.isLE_then_iff_or, turned_eq_iff]

instance [Std.TransCmp column] : Std.TransCmp (turned order column) := by
  by_cases h : order = "DESC"
  · have hturned : turned order column = fun a b => column b a :=
      funext fun a => funext fun b => if_pos h
    rw [hturned]
    exact Std.TransCmp.opposite
  · have hturned : turned order column = column :=
      funext fun a => funext fun b => if_neg h
    rw [hturned]
    infer_instance

instance [Std.TransCmp column] [Std.TransCmp name] : Std.TransCmp (inTurn order column name) :=
  inferInstanceAs (Std.TransCmp (compareLex (turned order column) name))

end InTurn

/-! ## Lists in order -/

/-- Items listed by a column in a direction: those with equal values are in ascending order of their
names, and those with equal names too are in the order in which they came. -/
structure Listed (column name : α → α → Ordering) (order : String) (xs ys : List α) : Prop where
  perm : ys.Perm xs
  values : ys.Pairwise fun a b => (turned order column a b).isLE = true
  names : ys.Pairwise fun a b => column a b = .eq → (name a b).isLE = true
  kept : ∀ {a b}, [a, b].Sublist xs → column a b = .eq → name a b = .eq → [a, b].Sublist ys

/-- On a list a comparison is that by a column in a direction and then by names. -/
def ComparesBy (cmp : α → α → Except ε Int) (column name : α → α → Ordering) (order : String)
    (xs : List α) : Prop :=
  ∀ a ∈ xs, ∀ b ∈ xs, cmp a b = .ok (signOf (inTurn order column name a b))

section Listed

variable {column name : α → α → Ordering} {order : String} {cmp : α → α → Except ε Int}
  {xs ys : List α}

theorem signOf_eq_zero {o : Ordering} : signOf o = 0 ↔ o = .eq := by
  cases o <;> decide

section Compares

variable (h : ComparesBy cmp column name order xs)

include h

theorem ComparesBy.atMost_iff {a b : α} (ha : a ∈ xs) (hb : b ∈ xs) :
    AtMost cmp a b ↔ (inTurn order column name a b).isLE = true := by
  unfold AtMost
  rw [h a ha b hb]
  constructor
  · rintro ⟨n, hn, hle⟩
    obtain rfl := Except.ok.inj hn
    exact signOf_le_zero.mp hle
  · intro hle
    exact ⟨_, rfl, signOf_le_zero.mpr hle⟩

theorem StablySorted.pairwise_inTurn (hy : StablySorted cmp xs ys) :
    ys.Pairwise fun a b => (inTurn order column name a b).isLE = true :=
  hy.sorted.imp_of_mem fun {_ _} ha hb hab =>
    (h.atMost_iff (hy.perm.subset ha) (hy.perm.subset hb)).mp hab

variable [Std.TransCmp column]

theorem ComparesBy.eq_zero_iff {a b : α} (ha : a ∈ xs) (hb : b ∈ xs) :
    cmp a b = .ok 0 ↔ column a b = .eq ∧ name a b = .eq := by
  rw [h a ha b hb, Except.ok.injEq, signOf_eq_zero, inTurn_eq_iff]

variable [Std.TransCmp name]

theorem ComparesBy.totalPreorder : TotalPreorder (· ∈ xs) cmp := by
  refine totalPreorder_of_keys (inTurn order column name) (fun a x => a = x ∧ a ∈ xs)
    (fun a ha => ⟨a, rfl, ha⟩) ?_
  rintro a b _ _ ⟨rfl, ha⟩ ⟨rfl, hb⟩
  exact h a ha b hb

theorem StablySorted.listed (hy : StablySorted cmp xs ys) : Listed column name order xs ys := by
  have hpairs := hy.pairwise_inTurn h
  refine ⟨hy.perm, hpairs.imp fun {a b} hab => ?_, hpairs.imp fun {a b} hab heq => ?_,
    fun {a b} hab heq hname => ?_⟩
  · rcases inTurn_isLE_iff.mp hab with hlt | ⟨heq, -⟩
    · rw [hlt]
      rfl
    · rw [turned_eq_iff.mpr heq]
      rfl
  · rcases inTurn_isLE_iff.mp hab with hlt | ⟨-, hname⟩
    · rw [turned_eq_iff.mpr heq] at hlt
      cases hlt
    · exact hname
  · have ha : a ∈ xs := hab.subset List.mem_cons_self
    have hb : b ∈ xs := hab.subset (by simp)
    exact hy.sublist h.totalPreorder (fun _ hx => hx) hab ((h.eq_zero_iff ha hb).mpr ⟨heq, hname⟩)

end Compares

/-! ## Blocks of equal value -/

/-- Turning the blocks of a list round does not show where a predicate holds in at most one. -/
theorem filter_flatten_reverse {p : α → Bool} {runs : List (List α)}
    (h : runs.Pairwise fun l m => ∀ a ∈ l, ∀ b ∈ m, ¬ (p a = true ∧ p b = true)) :
    runs.reverse.flatten.filter p = runs.flatten.filter p := by
  induction runs with
  | nil => rfl
  | cons l runs ih =>
    obtain ⟨hfirst, hrest⟩ := List.pairwise_cons.mp h
    rw [List.reverse_cons, List.flatten_append, List.flatten_singleton, List.flatten_cons,
      List.filter_append, List.filter_append, ih hrest]
    by_cases hl : l.filter p = []
    · rw [hl, List.append_nil, List.nil_append]
    · have hnone : runs.flatten.filter p = [] := by
        obtain ⟨a, ha⟩ := List.exists_mem_of_ne_nil _ hl
        obtain ⟨ha, hpa⟩ := List.mem_filter.mp ha
        refine List.filter_eq_nil_iff.mpr fun b hb hpb => ?_
        obtain ⟨m, hm, hb⟩ := List.mem_flatten.mp hb
        exact hfirst m hm a ha b hb ⟨hpa, hpb⟩
      rw [hnone, List.append_nil, List.nil_append]

/-- The longest runs of neighbours that are equal in a column. -/
def blocks (column : α → α → Ordering) (xs : List α) : List (List α) :=
  xs.splitBy fun a b => column a b == .eq

variable [Std.TransCmp column]

theorem eq_of_mem_blocks {block : List α} (h : block ∈ blocks column xs) :
    block.Pairwise fun a b => column a b = .eq := by
  have htrans : Trans (fun a b => column a b = .eq) (fun a b => column a b = .eq)
      fun a b => column a b = .eq := ⟨Std.TransCmp.eq_trans⟩
  refine List.isChain_iff_pairwise.mp ((List.isChain_of_mem_splitBy h).imp fun {a b} hab => ?_)
  exact beq_iff_eq.mp hab

/-- If neighbouring runs of a sorted list are not equal where they meet, then every item is below
all those of later runs. -/
theorem pairwise_lt_of_flatten {runs : List (List α)}
    (hsorted : runs.flatten.Pairwise fun a b => (column a b).isLE = true)
    (hmeet : runs.IsChain fun l m => ∃ hl hm, column (l.getLast hl) (m.head hm) ≠ .eq) :
    runs.Pairwise fun l m => ∀ a ∈ l, ∀ b ∈ m, column a b = .lt := by
  have hrefl : Std.Refl fun a b : α => (column a b).isLE = true := ⟨fun _ => Std.ReflCmp.isLE_rfl⟩
  induction runs with
  | nil => exact .nil
  | cons l runs ih =>
    rw [List.flatten_cons, List.pairwise_append] at hsorted
    obtain ⟨hfirst, hrest, hacross⟩ := hsorted
    refine List.pairwise_cons.mpr ⟨fun m hm a ha b hb => ?_, ih hrest hmeet.tail⟩
    cases runs with
    | nil => cases hm
    | cons next runs =>
      obtain ⟨⟨hl, hnext, hne⟩, -⟩ := List.isChain_cons_cons.mp hmeet
      have hlast : (column a (l.getLast hl)).isLE = true := hfirst.rel_getLast ha
      have hhead : (column (next.head hnext) b).isLE = true := by
        have hmem : b ∈ (next :: runs).flatten := List.mem_flatten_of_mem hm hb
        have hrel := hrest.rel_head hmem
        rwa [List.head_flatten_eq_head_head] at hrel
      have hstep : column (l.getLast hl) (next.head hnext) = .lt := by
        have hle := hacross _ (List.getLast_mem hl) (next.head hnext)
          (List.mem_flatten_of_mem List.mem_cons_self (List.head_mem hnext))
        exact (Ordering.isLE_iff_eq_lt_or_eq_eq.mp hle).resolve_right hne
      exact Std.TransCmp.lt_of_lt_of_isLE (Std.TransCmp.lt_of_isLE_of_lt hlast hstep) hhead

theorem blocks_pairwise_lt (h : xs.Pairwise fun a b => (column a b).isLE = true) :
    (blocks column xs).Pairwise fun l m => ∀ a ∈ l, ∀ b ∈ m, column a b = .lt := by
  refine pairwise_lt_of_flatten (by rwa [blocks, List.flatten_splitBy]) ?_
  refine (List.isChain_getLast_head_splitBy _ xs).imp fun {l m} hmeet => ?_
  obtain ⟨hl, hm, hne⟩ := hmeet
  exact ⟨hl, hm, beq_eq_false_iff_ne.mp hne⟩

/-- In the other direction the blocks of equal value stand the other way round, and each of them is
as it was. -/
theorem StablySorted.blocks_reverse [Std.TransCmp name] {cmp' : α → α → Except ε Int}
    (hasc : ComparesBy cmp column name "ASC" xs) (hdesc : ComparesBy cmp' column name "DESC" xs)
    (hy : StablySorted cmp xs ys) :
    StablySorted cmp' xs (blocks column ys).reverse.flatten := by
  have hflat : (blocks column ys).flatten = ys := List.flatten_splitBy _ ys
  have hup : ys.Pairwise fun a b => (column a b).isLE = true := (hy.listed hasc).values
  have hbelow := blocks_pairwise_lt hup
  have hperm : (blocks column ys).reverse.flatten.Perm xs := by
    refine ((List.reverse_perm _).flatten).trans ?_
    rw [hflat]
    exact hy.perm
  have hmem {a : α} (ha : a ∈ ys) : a ∈ xs := hy.perm.subset ha
  have hblock {l : List α} (hl : l ∈ blocks column ys) {a : α} (ha : a ∈ l) : a ∈ ys :=
    hflat ▸ List.mem_flatten_of_mem hl ha
  refine ⟨hperm, List.pairwise_flatten.mpr ⟨fun l hl => ?_, ?_⟩, fun p hp => ?_⟩
  · -- in a block only names count
    rw [List.mem_reverse] at hl
    have hnames : l.Pairwise fun a b => column a b = .eq → (name a b).isLE = true := by
      have hall := (hy.listed hasc).names
      rw [← hflat] at hall
      exact (List.pairwise_flatten.mp hall).1 l hl
    refine ((eq_of_mem_blocks hl).and hnames).imp_of_mem fun {a b} ha hb hab => ?_
    refine (hdesc.atMost_iff (hmem (hblock hl ha)) (hmem (hblock hl hb))).mpr ?_
    exact inTurn_isLE_iff.mpr (.inr ⟨hab.1, hab.2 hab.1⟩)
  · -- a later block is above
    rw [List.pairwise_reverse]
    refine hbelow.imp_of_mem fun {l m} hl hm hlt a ha b hb => ?_
    refine (hdesc.atMost_iff (hmem (hblock hm ha)) (hmem (hblock hl hb))).mpr ?_
    exact inTurn_isLE_iff.mpr (.inl ((turned_desc a b).trans (hlt b hb a ha)))
  · have htied : Tied cmp xs p := fun a ha b hb hpa hpb =>
      (hasc.eq_zero_iff ha hb).mpr ((hdesc.eq_zero_iff ha hb).mp (hp a ha b hb hpa hpb))
    rw [filter_flatten_reverse, hflat, hy.stable p htied]
    refine hbelow.imp_of_mem fun {l m} hl hm hlt a ha b hb hpab => ?_
    have hzero := htied a (hmem (hblock hl ha)) b (hmem (hblock hm hb)) hpab.1 hpab.2
    have heq := ((hasc.eq_zero_iff (hmem (hblock hl ha)) (hmem (hblock hm hb))).mp hzero).1
    rw [hlt a ha b hb] at heq
    cases heq

end Listed

end SqlDesk.Order
