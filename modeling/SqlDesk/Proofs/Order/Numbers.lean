import Mathlib.Algebra.Order.Field.Rat
import Mathlib.Order.WithBot
import Mathlib.Order.Compare
import SqlDesk.Proofs.Order.Preorder
import SqlDesk.Value.Number

/-!
# The order of numbers

Integers and floating point numbers are compared by their exact values, which are quotients and the
two infinities. Only a float that is not a number has no place in that order, and none is ever read
from a text.
-/

namespace SqlDesk

open Number SqlDesk.Order Text

/-! ## Places of exact values -/

/-- An exact value that has a place in the order of numbers. -/
def Exact.Placed : Exact → Prop
  | .finite _ p => 0 < p
  | .infinite _ => True
  | .undefined => False

/-- The place of an exact value among the quotients and the infinities. -/
def Exact.place : Exact → WithBot (WithTop ℚ)
  | .finite m p => ((m / p : ℚ) : WithTop ℚ)
  | .infinite neg => if neg then ⊥ else ((⊤ : WithTop ℚ) : WithBot (WithTop ℚ))
  | .undefined => ⊥

theorem Exact.place_lt {m n : Int} {p q : Nat} (hp : 0 < p) (hq : 0 < q) :
    (finite m p).place < (finite n q).place ↔ m * q < n * p := by
  have hp' : (0 : ℚ) < p := by exact_mod_cast hp
  have hq' : (0 : ℚ) < q := by exact_mod_cast hq
  unfold place
  rw [WithBot.coe_lt_coe, WithTop.coe_lt_coe, div_lt_div_iff₀ hp' hq']
  exact_mod_cast Iff.rfl

theorem Exact.place_eq {m n : Int} {p q : Nat} (hp : 0 < p) (hq : 0 < q) :
    (finite m p).place = (finite n q).place ↔ m * q = n * p := by
  have hp' : (p : ℚ) ≠ 0 := by exact_mod_cast hp.ne'
  have hq' : (q : ℚ) ≠ 0 := by exact_mod_cast hq.ne'
  unfold place
  rw [WithBot.coe_inj, WithTop.coe_inj, div_eq_div_iff hp' hq']
  exact_mod_cast Iff.rfl

/-- Exact values are compared by their places. -/
theorem Exact.compare?_eq {x y : Exact} (hx : x.Placed) (hy : y.Placed) :
    x.compare? y = some (compare x.place y.place) := by
  cases x with
  | undefined => cases hx
  | infinite a =>
    cases y with
    | undefined => cases hy
    | infinite b => cases a <;> cases b <;> rfl
    | finite n q => cases a <;> rfl
  | finite m p =>
    cases y with
    | undefined => cases hy
    | infinite b => cases b <;> rfl
    | finite n q =>
      show some (compare (m * q : Int) (n * p)) = _
      rcases lt_trichotomy (m * q : Int) (n * p) with h | h | h
      · rw [compare_lt_iff_lt.mpr h, compare_lt_iff_lt.mpr ((place_lt hx hy).mpr h)]
      · rw [compare_eq_iff_eq.mpr h, compare_eq_iff_eq.mpr ((place_eq hx hy).mpr h)]
      · rw [compare_gt_iff_gt.mpr h, compare_gt_iff_gt.mpr ((place_lt hy hx).mpr h)]

/-! ## Numbers that are read -/

/-- A number that has a place in the order of numbers. -/
def Num.Placed (n : Num) : Prop := n.exact.Placed

theorem Num.placed_int (n : Int) : (Num.int n).Placed := Nat.one_pos

theorem Num.placed_float {x : Binary64} (h : x.view ≠ .nan) : (Num.float x).Placed := by
  show (Exact.ofFloat x).Placed
  unfold Exact.ofFloat
  rcases hview : x.view with ⟨neg, m, q⟩ | neg | _
  · exact Nat.two_pow_pos (-q).toNat
  · trivial
  · exact absurd hview h

/-- Numbers are compared by their places. -/
theorem Num.compare_eq {a b : Num} (ha : a.Placed) (hb : b.Placed) :
    a.compare b = signOf (Ord.compare a.exact.place b.exact.place) := by
  unfold Num.compare
  rw [Exact.compare?_eq ha hb]
  rcases Ord.compare a.exact.place b.exact.place with _ | _ | _ <;> rfl

namespace Number.Binary64

/-- A pattern up to that of an infinity is a number. -/
theorem view_ne_nan {k : Nat} (hk : k ≤ 0x7FF0000000000000) (neg : Bool) :
    view ⟨UInt64.ofNat (signOffset neg + k)⟩ ≠ .nan := by
  have hbits : (UInt64.ofNat (signOffset neg + k)).toNat = signOffset neg + k := by
    have hsign : signOffset neg ≤ 2 ^ 63 := by cases neg <;> decide
    refine UInt64.toNat_ofNat_of_lt' (lt_of_le_of_lt (Nat.add_le_add hsign hk) ?_)
    decide
  have hhigh : (signOffset neg + k) / 2 ^ 52 % 2048 = k / 2 ^ 52 := by
    cases neg
    · show (0 + k) / 2 ^ 52 % 2048 = k / 2 ^ 52
      omega
    · show (2 ^ 63 + k) / 2 ^ 52 % 2048 = k / 2 ^ 52
      omega
  have hlow : (signOffset neg + k) % 2 ^ 52 = k % 2 ^ 52 := by
    cases neg
    · show (0 + k) % 2 ^ 52 = k % 2 ^ 52
      omega
    · show (2 ^ 63 + k) % 2 ^ 52 = k % 2 ^ 52
      omega
  unfold view
  dsimp only
  rw [hbits, hhigh, hlow]
  split
  · -- only an infinity has the greatest exponent
    rw [if_pos (by omega)]
    nofun
  · split <;> nofun

theorem view_zero_ne_nan (neg : Bool) : (zero neg).view ≠ .nan :=
  view_ne_nan (Nat.zero_le _) neg

theorem view_infinity_ne_nan (neg : Bool) : (infinity neg).view ≠ .nan :=
  view_ne_nan (Nat.le_refl _) neg

theorem view_ofRatio_ne_nan (neg : Bool) (num den : Nat) : (ofRatio neg num den).view ≠ .nan := by
  unfold ofRatio
  by_cases hnum : num = 0
  · rw [if_pos hnum]
    exact view_zero_ne_nan neg
  · rw [if_neg hnum]
    extract_lets q m magnitude
    by_cases hlarge : 0x7FF0000000000000 ≤ magnitude
    · rw [if_pos hlarge]
      exact view_infinity_ne_nan neg
    · rw [if_neg hlarge]
      exact view_ne_nan (Nat.le_of_not_le hlarge) neg

theorem view_ofScientific_ne_nan (neg : Bool) (mant : Nat) (exp : Int) :
    (ofScientific neg mant exp).view ≠ .nan := by
  unfold ofScientific
  split
  · exact view_zero_ne_nan neg
  · split
    · exact view_infinity_ne_nan neg
    · split
      · exact view_zero_ne_nan neg
      · exact view_ofRatio_ne_nan neg _ _

end Number.Binary64

theorem view_ne_nan_of_fraction? {neg : Bool} {cs : List Char} {x : Binary64}
    (h : fraction? neg cs = some x) : x.view ≠ .nan := by
  unfold fraction? at h
  dsimp only at h
  split at h
  · split at h
    · cases h
    · obtain ⟨e, -, rfl⟩ := Option.map_eq_some_iff.mp h
      exact Binary64.view_ofScientific_ne_nan neg _ _
  · cases h

/-- A number that a text denotes has a place in the order. -/
theorem placed_of_numberOfText {cs : List Char} {n : Num} (h : numberOfText cs = .ok (some n)) :
    n.Placed := by
  unfold numberOfText at h
  dsimp only at h
  split at h
  · obtain ⟨k, -, h⟩ := Except.bind_eq_ok.mp h
    obtain rfl := Option.some.inj (Except.ok.inj h)
    exact Num.placed_int _
  · obtain ⟨x, hx, rfl⟩ := Option.map_eq_some_iff.mp (Except.ok.inj h)
    exact Num.placed_float (view_ne_nan_of_fraction? hx)

end SqlDesk
