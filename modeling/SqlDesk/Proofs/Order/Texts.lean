import Mathlib.Data.List.Basic
import SqlDesk.Proofs.Order.Preorder
import SqlDesk.Proofs.Text.Lower

/-!
# The order of texts

Texts are compared by keys: their chunks in natural order, and otherwise themselves in lower case.
The keys of either order are compared chunk by chunk, so texts with keys are a total preorder. The
empty text, which stands for null too, is below all others.
-/

namespace SqlDesk.Order

open Text

/-! ## The order of keys -/

theorem compareChars_eq (as bs : List Char) :
    compareChars as bs = List.compareLex (compareOn Char.toNat) as bs := by
  induction as generalizing bs with
  | nil => cases bs <;> rfl
  | cons a as ih =>
    cases bs with
    | nil => rfl
    | cons b bs =>
      rw [compareChars, List.compareLex_cons_cons, ih]
      show _ = (compareOfLessAndEq a.toNat b.toNat).then _
      unfold compareOfLessAndEq
      by_cases hlt : a.toNat < b.toNat
      · rw [if_pos hlt, if_pos hlt]
        rfl
      · by_cases heq : a.toNat = b.toNat
        · rw [if_neg hlt, if_neg hlt, if_neg (by omega), if_pos heq]
          rfl
        · rw [if_neg hlt, if_neg hlt, if_pos (by omega), if_neg heq]
          rfl

instance : Std.TransCmp compareChars := by
  have heq : compareChars = List.compareLex (compareOn Char.toNat) :=
    funext fun as => funext fun bs => compareChars_eq as bs
  rw [heq]
  infer_instance

instance : Std.OrientedCmp Chunk.compare where
  eq_swap {a b} := by
    cases a with
    | number m =>
      cases b with
      | number n => exact (Std.OrientedOrd.eq_swap : compare m n = (compare n m).swap)
      | text => rfl
    | text as =>
      cases b with
      | number => rfl
      | text bs =>
        have hswap : compareChars as bs = (compareChars bs as).swap := Std.OrientedCmp.eq_swap
        exact hswap

instance : Std.TransCmp Chunk.compare where
  isLE_trans {a b c} hab hbc := by
    cases a with
    | number m =>
      cases c with
      | number k =>
        cases b with
        | number n =>
          have hmk : (compare m k).isLE = true := Std.TransCmp.isLE_trans hab hbc
          exact hmk
        | text => cases hbc
      | text => rfl
    | text as =>
      cases b with
      | number => cases hab
      | text bs =>
        cases c with
        | number => cases hbc
        | text cs =>
          have hac : (compareChars as cs).isLE = true := Std.TransCmp.isLE_trans hab hbc
          exact hac

theorem compareKeys_eq (as bs : List Chunk) :
    compareKeys as bs = List.compareLex Chunk.compare as bs := by
  induction as generalizing bs with
  | nil => cases bs <;> rfl
  | cons a as ih =>
    cases bs with
    | nil => rfl
    | cons b bs => rw [compareKeys, List.compareLex_cons_cons, ih]

instance : Std.TransCmp compareKeys := by
  have heq : compareKeys = List.compareLex Chunk.compare :=
    funext fun as => funext fun bs => compareKeys_eq as bs
  rw [heq]
  infer_instance

/-! ## The keys of values -/

/-- The key by which a value is compared as a text: in natural order its chunks, and otherwise all of
it in lower case. -/
def textKey (natural : Bool) (v : Value) : Except Fault (List Chunk) :=
  if natural then naturalKey (comparedText v)
  else .ok [.text (lowerList (comparedText v).toList)]

theorem compareTexts_of_keys {natural : Bool} {a b : Value} {x y : List Chunk}
    (hx : textKey natural a = .ok x) (hy : textKey natural b = .ok y) :
    compareTexts a b natural = .ok (signOf (compareKeys x y)) := by
  unfold textKey at hx hy
  unfold compareTexts
  cases natural
  · rw [if_neg Bool.false_ne_true] at hx hy ⊢
    obtain rfl := Except.ok.inj hx
    obtain rfl := Except.ok.inj hy
    -- a key of one chunk is compared like the chunk
    have hone (as bs : List Char) : compareKeys [.text as] [.text bs] = compareChars as bs := by
      show (compareChars as bs).then .eq = _
      cases compareChars as bs <;> rfl
    rw [hone]
  · rw [if_pos rfl] at hx hy ⊢
    rw [hx, hy]
    rfl

/-- Texts with keys are a total preorder. -/
theorem compareTexts_totalPreorder (natural : Bool) :
    TotalPreorder (fun v => ∃ k, textKey natural v = .ok k)
      fun a b => compareTexts a b natural :=
  totalPreorder_of_keys compareKeys (fun v k => textKey natural v = .ok k) (fun _ h => h)
    compareTexts_of_keys

theorem lowerList_eq_nil_iff {cs : List Char} : lowerList cs = [] ↔ cs = [] := by
  cases cs with
  | nil => exact iff_of_true rfl rfl
  | cons c cs =>
    refine iff_of_false (fun h => ?_) (List.cons_ne_nil c cs)
    obtain ⟨hfirst, -⟩ := List.append_eq_nil_iff.mp h
    split at hfirst
    · split at hfirst <;> cases hfirst
    · exact lowerChar_ne_nil c hfirst

theorem runs_eq_nil_iff {cs : List Char} : runs cs = [] ↔ cs = [] := by
  cases cs with
  | nil => exact iff_of_true rfl rfl
  | cons c cs =>
    refine iff_of_false (fun h => ?_) (List.cons_ne_nil c cs)
    rw [runs] at h
    split at h
    · split at h <;> cases h
    · cases h

/-- The empty text is below every other one. -/
theorem compareTexts_empty {natural : Bool} {a b : Value} (ha : comparedText a = "")
    (hb : comparedText b ≠ "") (hkey : ∃ k, textKey natural b = .ok k) :
    compareTexts a b natural = .ok (-1) := by
  obtain ⟨k, hk⟩ := hkey
  have hchars : (comparedText b).toList ≠ [] := by simpa using hb
  have hempty : textKey natural a = .ok (if natural then [] else [.text []]) := by
    unfold textKey
    rw [ha]
    cases natural <;> rfl
  rw [compareTexts_of_keys hempty hk]
  unfold textKey at hk
  cases natural
  · rw [if_neg Bool.false_ne_true] at hk
    obtain rfl := Except.ok.inj hk
    rcases hlower : lowerList (comparedText b).toList with _ | ⟨c, cs⟩
    · exact absurd (lowerList_eq_nil_iff.mp hlower) hchars
    · rfl
  · rw [if_pos rfl] at hk
    rcases k with _ | ⟨chunk, k⟩
    · have hruns := Except.mapM_eq_ok.mp hk
      rw [List.forall₂_nil_right_iff] at hruns
      exact absurd (lowerList_eq_nil_iff.mp (runs_eq_nil_iff.mp hruns)) hchars
    · rfl

end SqlDesk.Order
