import Mathlib.Data.Rat.Cast.Order
import SqlDesk.Proofs.Order.Figures
import SqlDesk.Proofs.Text.Numeral
import SqlDesk.Proofs.Text.Utf8

/-!
# Integers however they are written

A server sends an integer as one, as a text, as the bytes of a text or as a decimal. Each of these is
read as that integer, however large, so integers are compared alike in all pairings, and null is
below all of them.
-/

namespace SqlDesk

open Number SqlDesk.Order Text

/-! ## Reading -/

theorem numberOfText_of_spells {n : Int} {cs : List Char} (h : Spells n cs) :
    numberOfText cs = .ok (some (.int n)) := by
  obtain ⟨before, sign, ds, after, m, rfl, hbefore, hafter, hsign, hnumeral, hshort⟩ := h
  have hds : Digits ds := hnumeral.digits
  obtain ⟨neg, hspan, hvalue⟩ := spanSign_of_signed hsign hds
  have hread : readDigits ds = .ok m := by
    unfold readDigits
    rw [if_neg (Nat.not_lt.mpr hshort), hnumeral.digitsValue_eq]
  unfold numberOfText
  rw [strip_spelled hbefore hafter hsign hds, hspan]
  dsimp only
  rw [if_pos ⟨hds.ne_nil, List.all_eq_true.mpr hds.digits⟩, hread, Except.ok_bind, hvalue]
  rfl

/-- The number that a finite decimal is. -/
def Number.Decimal.worth (neg : Bool) (coef : Nat) (exp : Int) : ℚ :=
  (if neg then -(coef : ℚ) else coef) * 10 ^ exp

theorem signed_of_worth {neg : Bool} {coef : Nat} {exp n : Int}
    (h : Decimal.worth neg coef exp = n) :
    (if neg then -(coef : Int) else coef) * 10 ^ exp.toNat = n * 10 ^ (-exp).toNat := by
  have hscale : (10 : ℚ) ^ exp * 10 ^ (-exp).toNat = 10 ^ exp.toNat := by
    rw [← zpow_natCast, ← zpow_natCast, ← zpow_add₀ (by norm_num)]
    congr 1
    omega
  have hcast : (((if neg then -(coef : Int) else coef) * 10 ^ exp.toNat : Int) : ℚ) =
      ((n * 10 ^ (-exp).toNat : Int) : ℚ) := by
    push_cast
    rw [← h, Decimal.worth, mul_assoc, hscale]
  exact_mod_cast hcast

/-- A decimal that is an integer is read as that integer. -/
theorem integer?_of_worth {neg : Bool} {coef : Nat} {exp n : Int}
    (h : Decimal.worth neg coef exp = n) : (Decimal.finite neg coef exp).integer? = some n := by
  have hsigned := signed_of_worth h
  unfold Decimal.integer?
  dsimp only
  by_cases hexp : 0 ≤ exp
  · have hnone : (-exp).toNat = 0 := by omega
    rw [hnone, pow_zero, mul_one] at hsigned
    rw [if_pos hexp, ← hsigned]
    cases neg <;> simp
  · have hnone : exp.toNat = 0 := by omega
    rw [hnone, pow_zero, mul_one] at hsigned
    have hpos : 0 < 10 ^ (-exp).toNat := Nat.pow_pos (by decide)
    have hcoef : coef = n.natAbs * 10 ^ (-exp).toNat := by
      have habs := congrArg Int.natAbs hsigned
      rw [Int.natAbs_mul] at habs
      cases neg <;> simpa [Int.natAbs_pow] using habs
    have hsign : (if neg then -(n.natAbs : Int) else n.natAbs) = n := by
      have hpos' : (0 : Int) < 10 ^ (-exp).toNat := by exact_mod_cast hpos
      refine Int.eq_of_mul_eq_mul_right hpos'.ne' (Eq.trans ?_ hsigned)
      rw [hcoef]
      cases neg <;> simp
    rw [if_neg hexp, hcoef, if_pos (Nat.mul_mod_left _ _), Nat.mul_div_cancel _ hpos, hsign]

/-! ## Comparing -/

/-- The values by which a server may send an integer. -/
inductive Value.Writes (n : Int) : Value → Prop
  | int : Writes n (.int n)
  | text {s : String} (h : Spells n s.toList) : Writes n (.text s)
  | bytes {s : String} (h : Spells n s.toList) : Writes n (.bytes (encode s))
  | decimal {neg : Bool} {coef : Nat} {exp : Int} (h : Decimal.worth neg coef exp = n) :
      Writes n (.decimal (.finite neg coef exp))

theorem Value.Writes.toNumber {n : Int} {v : Value} (h : v.Writes n) :
    v.toNumber = .ok (some (.int n)) := by
  cases h with
  | int => rfl
  | text h => exact numberOfText_of_spells h
  | @bytes s h =>
    show numberOfText (decodeLossy (encode s)).toList = _
    rw [decodeLossy_encode]
    exact numberOfText_of_spells h
  | @decimal neg coef exp h =>
    show some <$> numberOfDecimal (.finite neg coef exp) = _
    simp only [numberOfDecimal, integer?_of_worth h]
    rfl

theorem signOf_compare (m n : Int) : signOf (compare m n) = (m - n).sign := by
  rcases lt_trichotomy m n with h | rfl | h
  · rw [compare_lt_iff_lt.mpr h, Int.sign_eq_neg_one_of_neg (by omega)]
    rfl
  · simp [signOf]
  · rw [compare_gt_iff_gt.mpr h, Int.sign_eq_one_of_pos (by omega)]
    rfl

/-- Integers are read exactly and compared by their difference, whichever way each of them is written
and in either order of texts; null is below all of them. -/
theorem compareValues_of_writes {m n : Int} {v w : Value} (hv : v.Writes m) (hw : w.Writes n)
    (natural : Bool) :
    v.toNumber = .ok (some (.int m)) ∧ compareValues v w natural = .ok (m - n).sign ∧
      compareValues .null v natural = .ok (-1) ∧ compareValues v .null natural = .ok 1 := by
  refine ⟨hv.toNumber, ?_, ?_, ?_⟩
  · rw [compareValues_of_numbers hv.toNumber hw.toNumber, Value.compare_ints, signOf_compare]
  · unfold compareValues
    rw [hv.toNumber]
    cases hv <;> rfl
  · unfold compareValues
    rw [hv.toNumber]
    cases hv <;> rfl

/-- A number in each of the four ways, with a sign, zeros and white space, with digits of another
script, and as a decimal with a place behind the point. -/
theorem fortyTwo_in_all_ways :
    let ways : List Value := [.int 42, .text " +0042\n", .bytes (encode "٤٢"),
      .decimal (.finite false 420 (-1))]
    (∀ v ∈ ways, v.Writes 42) ∧ Value.Writes (-7) (.text "-7") ∧
      (∀ v ∈ ways, ∀ w ∈ ways, ∀ natural, compareValues v w natural = .ok 0) ∧
      ∀ v ∈ ways, ∀ natural, compareValues (.text "-7") v natural = .ok (-1) ∧
        compareValues .null v natural = .ok (-1) := by
  intro ways
  have hsigned : Spells 42 " +0042\n".toList :=
    ⟨[' '], ['+'], ['0', '0', '4', '2'], ['\n'], 42, by decide,
      List.all_eq_true.mp (by decide), List.all_eq_true.mp (by decide), .plus 42,
      ⟨by decide, 2, by decide +kernel⟩, by decide⟩
  have hforeign : Spells 42 "٤٢".toList :=
    ⟨[], [], ['٤', '٢'], [], 42, by decide, by simp, by simp, .bare 42,
      ⟨by decide, 0, by decide +kernel⟩, by decide⟩
  have hseven : Spells (-7) "-7".toList :=
    ⟨[], ['-'], ['7'], [], 7, by decide, by simp, by simp, .minus 7,
      ⟨by decide, 0, by decide +kernel⟩, by decide⟩
  have hways : ∀ v ∈ ways, v.Writes 42 := by
    intro v hv
    simp only [ways, List.mem_cons, List.not_mem_nil, or_false] at hv
    rcases hv with rfl | rfl | rfl | rfl
    · exact .int
    · exact .text hsigned
    · exact .bytes hforeign
    · exact .decimal (by norm_num [Decimal.worth])
  refine ⟨hways, .text hseven, fun v hv w hw natural => ?_, fun v hv natural => ⟨?_, ?_⟩⟩
  · exact (compareValues_of_writes (hways v hv) (hways w hw) natural).2.1
  · exact (compareValues_of_writes (.text hseven) (hways v hv) natural).2.1
  · exact (compareValues_of_writes (hways v hv) (hways v hv) natural).2.2.1

end SqlDesk
