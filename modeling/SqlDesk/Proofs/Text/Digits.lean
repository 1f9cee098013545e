import Mathlib.Data.List.Infix
import SqlDesk.Text.Numeral

/-!
# Digits

The classes of characters are told apart by their tables: a digit is no white space. Digits at the
start of a text are read as far as they go.
-/

namespace SqlDesk.Text

/-! ## Sets of code points that are apart -/

/-- No code point is in both sets. -/
def Ranges.Apart (rs qs : Ranges) : Bool :=
  rs.all fun r => qs.all fun q => r.2.blt q.1 || q.2.blt r.1

theorem Ranges.has_eq_false {rs qs : Ranges} (h : rs.Apart qs = true) {n : Nat}
    (hn : rs.has n = true) : qs.has n = false := by
  obtain ⟨r, hr, hrn⟩ := List.any_eq_true.mp hn
  rw [Bool.and_eq_true, decide_eq_true_eq, decide_eq_true_eq] at hrn
  refine List.any_eq_false.mpr fun q hq hqn => ?_
  rw [Bool.and_eq_true, decide_eq_true_eq, decide_eq_true_eq] at hqn
  have hapart := List.all_eq_true.mp (List.all_eq_true.mp h r hr) q hq
  rw [Bool.or_eq_true, Nat.blt_eq, Nat.blt_eq] at hapart
  omega

/-- The digits of all scripts and the characters that only look like one. -/
def digitLikes : Ranges := decimalDigits ++ specialDigits

theorem isDigit_eq (c : Char) : isDigit c = decimalDigits.has c.toNat := by
  have hascii : ∀ n < 128, decimalDigits.has n = decide (48 ≤ n ∧ n ≤ 57) := by decide +kernel
  unfold isDigit digitValue?
  by_cases hc : c.toNat < 128
  · rw [hascii _ hc]
    by_cases h : 48 ≤ c.toNat ∧ c.toNat ≤ 57 <;> simp [hc, h]
  · simp only [hc, if_false, Option.isSome_map, List.isSome_find?]
    rfl

theorem isDigitLike_eq (c : Char) : isDigitLike c = digitLikes.has c.toNat := by
  unfold isDigitLike digitLikes Ranges.has
  rw [List.any_append, isDigit_eq]
  rfl

theorem isDigitLike_of_isDigit {c : Char} (h : isDigit c = true) : isDigitLike c = true := by
  simp [isDigitLike, h]

theorem not_isBlank_of_isDigit {c : Char} (h : isDigit c = true) : isBlank c = false := by
  have hapart : decimalDigits.Apart blanks = true := by decide +kernel
  rw [isDigit_eq] at h
  exact Ranges.has_eq_false hapart h

/-! ## Runs of digits -/

/-- A number as it is written. -/
structure Digits (ds : List Char) : Prop where
  ne_nil : ds ≠ []
  digits : ∀ d ∈ ds, isDigit d = true

theorem digitValue?_of_ascii {c : Char} (h : c.isDigit = true) :
    digitValue? c = some (c.toNat - '0'.toNat) := by
  have hrange : 48 ≤ c.toNat ∧ c.toNat ≤ 57 := Char.isDigit_iff_toNat.mp h
  unfold digitValue?
  dsimp only
  rw [if_pos (by omega), if_pos hrange]
  rfl

theorem digits_toDigits (n : Nat) : Digits (Nat.toDigits 10 n) where
  ne_nil := List.ne_nil_of_length_pos Nat.length_toDigits_pos
  digits d hd := by
    have hascii : d.isDigit = true := Nat.isDigit_of_mem_toDigits (by decide) (by decide) hd
    rw [isDigit, digitValue?_of_ascii hascii]
    rfl

theorem digitsValue_toDigits (n : Nat) : digitsValue (Nat.toDigits 10 n) = n := by
  have hread : ∀ (cs : List Char) (m : Nat), (∀ c ∈ cs, c.isDigit = true) →
      cs.foldl (fun n c => 10 * n + (digitValue? c).getD 0) m = Nat.ofDigitChars 10 cs m := by
    intro cs
    induction cs with
    | nil => exact fun _ _ => rfl
    | cons c cs ih =>
      intro m h
      rw [List.foldl_cons, digitValue?_of_ascii (h c (by simp)), ih _ fun d hd => h d (by simp [hd])]
      rfl
  unfold digitsValue
  rw [hread _ 0 fun d hd => Nat.isDigit_of_mem_toDigits (by decide) (by decide) hd,
    Nat.ofDigitChars_toDigits (by decide) (by decide)]

theorem spanDigits_append {ds : List Char} (h : ∀ d ∈ ds, isDigit d = true) (rest : List Char) :
    spanDigits (ds ++ rest) = (ds ++ (spanDigits rest).1, (spanDigits rest).2) := by
  unfold spanDigits
  rw [List.span_eq_takeWhile_dropWhile, List.span_eq_takeWhile_dropWhile,
    List.takeWhile_append_of_pos h, List.dropWhile_append_of_pos h]

theorem spanDigits_spec (cs : List Char) :
    (∀ d ∈ (spanDigits cs).1, isDigit d = true) ∧ (spanDigits cs).1 ++ (spanDigits cs).2 = cs := by
  unfold spanDigits
  rw [List.span_eq_takeWhile_dropWhile]
  exact ⟨List.all_eq_true.mp List.all_takeWhile, List.takeWhile_append_dropWhile⟩

theorem spanDigits_of_point (cs : List Char) : spanDigits ('.' :: cs) = ([], '.' :: cs) := by
  unfold spanDigits
  rw [List.span_eq_takeWhile_dropWhile, List.takeWhile_cons_of_neg (by decide),
    List.dropWhile_cons_of_neg (by decide)]

end SqlDesk.Text
