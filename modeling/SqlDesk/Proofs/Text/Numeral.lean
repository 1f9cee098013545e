import Mathlib.Data.Nat.Digits.Defs
import SqlDesk.Proofs.Text.Digits

/-!
# Integers as texts

A text writes an integer with white space around it, an optional sign and leading zeros, in digits of
any script. Without the white space it is read as a sign and a numeral, and the numeral as the number
that it writes.
-/

namespace SqlDesk.Text

/-! ## Numerals -/

/-- Digits of any script write a number: the digits of the number behind zeros. -/
structure Numeral (n : Nat) (ds : List Char) : Prop where
  ne_nil : ds ≠ []
  values : ∃ zeros, ds.map digitValue? =
    (List.replicate zeros 0 ++ (Nat.digits 10 n).reverse).map some

/-- A sign that may stand before a number, and what it makes of it. -/
inductive Signed : List Char → Nat → Int → Prop
  | bare (n : Nat) : Signed [] n n
  | plus (n : Nat) : Signed ['+'] n n
  | minus (n : Nat) : Signed ['-'] n (-n)

/-- A text writes an integer: white space around it, an optional sign, and a numeral that is not too
long. -/
def Spells (n : Int) (cs : List Char) : Prop :=
  ∃ before sign ds after m, cs = before ++ (sign ++ ds) ++ after ∧
    (∀ c ∈ before, isBlank c = true) ∧ (∀ c ∈ after, isBlank c = true) ∧
    Signed sign m n ∧ Numeral m ds ∧ ds.length ≤ maxDigits

section Numeral

variable {n : Nat} {ds : List Char} (h : Numeral n ds)

include h

theorem Numeral.digits : Digits ds := by
  obtain ⟨zeros, hvalues⟩ := h.values
  refine ⟨h.ne_nil, fun d hd => ?_⟩
  have hmem : digitValue? d ∈ ds.map digitValue? := List.mem_map_of_mem hd
  rw [hvalues] at hmem
  obtain ⟨k, -, hk⟩ := List.mem_map.mp hmem
  rw [isDigit, ← hk]
  rfl

theorem Numeral.digitsValue_eq : digitsValue ds = n := by
  obtain ⟨zeros, hvalues⟩ := h.values
  have hzeros (zeros : Nat) : (List.replicate zeros 0).foldl (fun n d => 10 * n + d) 0 = 0 := by
    induction zeros with
    | zero => rfl
    | succ zeros ih => exact ih
  have hread : digitsValue ds =
      (ds.map digitValue?).foldl (fun n d => 10 * n + d.getD 0) 0 := by
    rw [List.foldl_map]
    rfl
  rw [hread, hvalues, List.foldl_map, List.foldl_append]
  show (Nat.digits 10 n).reverse.foldl (fun n d => 10 * n + d)
    ((List.replicate zeros 0).foldl (fun n d => 10 * n + d) 0) = n
  rw [hzeros, List.foldl_reverse]
  have hdigits := Nat.ofDigits_digits 10 n
  rw [Nat.ofDigits_eq_foldr] at hdigits
  refine Eq.trans (congrArg (List.foldr · 0 _) ?_) hdigits
  funext d k
  exact Nat.add_comm _ _

end Numeral

/-! ## White space and signs -/

theorem dropWhile_of_head {p : Char → Bool} {cs : List Char} (h : ∀ c ∈ cs.head?, p c = false) :
    cs.dropWhile p = cs := by
  cases cs with
  | nil => rfl
  | cons c cs => exact List.dropWhile_cons_of_neg (by simp [h c rfl])

theorem strip_of_blanks {before body after : List Char} (hbefore : ∀ c ∈ before, isBlank c = true)
    (hafter : ∀ c ∈ after, isBlank c = true) (hne : body ≠ [])
    (hhead : ∀ c ∈ body.head?, isBlank c = false) (hlast : ∀ c ∈ body.getLast?, isBlank c = false) :
    strip (before ++ body ++ after) = body := by
  have hstart : (body ++ after).dropWhile isBlank = body ++ after := by
    refine dropWhile_of_head ?_
    rwa [List.head?_append_of_ne_nil _ hne]
  have hend : (after.reverse ++ body.reverse).dropWhile isBlank = body.reverse := by
    rw [List.dropWhile_append_of_pos fun c hc => hafter c (List.mem_reverse.mp hc)]
    refine dropWhile_of_head ?_
    rwa [List.head?_reverse]
  unfold strip
  rw [List.append_assoc, List.dropWhile_append_of_pos hbefore, hstart, List.reverse_append, hend,
    List.reverse_reverse]

theorem spanSign_of_signed {sign ds : List Char} {m : Nat} {n : Int} (h : Signed sign m n)
    (hds : Digits ds) : ∃ neg, spanSign (sign ++ ds) = (neg, ds) ∧ signedInt neg m = n := by
  cases h with
  | bare =>
    refine ⟨false, ?_, rfl⟩
    obtain ⟨d, ds, rfl⟩ := List.exists_cons_of_ne_nil hds.ne_nil
    have hdigit : isDigit d = true := hds.digits d List.mem_cons_self
    show spanSign (d :: ds) = _
    unfold spanSign
    split
    · rename_i heq
      obtain ⟨rfl, -⟩ := List.cons.inj heq
      cases hdigit
    · rename_i heq
      obtain ⟨rfl, -⟩ := List.cons.inj heq
      cases hdigit
    · rfl
  | plus => exact ⟨false, rfl, rfl⟩
  | minus => exact ⟨true, rfl, rfl⟩

theorem strip_spelled {before sign ds after : List Char} {m : Nat} {n : Int}
    (hbefore : ∀ c ∈ before, isBlank c = true) (hafter : ∀ c ∈ after, isBlank c = true)
    (hsign : Signed sign m n) (hds : Digits ds) :
    strip (before ++ (sign ++ ds) ++ after) = sign ++ ds := by
  have hlast : ∀ c ∈ (sign ++ ds).getLast?, isBlank c = false := by
    intro c hc
    rw [List.getLast?_append_of_ne_nil _ hds.ne_nil] at hc
    exact not_isBlank_of_isDigit (hds.digits c (List.mem_of_getLast? hc))
  refine strip_of_blanks hbefore hafter (List.append_ne_nil_of_right_ne_nil _ hds.ne_nil) ?_ hlast
  intro c hc
  cases hsign with
  | bare => exact not_isBlank_of_isDigit (hds.digits c (List.mem_of_head? hc))
  | plus =>
    obtain rfl := Option.some.inj hc
    decide
  | minus =>
    obtain rfl := Option.some.inj hc
    decide

end SqlDesk.Text
