import Mathlib.Data.List.Forall2
import SqlDesk.Proofs.Text.Digits
import SqlDesk.Text.Case

/-!
# Digits in lower case

Lower case leaves every digit as it is, and every character that only looks like one, and makes none
of other characters. Digits are also walls of the final sigma rule: what stands on one side of a
digit has no influence on the lower case of the other side.
-/

namespace SqlDesk.Text

/-! ## Lower case of one character -/

/-- The code points that have a lower case of their own. -/
def lowerSources : Ranges := lowerRuns.map fun r => (r.first, r.last)

/-- Ranges around the code points that are the lower case of others. -/
def lowerImages : Ranges := lowerRuns.map fun r => (r.target, r.target + (r.last - r.first))

theorem has_of_image? {n m : Nat} (h : lowerRuns.findSome? (·.image? n) = some m) :
    lowerSources.has n = true ∧ lowerImages.has m = true := by
  obtain ⟨r, hr, himage⟩ := List.exists_of_findSome?_eq_some h
  unfold CaseRun.image? at himage
  split at himage
  · rename_i hrange
    obtain rfl := Option.some.inj himage
    simp only [Bool.and_eq_true, decide_eq_true_eq] at hrange
    unfold lowerSources lowerImages Ranges.has
    simp only [List.any_map, List.any_eq_true]
    refine ⟨⟨r, hr, ?_⟩, ⟨r, hr, ?_⟩⟩
    · simp [hrange.1]
    · simp only [Function.comp_apply, Bool.and_eq_true, decide_eq_true_eq]
      omega
  · cases himage

/-- The lower case of a character beyond ASCII: one character becomes two. -/
theorem lowerChar_wide {c : Char} (hc : ¬ c.toNat < 128) :
    (c = 'İ' ∧ lowerChar c = ['i', '\u0307']) ∨ lowerChar c = [c] ∨
      ∃ m, lowerRuns.findSome? (·.image? c.toNat) = some m ∧ lowerChar c = [Char.ofNat m] := by
  unfold lowerChar
  dsimp only
  rw [if_neg hc]
  rcases hlookup : lowerExpansions.lookup c.toNat with _ | ns
  · refine .inr ?_
    dsimp only
    rcases hfind : lowerRuns.findSome? (·.image? c.toNat) with _ | m <;> rw [hfind]
    · exact .inl (congrArg ([·]) (Char.ofNat_toNat c))
    · exact .inr ⟨m, rfl, rfl⟩
  · rw [lowerExpansions, List.lookup_cons, List.lookup_nil] at hlookup
    split at hlookup
    · rename_i hc
      obtain rfl := Option.some.inj hlookup
      refine .inl ⟨?_, rfl⟩
      rw [← Char.ofNat_toNat c, beq_iff_eq.mp hc]
    · cases hlookup

theorem lowerChar_ne_nil (c : Char) : lowerChar c ≠ [] := by
  by_cases hc : c.toNat < 128
  · unfold lowerChar
    dsimp only
    rw [if_pos hc]
    exact List.cons_ne_nil _ _
  · rcases lowerChar_wide hc with ⟨-, hexpand⟩ | hself | ⟨m, -, himage⟩
    · simp [hexpand]
    · simp [hself]
    · simp [himage]

theorem ofNat_of_ascii {P : Char → Prop} (h : ∀ n < 128, P (Char.ofNat n)) {c : Char}
    (hc : c.toNat < 128) : P c := by
  have hP := h c.toNat hc
  rwa [Char.ofNat_toNat] at hP

/-- What is no code point is taken for zero. -/
theorem toNat_ofNat_cases (n : Nat) : (Char.ofNat n).toNat = n ∨ (Char.ofNat n).toNat = 0 := by
  unfold Char.ofNat
  by_cases hvalid : n.isValidChar
  · rw [dif_pos hvalid]
    exact .inl rfl
  · rw [dif_neg hvalid]
    exact .inr rfl

/-- A character that looks like a digit is its own lower case. -/
theorem lowerChar_of_isDigitLike {c : Char} (h : isDigitLike c = true) : lowerChar c = [c] := by
  by_cases hc : c.toNat < 128
  · exact ofNat_of_ascii (P := fun c => isDigitLike c = true → lowerChar c = [c])
      (by decide +kernel) hc h
  · rcases lowerChar_wide hc with ⟨rfl, -⟩ | hself | ⟨m, hm, -⟩
    · exact absurd h (by decide +kernel)
    · exact hself
    · have hapart : digitLikes.Apart lowerSources = true := by decide +kernel
      rw [isDigitLike_eq] at h
      have hnot := Ranges.has_eq_false hapart h
      rw [(has_of_image? hm).1] at hnot
      cases hnot

/-- Lower case makes no digits, nor characters that look like one. -/
theorem isDigitLike_of_mem_lowerChar {c d : Char} (hd : d ∈ lowerChar c) :
    isDigitLike d = isDigitLike c := by
  rcases h : isDigitLike c with _ | _
  · by_cases hc : c.toNat < 128
    · have hnone := ofNat_of_ascii
        (P := fun c => isDigitLike c = false → (lowerChar c).all (!isDigitLike ·) = true)
        (by decide +kernel) hc h
      simpa using List.all_eq_true.mp hnone d hd
    · rcases lowerChar_wide hc with ⟨rfl, hexpand⟩ | hself | ⟨m, hm, himage⟩
      · have hnone : (lowerChar 'İ').all (!isDigitLike ·) = true := by decide +kernel
        simpa using List.all_eq_true.mp hnone d hd
      · rw [hself, List.mem_singleton] at hd
        rw [hd, h]
      · rw [himage, List.mem_singleton] at hd
        have hapart : lowerImages.Apart digitLikes = true := by decide +kernel
        have hnot := Ranges.has_eq_false hapart (has_of_image? hm).2
        rw [hd, isDigitLike_eq]
        rcases toNat_ofNat_cases m with hchar | hchar <;> rw [hchar]
        · exact hnot
        · decide
  · rw [lowerChar_of_isDigitLike h, List.mem_singleton] at hd
    rw [hd, h]

/-! ## Lower case of a text -/

/-- What becomes of a character in lower case: a character that looks like a digit stays, and any
other becomes characters of which none looks like one. -/
structure Lowers (c : Char) (cs : List Char) : Prop where
  nonempty : cs ≠ []
  alike : ∀ d ∈ cs, isDigitLike d = isDigitLike c
  kept : isDigitLike c = true → cs = [c]

theorem Lowers.sameDigit {c : Char} {cs : List Char} (h : Lowers c cs) :
    ∀ d ∈ cs, isDigit d = isDigit c := by
  intro d hd
  rcases hlike : isDigitLike c with _ | _
  · have hnone {e : Char} (he : isDigitLike e = false) : isDigit e = false :=
      Bool.eq_false_iff.mpr fun hdigit => by simp [isDigitLike_of_isDigit hdigit] at he
    rw [hnone hlike, hnone ((h.alike d hd).trans hlike)]
  · rw [h.kept hlike, List.mem_singleton] at hd
    rw [hd]

theorem lowers_lowerChar (c : Char) : Lowers c (lowerChar c) where
  nonempty := lowerChar_ne_nil c
  alike _ := isDigitLike_of_mem_lowerChar
  kept := lowerChar_of_isDigitLike

theorem lowers_sigma {c : Char} (hc : c = 'ς' ∨ c = 'σ') : Lowers 'Σ' [c] where
  nonempty := by simp
  alike d hd := by
    rw [List.mem_singleton] at hd
    subst hd
    rcases hc with rfl | rfl <;> decide +kernel
  kept h := absurd h (by decide +kernel)

/-- A text in lower case is made of what becomes of its characters. -/
theorem lowerFrom_pieces (before cs : List Char) :
    ∃ pieces, List.Forall₂ Lowers cs pieces ∧ lowerFrom before cs = pieces.flatten := by
  induction cs generalizing before with
  | nil => exact ⟨[], .nil, rfl⟩
  | cons c cs ih =>
    obtain ⟨pieces, hpieces, hlower⟩ := ih (c :: before)
    rw [lowerFrom, hlower]
    by_cases hsigma : c = 'Σ'
    · subst hsigma
      rw [if_pos rfl]
      split
      · exact ⟨['ς'] :: pieces, .cons (lowers_sigma (.inl rfl)) hpieces, rfl⟩
      · exact ⟨['σ'] :: pieces, .cons (lowers_sigma (.inr rfl)) hpieces, rfl⟩
    · rw [if_neg hsigma]
      exact ⟨lowerChar c :: pieces, .cons (lowers_lowerChar c) hpieces, rfl⟩

/-- A text in lower case starts with a digit if the text does. -/
theorem isDigit_head_lowerFrom (before cs : List Char) :
    ∀ d ∈ (lowerFrom before cs).head?, ∃ c ∈ cs.head?, isDigit d = isDigit c := by
  obtain ⟨pieces, hpieces, hlower⟩ := lowerFrom_pieces before cs
  rw [hlower]
  cases hpieces with
  | nil => simp
  | @cons c piece cs pieces hpiece _ =>
    intro d hd
    rw [List.flatten_cons, List.head?_append_of_ne_nil _ hpiece.nonempty] at hd
    exact ⟨c, rfl, hpiece.sameDigit d (List.mem_of_mem_head? hd)⟩

/-- A text in lower case ends in a digit if the text does. -/
theorem isDigit_getLast_lowerFrom (before cs : List Char) :
    ∀ d ∈ (lowerFrom before cs).getLast?, ∃ c ∈ cs.getLast?, isDigit d = isDigit c := by
  obtain ⟨pieces, hpieces, hlower⟩ := lowerFrom_pieces before cs
  rw [hlower]
  clear hlower
  induction hpieces with
  | nil => simp
  | @cons c piece cs pieces hpiece hpieces ih =>
    intro d hd
    cases hpieces with
    | nil =>
      rw [List.flatten_singleton] at hd
      exact ⟨c, rfl, hpiece.sameDigit d (List.mem_of_mem_getLast? hd)⟩
    | @cons c' piece' cs pieces hpiece' hpieces =>
      have hne : (piece' :: pieces).flatten ≠ [] := by simp [hpiece'.nonempty]
      rw [List.flatten_cons, List.getLast?_append_of_ne_nil _ hne] at hd
      rw [List.getLast?_cons_cons]
      exact ih d hd

/-! ## Digits as walls -/

theorem isCased_of_isDigit {c : Char} (h : isDigit c = true) : isCased c = false := by
  by_cases hc : c.toNat < 128
  · exact ofNat_of_ascii (P := fun c => isDigit c = true → isCased c = false) (by decide +kernel)
      hc h
  · have hapart : decimalDigits.Apart wideCased = true := by decide +kernel
    rw [isDigit_eq] at h
    unfold isCased
    rw [if_neg hc, Ranges.has_eq_false hapart h]

theorem caseIgnorables_of_isDigit {c : Char} (h : isDigit c = true) :
    caseIgnorables.has c.toNat = false := by
  have hapart : decimalDigits.Apart caseIgnorables = true := by decide +kernel
  rw [isDigit_eq] at h
  exact Ranges.has_eq_false hapart h

/-- Nothing behind a digit is looked at. -/
theorem startsCased_append {d : Char} (hd : isDigit d = true) (cs rest : List Char) :
    startsCased (cs ++ d :: rest) = startsCased cs := by
  induction cs with
  | nil =>
    unfold startsCased
    rw [List.nil_append, List.dropWhile_cons, caseIgnorables_of_isDigit hd]
    exact isCased_of_isDigit hd
  | cons c cs ih =>
    by_cases hc : caseIgnorables.has c.toNat = true
    · have hskip (cs : List Char) : startsCased (c :: cs) = startsCased cs := by
        simp [startsCased, hc]
      rw [List.cons_append, hskip, hskip, ih]
    · simp [startsCased, hc]

theorem lowerFrom_append_digit {d : Char} (hd : isDigit d = true) (before cs rest : List Char) :
    lowerFrom before (cs ++ d :: rest) =
      lowerFrom before cs ++ lowerFrom (cs.reverse ++ before) (d :: rest) := by
  induction cs generalizing before with
  | nil => rfl
  | cons c cs ih =>
    rw [List.cons_append, lowerFrom, lowerFrom, startsCased_append hd, ih, List.append_assoc,
      List.reverse_cons, List.append_assoc]
    rfl

/-- Nothing before a digit is looked at. -/
theorem lowerFrom_of_digit {d : Char} (hd : isDigit d = true) (before before' cs : List Char) :
    lowerFrom (before ++ d :: before') cs = lowerFrom before cs := by
  induction cs generalizing before with
  | nil => rfl
  | cons c cs ih =>
    have htail := ih (c :: before)
    rw [List.cons_append] at htail
    rw [lowerFrom, lowerFrom, startsCased_append hd, htail]

theorem lowerFrom_digit {d : Char} (hd : isDigit d = true) (before cs : List Char) :
    lowerFrom before (d :: cs) = d :: lowerList cs := by
  have hsigma : d ≠ 'Σ' := by
    rintro rfl
    exact absurd hd (by decide +kernel)
  rw [lowerFrom, if_neg hsigma, lowerChar_of_isDigitLike (isDigitLike_of_isDigit hd)]
  exact congrArg (d :: ·) (lowerFrom_of_digit hd [] before cs)

/-- Digits part a text for lower case: they stay, and each side becomes what it is on its own. -/
theorem lowerList_digits {ds : List Char} (hds : ds ≠ []) (hdigits : ∀ d ∈ ds, isDigit d = true)
    (before after : List Char) :
    lowerList (before ++ ds ++ after) = lowerList before ++ ds ++ lowerList after := by
  have hrest : ∀ ds : List Char, (∀ d ∈ ds, isDigit d = true) → ∀ d, isDigit d = true →
      ∀ before, lowerFrom before (d :: (ds ++ after)) = d :: (ds ++ lowerList after) := by
    intro ds
    induction ds with
    | nil => exact fun _ d hd before => lowerFrom_digit hd before after
    | cons e ds ih =>
      intro hdigits d hd before
      rw [lowerFrom_digit hd, List.cons_append, lowerList, ih (fun d hd' => hdigits d (by simp [hd']))
        e (hdigits e (by simp))]
      rfl
  cases ds with
  | nil => exact absurd rfl hds
  | cons d ds =>
    have hd := hdigits d (by simp)
    rw [List.append_assoc, List.cons_append, lowerList, lowerFrom_append_digit hd,
      hrest ds (fun e he => hdigits e (by simp [he])) d hd]
    simp [lowerList]

end SqlDesk.Text
