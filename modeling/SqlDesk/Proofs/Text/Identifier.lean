import SqlDesk.Proofs.Text.Lower
import SqlDesk.Text.Identifier

/-!
# Identifiers

A text that is written without quotes has to be an identifier: a letter or an underscore, and behind it
letters, digits and underscores, all of them from ASCII. The check of identifiers lets one other kind
of text through, an identifier with a line break behind it. Upper case makes identifiers of
identifiers.
-/

namespace SqlDesk.Text

/-! ## Characters -/

/-- A character with which an identifier starts. -/
def PlainStart (c : Char) : Prop := 'a' ≤ c ∧ c ≤ 'z' ∨ 'A' ≤ c ∧ c ≤ 'Z' ∨ c = '_'

/-- A character of an identifier. -/
def PlainChar (c : Char) : Prop := PlainStart c ∨ '0' ≤ c ∧ c ≤ '9'

instance (c : Char) : Decidable (PlainStart c) := inferInstanceAs (Decidable (_ ∨ _))

instance (c : Char) : Decidable (PlainChar c) := inferInstanceAs (Decidable (_ ∨ _))

theorem between_iff {c d e : Char} :
    (decide (d.val ≤ c.val) && decide (c.val ≤ e.val)) = true ↔ d ≤ c ∧ c ≤ e := by
  rw [Bool.and_eq_true, decide_eq_true_eq, decide_eq_true_eq]
  exact Iff.rfl

theorem startsIdentifier_iff {c : Char} : startsIdentifier c = true ↔ PlainStart c := by
  have hlower : c.isLower = true ↔ 'a' ≤ c ∧ c ≤ 'z' := between_iff
  have hupper : c.isUpper = true ↔ 'A' ≤ c ∧ c ≤ 'Z' := decide_eq_true_iff
  have halpha : c.isAlpha = (c.isUpper || c.isLower) := rfl
  rw [startsIdentifier, halpha, Bool.or_eq_true, Bool.or_eq_true, hlower, hupper, beq_iff_eq,
    PlainStart, or_comm (a := 'A' ≤ c ∧ c ≤ 'Z'), or_assoc]

theorem continuesIdentifier_iff {c : Char} : continuesIdentifier c = true ↔ PlainChar c := by
  have hdigit : c.isDigit = true ↔ '0' ≤ c ∧ c ≤ '9' := between_iff
  have halphanum : c.isAlphanum = (c.isAlpha || c.isDigit) := rfl
  rw [PlainChar, ← startsIdentifier_iff, ← hdigit, continuesIdentifier, startsIdentifier,
    halphanum, Bool.or_eq_true, Bool.or_eq_true, Bool.or_eq_true, or_right_comm]

theorem PlainChar.toNat_lt {c : Char} (h : PlainChar c) : c.toNat < 128 := by
  have hle {d : Char} (hd : d.toNat < 128) (hc : c ≤ d) : c.toNat < 128 :=
    Nat.lt_of_le_of_lt hc hd
  rcases h with (⟨-, h⟩ | ⟨-, h⟩ | rfl) | ⟨-, h⟩
  · exact hle (by decide) h
  · exact hle (by decide) h
  · decide
  · exact hle (by decide) h

/-! ## Texts -/

/-- A text in which all characters are those of identifiers. -/
def IsPlain (s : String) : Prop := ∀ c ∈ s.toList, PlainChar c

/-- A text is an identifier from its first character to its last. -/
def IsIdentifier (s : String) : Prop :=
  ∃ c cs, s.toList = c :: cs ∧ PlainStart c ∧ ∀ d ∈ cs, PlainChar d

/-- A text is an identifier with a line break behind it. -/
def IsIdentifierLine (s : String) : Prop := ∃ t, IsIdentifier t ∧ s = t ++ "\n"

variable {s : String}

theorem IsIdentifier.isPlain (h : IsIdentifier s) : IsPlain s := by
  obtain ⟨c, cs, hs, hc, hcs⟩ := h
  intro d hd
  rw [hs] at hd
  rcases List.mem_cons.mp hd with rfl | hd
  · exact .inl hc
  · exact hcs d hd

theorem not_isPlain_break (t : String) : ¬ IsPlain (t ++ "\n") := by
  intro h
  have hbreak : PlainChar '\n' := h '\n' (by simp)
  exact absurd hbreak (by decide)

theorem IsIdentifierLine.not_isPlain (h : IsIdentifierLine s) : ¬ IsPlain s := by
  obtain ⟨t, -, rfl⟩ := h
  exact not_isPlain_break t

theorem IsIdentifierLine.not_isIdentifier (h : IsIdentifierLine s) : ¬ IsIdentifier s :=
  fun hs => h.not_isPlain hs.isPlain

/-- The characters of what passes the check are those of identifiers and line breaks. -/
theorem plainChar_or_break_of_mem (h : IsIdentifier s ∨ IsIdentifierLine s) {c : Char}
    (hc : c ∈ s.toList) : PlainChar c ∨ c = '\n' := by
  rcases h with h | ⟨t, ht, rfl⟩
  · exact .inl (h.isPlain c hc)
  · rw [String.toList_append] at hc
    rcases List.mem_append.mp hc with hc | hc
    · exact .inl (ht.isPlain c hc)
    · exact .inr (List.mem_singleton.mp hc)

/-! ## The check -/

theorem isIdentifierList_iff : isIdentifierList s.toList = true ↔ IsIdentifier s := by
  unfold IsIdentifier
  cases s.toList with
  | nil => simp [isIdentifierList]
  | cons c cs => simp [isIdentifierList, startsIdentifier_iff, continuesIdentifier_iff]

theorem withoutFinalBreak_append (t : String) :
    withoutFinalBreak (t ++ "\n").toList = t.toList := by
  have hbreak : "\n".toList = ['\n'] := rfl
  unfold withoutFinalBreak
  rw [String.toList_append, hbreak, if_pos List.getLast?_concat, List.dropLast_concat]

/-- A text ends in a line break, or nothing is taken from its end. -/
theorem withoutFinalBreak_cases (s : String) :
    (∃ t, s = t ++ "\n") ∨ withoutFinalBreak s.toList = s.toList := by
  by_cases h : s.toList.getLast? = some '\n'
  · obtain ⟨cs, hcs⟩ := List.getLast?_eq_some_iff.mp h
    refine .inl ⟨String.ofList cs, String.toList_injective ?_⟩
    rw [hcs, String.toList_append, String.toList_ofList]
    rfl
  · exact .inr (if_neg h)

theorem isIdentifier_iff : isIdentifier s = true ↔ IsIdentifier s ∨ IsIdentifierLine s := by
  unfold isIdentifier
  rcases withoutFinalBreak_cases s with ⟨t, rfl⟩ | hwhole
  · have hnot : ¬ IsIdentifier (t ++ "\n") := fun h => not_isPlain_break t h.isPlain
    rw [withoutFinalBreak_append, isIdentifierList_iff, or_iff_right hnot]
    constructor
    · exact fun ht => ⟨t, ht, rfl⟩
    · rintro ⟨u, hu, htu⟩
      rwa [(String.append_left_inj "\n").mp htu]
  · have hnot : ¬ IsIdentifierLine s := by
      rintro ⟨t, -, rfl⟩
      rw [withoutFinalBreak_append, String.toList_append] at hwhole
      exact absurd hwhole (by simp)
    rw [hwhole, isIdentifierList_iff, or_iff_left hnot]

/-- The check of a name that may not be empty. -/
theorem identifierPasses_iff :
    identifierPasses (some s) false = true ↔ IsIdentifier s ∨ IsIdentifierLine s := by
  rw [← isIdentifier_iff]
  unfold identifierPasses
  dsimp only
  by_cases hempty : s.isEmpty = true
  · rw [if_pos hempty, String.isEmpty_iff.mp hempty]
    decide
  · rw [if_neg hempty]

/-- Only identifiers pass the check, unless a text has a line break behind an identifier. -/
theorem passes_only_identifiers_iff :
    (identifierPasses (some s) false = true ↔ IsIdentifier s) ↔ ¬ IsIdentifierLine s := by
  rw [identifierPasses_iff]
  constructor
  · exact fun h hline => hline.not_isIdentifier (h.mp (.inr hline))
  · exact fun hnot => or_iff_left hnot

/-! ## Upper case -/

theorem upper_append (s t : String) : upper (s ++ t) = upper s ++ upper t := by
  unfold upper
  rw [String.toList_append, List.flatMap_append, String.ofList_append]

theorem upperChar_of_plain {c : Char} (h : PlainChar c) : upperChar c = [c.toUpper] :=
  if_pos h.toNat_lt

theorem PlainStart.toUpper {c : Char} (h : PlainStart c) : PlainStart c.toUpper :=
  ofNat_of_ascii (P := fun c => PlainStart c → PlainStart c.toUpper) (by decide +kernel)
    (PlainChar.toNat_lt (.inl h)) h

theorem PlainChar.toUpper {c : Char} (h : PlainChar c) : PlainChar c.toUpper :=
  ofNat_of_ascii (P := fun c => PlainChar c → PlainChar c.toUpper) (by decide +kernel) h.toNat_lt h

theorem IsIdentifier.upper (h : IsIdentifier s) : IsIdentifier (upper s) := by
  obtain ⟨c, cs, hs, hc, hcs⟩ := h
  refine ⟨c.toUpper, cs.flatMap upperChar, ?_, hc.toUpper, fun d hd => ?_⟩
  · rw [Text.upper, String.toList_ofList, hs, List.flatMap_cons, upperChar_of_plain (.inl hc)]
    rfl
  · obtain ⟨e, he, hd⟩ := List.mem_flatMap.mp hd
    rw [upperChar_of_plain (hcs e he), List.mem_singleton] at hd
    rw [hd]
    exact (hcs e he).toUpper

theorem IsIdentifierLine.upper (h : IsIdentifierLine s) : IsIdentifierLine (upper s) := by
  obtain ⟨t, ht, rfl⟩ := h
  exact ⟨Text.upper t, ht.upper, upper_append t "\n"⟩

end SqlDesk.Text
