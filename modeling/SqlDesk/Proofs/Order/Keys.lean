import SqlDesk.Proofs.Except
import SqlDesk.Proofs.Order.Runs
import SqlDesk.Proofs.Order.Texts

/-!
# Natural keys

A text has a key unless one of its runs is a numeral that is too long, or looks like a number without
being one. A key can be written out again, as the text in lower case with plain numerals; so it tells
such texts apart and no others. Texts that differ in one numeral are ordered as its numbers.
-/

namespace SqlDesk.Order

open Text

/-! ## Texts with a key -/

theorem ofRun_eq_ok_iff {run : List Char} {c : Chunk} :
    Chunk.ofRun run = .ok c ↔
      if run.all isDigitLike then
        run.all isDigit = true ∧ run.length ≤ maxDigits ∧ c = .number (digitsValue run)
      else c = .text run := by
  unfold Chunk.ofRun
  by_cases hlike : run.all isDigitLike = true
  · rw [if_pos hlike, if_pos hlike]
    by_cases hdigits : run.all isDigit = true
    · rw [if_pos hdigits, Except.map_eq_ok]
      unfold readDigits
      by_cases hlong : maxDigits < run.length
      · simp [hlong]
      · simp [hlong, hdigits, Nat.le_of_not_lt hlong, eq_comm]
    · simp [hdigits]
  · simp [hlike, eq_comm]

/-- A run can be read as a chunk. -/
def Readable (run : List Char) : Prop :=
  run.all isDigitLike = true → run.all isDigit = true ∧ run.length ≤ maxDigits

theorem exists_ofRun_iff {run : List Char} : (∃ c, Chunk.ofRun run = .ok c) ↔ Readable run := by
  unfold Readable
  simp only [ofRun_eq_ok_iff]
  by_cases hlike : run.all isDigitLike = true
  · simp [hlike]
  · simp [hlike]

/-- In lower case a run can be read if it can be read as it is. -/
theorem LowersRun.readable_iff {run lowered : List Char} (h : LowersRun run lowered) :
    Readable lowered ↔ Readable run := by
  unfold Readable
  rw [h.alike]
  by_cases hlike : run.all isDigitLike = true
  · rw [h.kept hlike]
  · simp [hlike]

theorem naturalKey_eq_ok_iff {s : String} {k : List Chunk} :
    naturalKey s = .ok k ↔
      List.Forall₂ (fun run c => Chunk.ofRun run = .ok c) (runs (lowerList s.toList)) k :=
  Except.mapM_eq_ok

/-- A text has a key if and only if all of its runs can be read. -/
theorem exists_naturalKey_iff_readable {s : String} :
    (∃ k, naturalKey s = .ok k) ↔ ∀ run ∈ runs s.toList, Readable run := by
  have hlower : (∀ run ∈ runs (lowerList s.toList), Readable run) ↔
      ∀ run ∈ runs s.toList, Readable run := by
    have hruns := lowersRun_runs [] s.toList
    rw [← lowerList] at hruns
    generalize runs s.toList = rs, runs (lowerList s.toList) = rs' at hruns ⊢
    induction hruns with
    | nil => simp
    | cons hrun _ ih =>
      rw [List.forall_mem_cons, List.forall_mem_cons]
      exact and_congr hrun.readable_iff ih
  rw [← hlower]
  unfold naturalKey
  rw [Except.exists_mapM_eq_ok]
  simp only [exists_ofRun_iff]

/-- A run of a text looks like digits all over and is no number: superscripts, circled digits and the
like stand there, between digits and the ends of the text, with no other character among them. -/
def HasLookalikes (cs : List Char) : Prop :=
  ∃ before run after, cs = before ++ run ++ after ∧ IsRun false before run after ∧
    ∀ c ∈ run, isDigitLike c = true

/-- All numerals of a text are short enough to be read. -/
def ShortNumerals (cs : List Char) : Prop :=
  ∀ before run after, cs = before ++ run ++ after → IsRun true before run after →
    run.length ≤ maxDigits

/-- A text has a key if and only if its numerals are short and it has no lookalikes. -/
theorem exists_naturalKey_iff {s : String} :
    (∃ k, naturalKey s = .ok k) ↔ ShortNumerals s.toList ∧ ¬ HasLookalikes s.toList := by
  rw [exists_naturalKey_iff_readable]
  constructor
  · intro h
    refine ⟨fun before run after hcs hrun => ?_, ?_⟩
    · have hdigits : ∀ c ∈ run, isDigitLike c = true := fun c hc =>
        isDigitLike_of_isDigit (hrun.kind c hc)
      exact (h run (mem_runs_iff.mpr ⟨_, _, _, hcs, hrun⟩) (List.all_eq_true.mpr hdigits)).2
    · rintro ⟨before, run, after, hcs, hrun, hlike⟩
      have hread := h run (mem_runs_iff.mpr ⟨_, _, _, hcs, hrun⟩) (List.all_eq_true.mpr hlike)
      obtain ⟨c, cs, rfl⟩ := List.exists_cons_of_ne_nil hrun.nonempty
      have hdigit : isDigit c = true := List.all_eq_true.mp hread.1 c (by simp)
      rw [hrun.kind c (by simp)] at hdigit
      cases hdigit
  · rintro ⟨hshort, hlookalikes⟩ run hmem hlike
    obtain ⟨digits, before, after, hcs, hrun⟩ := mem_runs_iff.mp hmem
    cases digits with
    | true => exact ⟨List.all_eq_true.mpr hrun.kind, hshort before run after hcs hrun⟩
    | false =>
      exact absurd ⟨before, run, after, hcs, hrun, List.all_eq_true.mp hlike⟩ hlookalikes

/-! ## Keys written out -/

/-- A chunk as a text: a number as a plain numeral. -/
def Chunk.written : Chunk → List Char
  | .number n => Nat.toDigits 10 n
  | .text cs => cs

/-- A run with the plain numeral of its number if it is one. -/
def plainRun (run : List Char) : List Char :=
  if run.all isDigit then Nat.toDigits 10 (digitsValue run) else run

/-- A text in which every longest run of digits is replaced by the plain numeral of its number: ASCII
digits without leading zeros. -/
def plainNumerals (cs : List Char) : List Char := (cs.splitBy sameKind).flatMap plainRun

theorem written_of_ofRun {run : List Char} {c : Chunk} (h : Chunk.ofRun run = .ok c) :
    c.written = plainRun run := by
  rw [ofRun_eq_ok_iff] at h
  unfold plainRun
  split at h
  · obtain ⟨hdigits, -, rfl⟩ := h
    rw [if_pos hdigits]
    rfl
  · rename_i hlike
    subst h
    refine (if_neg fun hdigits => hlike ?_).symm
    rw [List.all_eq_true] at hdigits ⊢
    exact fun c hc => isDigitLike_of_isDigit (hdigits c hc)

/-- A key written out is its text in lower case with plain numerals. -/
theorem flatMap_written {s : String} {k : List Chunk} (h : naturalKey s = .ok k) :
    k.flatMap Chunk.written = plainNumerals (lowerList s.toList) := by
  rw [naturalKey_eq_ok_iff, runs_eq_splitBy] at h
  unfold plainNumerals
  generalize (lowerList s.toList).splitBy sameKind = rs at h
  induction h with
  | nil => rfl
  | cons hchunk _ ih => rw [List.flatMap_cons, List.flatMap_cons, written_of_ofRun hchunk, ih]

/-- A chunk as it stands in a key: a text has no digits. -/
def Chunk.Proper : Chunk → Prop
  | .number _ => True
  | .text cs => cs ≠ [] ∧ ∀ c ∈ cs, isDigit c = false

theorem Chunk.written_injective {a b : Chunk} (ha : a.Proper) (hb : b.Proper)
    (h : a.written = b.written) : a = b := by
  have hne {n : Nat} {cs : List Char} (hcs : ∀ c ∈ cs, isDigit c = false) :
      Nat.toDigits 10 n ≠ cs := by
    rintro rfl
    obtain ⟨c, hc⟩ := List.exists_mem_of_ne_nil _ (digits_toDigits n).ne_nil
    have hdigit := (digits_toDigits n).digits c hc
    rw [hcs c hc] at hdigit
    cases hdigit
  cases a with
  | number m =>
    cases b with
    | number n =>
      have hvalue := congrArg digitsValue h
      rw [written, written, digitsValue_toDigits, digitsValue_toDigits] at hvalue
      rw [hvalue]
    | text cs => exact absurd h (hne hb.2)
  | text cs =>
    cases b with
    | number n => exact absurd h.symm (hne ha.2)
    | text ds => exact congrArg Chunk.text h

/-- A chunk of a run is written out as a run of the same kind. -/
theorem kind_of_ofRun {digits : Bool} {run : List Char} (hne : run ≠ [])
    (hkind : ∀ c ∈ run, isDigit c = digits) {c : Chunk} (h : Chunk.ofRun run = .ok c) :
    c.Proper ∧ c.written ≠ [] ∧ ∀ d ∈ c.written, isDigit d = digits := by
  rw [ofRun_eq_ok_iff] at h
  split at h
  · obtain ⟨hdigits, -, rfl⟩ := h
    obtain ⟨d, hd⟩ := List.exists_mem_of_ne_nil run hne
    obtain rfl : true = digits := by rw [← hkind d hd, List.all_eq_true.mp hdigits d hd]
    exact ⟨trivial, (digits_toDigits _).ne_nil, (digits_toDigits _).digits⟩
  · rename_i hlike
    subst h
    obtain rfl : false = digits := by
      cases digits with
      | false => rfl
      | true =>
        exact absurd (List.all_eq_true.mpr fun d hd => isDigitLike_of_isDigit (hkind d hd)) hlike
    exact ⟨⟨hne, hkind⟩, hne, hkind⟩

/-- Chunks of runs of alternating kinds are proper, and written out they alternate too. -/
theorem Alternates.written {digits : Bool} {rs : List (List Char)} (h : Alternates digits rs)
    {k : List Chunk} (hk : List.Forall₂ (fun run c => Chunk.ofRun run = .ok c) rs k) :
    (∀ c ∈ k, c.Proper) ∧ Alternates digits (k.map Chunk.written) := by
  induction h generalizing k with
  | nil =>
    rw [List.forall₂_nil_left_iff] at hk
    subst hk
    exact ⟨by simp, .nil _⟩
  | cons hne hkind _ ih =>
    obtain ⟨c, k, hchunk, hchunks, rfl⟩ := List.forall₂_cons_left_iff.mp hk
    obtain ⟨hproper, hne', hkind'⟩ := kind_of_ofRun hne hkind hchunk
    obtain ⟨hrest, halternates⟩ := ih hchunks
    exact ⟨List.forall_mem_cons.mpr ⟨hproper, hrest⟩, .cons hne' hkind' halternates⟩

/-- The chunks of a key are proper, and they are found again in the text that is written out. -/
theorem runs_written {s : String} {k : List Chunk} (h : naturalKey s = .ok k) :
    (∀ c ∈ k, c.Proper) ∧ runs (k.flatMap Chunk.written) = k.map Chunk.written := by
  obtain ⟨digits, hruns⟩ := alternates_runs (lowerList s.toList)
  obtain ⟨hproper, halternates⟩ := hruns.written (naturalKey_eq_ok_iff.mp h)
  exact ⟨hproper, halternates.runs_flatten⟩

theorem map_written_injective {k k' : List Chunk} (hk : ∀ c ∈ k, c.Proper)
    (hk' : ∀ c ∈ k', c.Proper) (h : k.map Chunk.written = k'.map Chunk.written) : k = k' := by
  induction k generalizing k' with
  | nil => exact (List.map_eq_nil_iff.mp h.symm).symm
  | cons c k ih =>
    obtain ⟨c', k', rfl, hc, hrest⟩ := List.map_eq_cons_iff.mp h.symm
    rw [Chunk.written_injective (hk c (by simp)) (hk' c' (by simp)) hc.symm,
      ih (fun d hd => hk d (by simp [hd])) (fun d hd => hk' d (by simp [hd])) hrest.symm]

/-- Two texts have the same key if and only if they are the same in lower case with plain numerals. -/
theorem keys_eq_iff {s t : String} {k k' : List Chunk} (hs : naturalKey s = .ok k)
    (ht : naturalKey t = .ok k') :
    k = k' ↔ plainNumerals (lowerList s.toList) = plainNumerals (lowerList t.toList) := by
  rw [← flatMap_written hs, ← flatMap_written ht]
  constructor
  · exact fun h => h ▸ rfl
  · intro h
    obtain ⟨hproper, hruns⟩ := runs_written hs
    obtain ⟨hproper', hruns'⟩ := runs_written ht
    refine map_written_injective hproper hproper' ?_
    rw [← hruns, ← hruns', h]

/-! ## Texts that differ in one numeral -/

/-- Keys that differ in one number are ordered as the numbers. -/
theorem compareKeys_number (before after : List Chunk) (m n : Nat) :
    compareKeys (before ++ .number m :: after) (before ++ .number n :: after) = compare m n := by
  induction before with
  | nil =>
    have hsame : compareKeys after after = .eq := Std.ReflCmp.compare_self
    rw [List.nil_append, List.nil_append, compareKeys, hsame]
    show (compare m n).then .eq = _
    cases compare m n <;> rfl
  | cons c before ih =>
    have hsame : c.compare c = .eq := Std.ReflCmp.compare_self
    rw [List.cons_append, List.cons_append, compareKeys, hsame, ih]
    rfl

/-- A numeral with other characters around it is a chunk of its own. -/
theorem naturalKey_numeral {before after : String}
    (hbefore : ∀ c ∈ before.toList.getLast?, isDigit c = false)
    (hafter : ∀ c ∈ after.toList.head?, isDigit c = false) {n : Nat} {k : List Chunk} :
    naturalKey (before ++ toString n ++ after) = .ok k ↔
      (Nat.toDigits 10 n).length ≤ maxDigits ∧ ∃ left right, naturalKey before = .ok left ∧
        naturalKey after = .ok right ∧ k = left ++ .number n :: right := by
  have hdigits := digits_toDigits n
  -- the digits are a longest run: neither neighbour is a digit, also in lower case
  have hrun : IsRun true (lowerList before.toList) (Nat.toDigits 10 n) (lowerList after.toList) := by
    refine ⟨hdigits.ne_nil, hdigits.digits, fun c hc => ?_, fun c hc => ?_⟩
    · obtain ⟨d, hd, heq⟩ := isDigit_getLast_lowerFrom _ _ c hc
      rw [heq, hbefore d hd]
      rfl
    · obtain ⟨d, hd, heq⟩ := isDigit_head_lowerFrom _ _ c hc
      rw [heq, hafter d hd]
      rfl
  have htext : (before ++ toString n ++ after).toList =
      before.toList ++ Nat.toDigits 10 n ++ after.toList := by
    rw [String.toList_append, String.toList_append]
    simp
  have hnumber {c : Chunk} : Chunk.ofRun (Nat.toDigits 10 n) = .ok c ↔
      (Nat.toDigits 10 n).length ≤ maxDigits ∧ c = .number n := by
    have hall : (Nat.toDigits 10 n).all isDigit = true := List.all_eq_true.mpr hdigits.digits
    have hlike : (Nat.toDigits 10 n).all isDigitLike = true :=
      List.all_eq_true.mpr fun d hd => isDigitLike_of_isDigit (hdigits.digits d hd)
    rw [ofRun_eq_ok_iff, if_pos hlike, digitsValue_toDigits]
    simp [hall]
  unfold naturalKey
  rw [htext, lowerList_digits hdigits.ne_nil hdigits.digits, hrun.runs, List.mapM_append,
    Except.bind_eq_ok]
  simp only [List.mapM_cons, Except.bind_eq_ok, hnumber]
  constructor
  · rintro ⟨left, hleft, rest, ⟨c, ⟨hshort, rfl⟩, right, hright, hrest⟩, hk⟩
    obtain rfl := Except.ok.inj hrest
    exact ⟨hshort, left, right, hleft, hright, (Except.ok.inj hk).symm⟩
  · rintro ⟨hshort, left, right, hleft, hright, rfl⟩
    exact ⟨left, hleft, _, ⟨_, ⟨hshort, rfl⟩, right, hright, rfl⟩, rfl⟩

/-- Texts with keys have the same key if and only if they are the same in lower case with plain
numerals; and texts that differ in one numeral only, which stands between other characters, are in
the order of its numbers. -/
theorem keys_tell_numerals :
    (∀ {s t : String} {k k' : List Chunk}, naturalKey s = .ok k → naturalKey t = .ok k' →
      (k = k' ↔ plainNumerals (lowerList s.toList) = plainNumerals (lowerList t.toList))) ∧
    ∀ {before after : String} {m n : Nat} {k k' : List Chunk},
      (∀ c ∈ before.toList.getLast?, isDigit c = false) →
      (∀ c ∈ after.toList.head?, isDigit c = false) →
      naturalKey (before ++ toString m ++ after) = .ok k →
      naturalKey (before ++ toString n ++ after) = .ok k' → compareKeys k k' = compare m n := by
  refine ⟨keys_eq_iff, fun hbefore hafter hk hk' => ?_⟩
  obtain ⟨-, left, right, hleft, hright, rfl⟩ := (naturalKey_numeral hbefore hafter).mp hk
  obtain ⟨-, left', right', hleft', hright', rfl⟩ := (naturalKey_numeral hbefore hafter).mp hk'
  obtain rfl := Except.ok.inj (hleft.symm.trans hleft')
  obtain rfl := Except.ok.inj (hright.symm.trans hright')
  exact compareKeys_number left right _ _

/-- A numeral with leading zeros and one in the digits of another script; and a numeral between a
final sigma and a superscript. -/
theorem numerals_of_two_scripts_told :
    (∃ k k', naturalKey "T007Ä" = .ok k ∧ naturalKey "t٧ä" = .ok k' ∧ k = k' ∧
      plainNumerals (lowerList "T007Ä".toList) = plainNumerals (lowerList "t٧ä".toList)) ∧
    ∃ k k', naturalKey ("ΟΔΟΣ" ++ toString 9 ++ "²a") = .ok k ∧
      naturalKey ("ΟΔΟΣ" ++ toString 10 ++ "²a") = .ok k' ∧ compareKeys k k' = .lt := by
  have hs : naturalKey "T007Ä" = .ok [.text ['t'], .number 7, .text ['ä']] := by rfl
  have ht : naturalKey "t٧ä" = .ok [.text ['t'], .number 7, .text ['ä']] := by rfl
  have hbefore : naturalKey "ΟΔΟΣ" = .ok [.text ['ο', 'δ', 'ο', 'ς']] := by decide +kernel
  have hafter : naturalKey "²a" = .ok [.text ['²', 'a']] := by decide +kernel
  have hlast : "ΟΔΟΣ".toList.getLast? = some 'Σ' := by decide
  have hfirst : "²a".toList.head? = some '²' := by decide
  have hend : ∀ c ∈ "ΟΔΟΣ".toList.getLast?, isDigit c = false := by
    rw [hlast]
    rintro c ⟨⟩
    decide +kernel
  have hstart : ∀ c ∈ "²a".toList.head?, isDigit c = false := by
    rw [hfirst]
    rintro c ⟨⟩
    decide +kernel
  have hk (n : Nat) (hn : (Nat.toDigits 10 n).length ≤ maxDigits) :
      naturalKey ("ΟΔΟΣ" ++ toString n ++ "²a") =
        .ok ([.text ['ο', 'δ', 'ο', 'ς']] ++ .number n :: [.text ['²', 'a']]) :=
    (naturalKey_numeral hend hstart).mpr ⟨hn, _, _, hbefore, hafter, rfl⟩
  obtain ⟨hequal, hordered⟩ := keys_tell_numerals
  refine ⟨⟨_, _, hs, ht, rfl, (hequal hs ht).mp rfl⟩, _, _, hk 9 (by decide), hk 10 (by decide), ?_⟩
  exact hordered hend hstart (hk 9 (by decide)) (hk 10 (by decide))

end SqlDesk.Order
