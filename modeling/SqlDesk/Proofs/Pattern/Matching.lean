import SqlDesk.Pattern.Search

/-!
# Matches of simple elements

Whether elements match a text from a state on, for characters, repeated characters and the anchors
of a line in front of further elements.
-/

namespace SqlDesk.Pattern

variable {text : Array Char} {f : Flags} {m k : Mark} {n : Node} {ns : List Node}

/-- Elements match a text from a state on. -/
def Matches (text : Array Char) (f : Flags) (ns : List Node) (m : Mark) : Prop :=
  ∃ k, k ∈ seqEnds text f ns m

theorem matchesStart_iff {p : Pattern} {s : String} :
    p.matchesStart s = true ↔ Matches s.toList.toArray p.flags p.nodes { pos := 0 } := by
  rw [matchesStart, Bool.not_eq_true', List.isEmpty_eq_false_iff_exists_mem, Matches]

theorem matches_nil : Matches text f [] m := by
  refine ⟨m, ?_⟩
  rw [seqEnds]
  exact List.mem_singleton_self m

theorem matches_cons : Matches text f (n :: ns) m ↔ ∃ k ∈ n.ends text f m, Matches text f ns k := by
  unfold Matches
  rw [seqEnds]
  simp only [List.mem_flatMap]
  constructor
  · rintro ⟨l, k, hk, hl⟩
    exact ⟨k, hk, l, hl⟩
  · rintro ⟨k, hk, l, hl⟩
    exact ⟨l, k, hk, hl⟩

/-! ## The part of a text that is left -/

theorem drop_eq_cons_iff {i : Nat} {c : Char} {cs : List Char} :
    text.toList.drop i = c :: cs ↔ text[i]? = some c ∧ text.toList.drop (i + 1) = cs := by
  rw [← Array.getElem?_toList]
  rcases Nat.lt_or_ge i text.toList.length with hlt | hge
  · rw [List.drop_eq_getElem_cons hlt, List.getElem?_eq_getElem hlt, List.cons.injEq,
      Option.some.injEq]
  · simp [List.drop_eq_nil_of_le hge, List.getElem?_eq_none hge]

theorem exists_drop_iff {P : List Char → Prop} {i : Nat} (hi : i ≤ text.size) :
    (∃ p, i ≤ p ∧ p ≤ text.size ∧ P (text.toList.drop p)) ↔
      ∃ rest, rest <:+ text.toList.drop i ∧ P rest := by
  constructor
  · rintro ⟨p, hle, -, hp⟩
    obtain ⟨n, rfl⟩ := Nat.exists_eq_add_of_le hle
    refine ⟨_, ?_, hp⟩
    rw [← List.drop_drop]
    exact List.drop_suffix n _
  · rintro ⟨rest, ⟨skipped, hskipped⟩, hrest⟩
    have hlength := congrArg List.length hskipped
    rw [List.length_append, List.length_drop] at hlength
    have hsize : i + skipped.length ≤ text.size := by
      have htext : text.toList.length = text.size := Array.length_toList
      omega
    refine ⟨i + skipped.length, Nat.le_add_right .., hsize, ?_⟩
    rwa [← List.drop_drop, ← hskipped, List.drop_left]

/-! ## Characters -/

theorem mem_stepIf {p : Char → Bool} :
    k ∈ stepIf text m p ↔
      ∃ c, text[m.pos]? = some c ∧ p c = true ∧ k = { m with pos := m.pos + 1 } := by
  unfold stepIf
  split
  · split <;> simp_all
  · simp_all

theorem sameChar_iff (hcase : f.ignoreCase = false) {c d : Char} :
    sameChar f c.toNat d.toNat = true ↔ c = d := by
  simp [sameChar, hcase, Char.toNat_inj]

theorem matches_char_cons (hcase : f.ignoreCase = false) {c : Char} :
    Matches text f (.char c.toNat :: ns) m ↔
      text[m.pos]? = some c ∧ Matches text f ns { m with pos := m.pos + 1 } := by
  rw [matches_cons]
  simp only [Node.ends, mem_stepIf, sameChar_iff hcase]
  constructor
  · rintro ⟨k, ⟨d, hd, rfl, rfl⟩, hrest⟩
    exact ⟨hd, hrest⟩
  · rintro ⟨hc, hrest⟩
    exact ⟨_, ⟨c, hc, rfl, rfl⟩, hrest⟩

theorem mem_ends_any (hdot : f.dotAll = true) :
    k ∈ Node.any.ends text f m ↔ m.pos < text.size ∧ k = { m with pos := m.pos + 1 } := by
  simp only [Node.ends, mem_stepIf, hdot, Bool.true_or]
  constructor
  · rintro ⟨c, hc, -, rfl⟩
    exact ⟨(Array.getElem?_eq_some_iff.mp hc).1, rfl⟩
  · rintro ⟨hlt, rfl⟩
    exact ⟨text[m.pos], Array.getElem?_eq_getElem hlt, trivial, rfl⟩

theorem matches_any_cons (hdot : f.dotAll = true) :
    Matches text f (.any :: ns) m ↔
      m.pos < text.size ∧ Matches text f ns { m with pos := m.pos + 1 } := by
  rw [matches_cons]
  simp only [mem_ends_any hdot]
  constructor
  · rintro ⟨k, ⟨hlt, rfl⟩, hrest⟩
    exact ⟨hlt, hrest⟩
  · rintro ⟨hlt, hrest⟩
    exact ⟨_, ⟨hlt, rfl⟩, hrest⟩

/-! ## Repetitions -/

/-- Steps over any one character leave the text at every position that is still to come. -/
theorem mem_optionalRounds {body : Mark → List Mark}
    (hbody : ∀ m k, k ∈ body m ↔ m.pos < text.size ∧ k = { m with pos := m.pos + 1 }) (fuel : Nat)
    (hpos : m.pos ≤ text.size) (hfuel : text.size - m.pos < fuel) :
    k ∈ optionalRounds false body fuel none m ↔
      ∃ p, m.pos ≤ p ∧ p ≤ text.size ∧ k = { m with pos := p } := by
  induction fuel generalizing m with
  | zero => omega
  | succ fuel ih =>
    have hrest (hlt : m.pos < text.size) :
        k ∈ optionalRounds false body fuel none { m with pos := m.pos + 1 } ↔
          ∃ p, m.pos + 1 ≤ p ∧ p ≤ text.size ∧ k = { m with pos := p } :=
      ih hlt (by dsimp only; omega)
    rw [optionalRounds, if_neg (Option.some_ne_none 0).symm]
    simp only [Bool.false_eq_true, if_false, Option.map_none, List.mem_append, List.mem_flatMap,
      List.mem_singleton, hbody]
    constructor
    · rintro (⟨l, ⟨hlt, rfl⟩, hk⟩ | rfl)
      · rw [if_neg (Nat.succ_ne_self m.pos), hrest hlt] at hk
        obtain ⟨p, hle, hsize, rfl⟩ := hk
        exact ⟨p, Nat.le_of_succ_le hle, hsize, rfl⟩
      · exact ⟨k.pos, Nat.le_refl _, hpos, rfl⟩
    · rintro ⟨p, hle, hsize, rfl⟩
      rcases Nat.eq_or_lt_of_le hle with rfl | hlt
      · exact .inr rfl
      · have hnext : m.pos < text.size := Nat.lt_of_lt_of_le hlt hsize
        refine .inl ⟨_, ⟨hnext, rfl⟩, ?_⟩
        rw [if_neg (Nat.succ_ne_self m.pos), hrest hnext]
        exact ⟨p, hlt, hsize, rfl⟩

theorem matches_anyTimes_cons (hdot : f.dotAll = true) (hpos : m.pos ≤ text.size) :
    Matches text f (.rep .greedy 0 none [.any] :: ns) m ↔
      ∃ p, m.pos ≤ p ∧ p ≤ text.size ∧ Matches text f ns { m with pos := p } := by
  have hbody (m k : Mark) :
      k ∈ seqEnds text f [.any] m ↔ m.pos < text.size ∧ k = { m with pos := m.pos + 1 } := by
    rw [← mem_ends_any hdot]
    simp [seqEnds]
  have hends : Node.ends text f (.rep .greedy 0 none [.any]) m =
      optionalRounds false (seqEnds text f [.any]) (text.size - m.pos + 1) none m := by
    rw [Node.ends]
    rfl
  rw [matches_cons]
  simp only [hends, mem_optionalRounds hbody _ hpos (Nat.lt_succ_self _)]
  constructor
  · rintro ⟨k, ⟨p, hle, hsize, rfl⟩, hrest⟩
    exact ⟨p, hle, hsize, hrest⟩
  · rintro ⟨p, hle, hsize, hrest⟩
    exact ⟨_, ⟨p, hle, hsize, rfl⟩, hrest⟩

/-! ## Anchors -/

theorem matches_anchor_cons {a : Anchor} :
    Matches text f (.anchor a :: ns) m ↔ a.holds f text m.pos = true ∧ Matches text f ns m := by
  rw [matches_cons, Node.ends]
  split <;> simp_all

/-- The end of a line is the end of the text or of what comes before a last line break. -/
theorem holds_lineEnd_iff (hlines : f.multiline = false) {i : Nat} (hi : i ≤ text.size) :
    Anchor.lineEnd.holds f text i = true ↔
      text.toList.drop i = [] ∨ text.toList.drop i = ['\n'] := by
  rcases Nat.eq_or_lt_of_le hi with rfl | hlt
  · simp [Anchor.holds]
  · have hcons : text.toList.drop i = text[i] :: text.toList.drop (i + 1) :=
      List.drop_eq_getElem_cons hlt
    have hlast : i + 1 = text.size ↔ text.size ≤ i + 1 := by omega
    simp [Anchor.holds, hlines, hcons, Nat.ne_of_lt hlt, hlt, hlast, and_comm]

end SqlDesk.Pattern
