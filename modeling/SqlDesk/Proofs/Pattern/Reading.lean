import SqlDesk.Pattern.Reader

/-!
# Reading simple patterns

`Reads` says by rules what a sequence of simple tokens stands for: anchors of a line, characters, and
repeated ones. The reader gives exactly these elements.
-/

namespace SqlDesk.Pattern

/-- The characters that do not stand for themselves without a backslash. -/
def metacharacters : List Char :=
  ['\\', '|', '(', ')', '[', '\x7b', '?', '*', '+', '.', '^', '$']

/-- A token stands for one character. -/
inductive Stands : List Char → Node → Prop
  | any : Stands ['.'] .any
  | sign {c : Char} (h : c.isAlphanum = false) : Stands ['\\', c] (.char c.toNat)
  | plain {c : Char} (h : c ∉ metacharacters) : Stands [c] (.char c.toNat)

/-- A token demands a position. -/
inductive Demands : List Char → Anchor → Prop
  | lineStart : Demands ['^'] .lineStart
  | lineEnd : Demands ['$'] .lineEnd

/-- Tokens are read as elements. -/
inductive Reads : List (List Char) → List Node → Prop
  | nil : Reads [] []
  | anchor {t : List Char} {a : Anchor} {ts : List (List Char)} {ns : List Node}
    (hdemands : Demands t a) (h : Reads ts ns) : Reads (t :: ts) (.anchor a :: ns)
  | one {t : List Char} {n : Node} {ts : List (List Char)} {ns : List Node} (hstands : Stands t n)
    (h : Reads ts ns) : Reads (t :: ts) (n :: ns)
  | many {t : List Char} {n : Node} {ts : List (List Char)} {ns : List Node}
    (hstands : Stands t n) (h : Reads ts ns) :
    Reads (t :: ['*'] :: ts) (.rep .greedy 0 none [n] :: ns)

/-! ## Tokens -/

/-- A character other than a backslash, or a backslash with a character. -/
def IsToken (t : List Char) : Prop := (∃ c, c ≠ '\\' ∧ t = [c]) ∨ ∃ c, t = ['\\', c]

theorem isToken_single {c : Char} (h : c ≠ '\\') : IsToken [c] := .inl ⟨c, h, rfl⟩

theorem IsToken.length_pos {t : List Char} (h : IsToken t) : 1 ≤ t.length := by
  obtain ⟨c, -, rfl⟩ | ⟨c, rfl⟩ := h
  · exact Nat.le_refl 1
  · exact Nat.le_succ 1

theorem Stands.isToken {t : List Char} {n : Node} (h : Stands t n) : IsToken t := by
  cases h with
  | any => exact isToken_single (by decide)
  | @sign c h => exact .inr ⟨c, rfl⟩
  | @plain c h =>
    refine isToken_single ?_
    rintro rfl
    exact h List.mem_cons_self

theorem Stands.ne {t : List Char} {n : Node} (h : Stands t n) : t ≠ ['?'] ∧ t ≠ ['+'] := by
  cases h with
  | any => decide
  | sign h => simp
  | @plain c h =>
    constructor
    · intro heq
      obtain rfl := (List.cons.inj heq).1
      exact h (by decide)
    · intro heq
      obtain rfl := (List.cons.inj heq).1
      exact h (by decide)

theorem Demands.isToken {t : List Char} {a : Anchor} (h : Demands t a) : IsToken t := by
  cases h <;> exact isToken_single (by decide)

theorem Demands.ne {t : List Char} {a : Anchor} (h : Demands t a) : t ≠ ['?'] ∧ t ≠ ['+'] := by
  cases h <;> decide

namespace Reads

variable {ts : List (List Char)} {ns : List Node}

theorem isToken (h : Reads ts ns) : ∀ t ∈ ts, IsToken t := by
  induction h with
  | nil => exact fun t ht => absurd ht List.not_mem_nil
  | anchor hdemands _ ih => exact List.forall_mem_cons.mpr ⟨hdemands.isToken, ih⟩
  | one hstands _ ih => exact List.forall_mem_cons.mpr ⟨hstands.isToken, ih⟩
  | many hstands _ ih =>
    exact List.forall_mem_cons.mpr
      ⟨hstands.isToken, List.forall_mem_cons.mpr ⟨isToken_single (by decide), ih⟩⟩

/-- No token that is read first changes the repetition in front of it. -/
theorem head_ne (h : Reads ts ns) : ts.headD [] ≠ ['?'] ∧ ts.headD [] ≠ ['+'] := by
  cases h with
  | nil => decide
  | anchor hdemands _ => exact hdemands.ne
  | one hstands _ => exact hstands.ne
  | many hstands _ => exact hstands.ne

theorem seqIssue?_eq_none (h : Reads ts ns) : seqIssue? false ns = none := by
  induction h with
  | nil => rw [seqIssue?]
  | anchor _ _ ih => simp [seqIssue?, Node.issue?, ih]
  | one hstands _ ih => cases hstands <;> simp [seqIssue?, Node.issue?, ih]
  | many hstands _ ih => cases hstands <;> simp [seqIssue?, Node.issue?, ih]

end Reads

/-! ## Steps of the reader -/

section Steps

variable {α β : Type} {s s' : Source} {ts : List (List Char)}

theorem run_bind {x : Read α} {a : α} (h : x s = .ok (a, s')) (f : α → Read β) :
    (x >>= f) s = f a s' := by
  show Except.bind (x s) _ = _
  rw [h]
  rfl

theorem run_get_bind (f : Source → Read β) : ((get : Read Source) >>= f) s = f s s := rfl

/-- The reader in front of tokens. -/
def Source.at (s : Source) (ts : List (List Char)) (index : Nat) : Source :=
  { s with next := ts.headD [], rest := ts.tail.flatten, index }

theorem advance_of_rest (hts : ∀ t ∈ ts, IsToken t) (h : s.rest = ts.flatten) :
    ∃ j, s.advance = .ok (s.at ts j) := by
  refine ⟨s.index + (ts.headD []).length, ?_⟩
  unfold Source.advance
  rw [h]
  cases ts with
  | nil => rfl
  | cons t ts =>
    obtain ⟨c, hc, rfl⟩ | ⟨c, rfl⟩ := hts t List.mem_cons_self
    · rw [List.flatten_cons, List.singleton_append]
      split
      · contradiction
      · simp_all
      · simp_all
      · rename_i heq
        obtain ⟨rfl, rfl⟩ := List.cons.inj heq
        rfl
    · rfl

theorem skip_at (hts : ∀ t ∈ ts, IsToken t) (t : List Char) (i : Nat) :
    ∃ j, skip (s.at (t :: ts) i) = .ok ((), s.at ts j) := by
  obtain ⟨j, hadvance⟩ := advance_of_rest (s := s.at (t :: ts) i) hts rfl
  refine ⟨j, ?_⟩
  unfold skip
  rw [hadvance]
  rfl

theorem accept_of_ne {c : Char} (h : s.next ≠ [c]) : accept c s = .ok (false, s) := by
  unfold accept
  rw [run_get_bind, if_neg h]
  rfl

/-- Behind a backslash, what is neither a letter nor a digit stands for itself. -/
theorem escape_sign {c : Char} (h : c.isAlphanum = false) : escape c s = .ok (.char c.toNat, s) := by
  have hcategory : category? c = none := by
    unfold category?
    split <;> first | rfl | contradiction
  have hanchor : anchor? c = none := by
    unfold anchor?
    split <;> first | rfl | contradiction
  have hshared : sharedEscape c s = .ok (none, s) := by
    unfold sharedEscape
    split <;> first | rfl | contradiction
  by_cases hslash : c = '\\'
  · subst hslash
    rfl
  have hcontrol : controlEscape? c = none := by
    unfold controlEscape?
    split <;> first | rfl | contradiction
  have hzero : c ≠ '0' := by
    rintro rfl
    contradiction
  rw [Char.isAlphanum, Bool.or_eq_false_iff] at h
  rw [escape, hcategory, hanchor, hcontrol]
  show (sharedEscape c >>= _) s = _
  rw [run_bind hshared]
  simp only [hzero, h.1, h.2, if_false, Bool.false_eq_true]
  rfl

end Steps

/-! ## Runs of the reader -/

section Runs

variable {s : Source} {t : List Char} {n : Node} {ts : List (List Char)} {ns : List Node}
  (fuel : Nat) (first : Bool) (acc : List Node) (i : Nat)

/-- Nothing but an element is read from a token that stands for a character. -/
theorem readSeq_of_stands (hts : ∀ t ∈ ts, IsToken t) (h : Stands t n) :
    ∃ j, readSeq (fuel + 1) false first acc (s.at (t :: ts) i) =
      readSeq fuel false first (n :: acc) (s.at ts j) := by
  obtain ⟨j, hskip⟩ := skip_at (s := s) hts t i
  refine ⟨j, ?_⟩
  rw [readSeq, run_get_bind]
  cases h with
  | any =>
    show (skip >>= _ : Read (List Node)) _ = _
    rw [run_bind hskip]
    rfl
  | sign h =>
    show (skip >>= _ : Read (List Node)) _ = _
    rw [run_bind hskip]
    show (escape _ >>= _ : Read (List Node)) _ = _
    rw [run_bind (escape_sign h)]
  | @plain c h =>
    simp only [metacharacters, List.mem_cons, List.not_mem_nil, or_false, not_or] at h
    have hnext : (s.at ([c] :: ts) i).next = [c] := rfl
    simp only [hnext]
    rw [if_neg (by simp [h]), run_bind hskip, run_get_bind]
    simp only [Bool.false_and, Bool.false_eq_true, if_false]
    split <;> simp_all

theorem readSeq_of_demands {a : Anchor} (hts : ∀ t ∈ ts, IsToken t) (h : Demands t a) :
    ∃ j, readSeq (fuel + 1) false first acc (s.at (t :: ts) i) =
      readSeq fuel false first (.anchor a :: acc) (s.at ts j) := by
  obtain ⟨j, hskip⟩ := skip_at (s := s) hts t i
  refine ⟨j, ?_⟩
  rw [readSeq, run_get_bind]
  cases h <;>
  · show (skip >>= _ : Read (List Node)) _ = _
    rw [run_bind hskip]
    rfl

theorem repeatLast_of_stands (h : Stands t n) (position : Nat) (hlazy : s.next ≠ ['?'])
    (hpossessive : s.next ≠ ['+']) :
    repeatLast position 0 none (n :: acc) s = .ok (.rep .greedy 0 none [n] :: acc, s) := by
  have hrepeat : repeatLast position 0 none (n :: acc) = (do
      if ← accept '?' then return .rep .lazy 0 none [n] :: acc
      else if ← accept '+' then return .rep .possessive 0 none [n] :: acc
      else return .rep .greedy 0 none [n] :: acc) := by
    cases h <;> rfl
  rw [hrepeat, run_bind (accept_of_ne hlazy)]
  show (accept '+' >>= _ : Read (List Node)) _ = _
  rw [run_bind (accept_of_ne hpossessive)]
  rfl

theorem readSeq_star (hstands : Stands t n) (h : Reads ts ns) :
    ∃ j, readSeq (fuel + 1) false first (n :: acc) (s.at (['*'] :: ts) i) =
      readSeq fuel false first (.rep .greedy 0 none [n] :: acc) (s.at ts j) := by
  obtain ⟨j, hskip⟩ := skip_at (s := s) h.isToken ['*'] i
  refine ⟨j, ?_⟩
  rw [readSeq, run_get_bind]
  show (skip >>= _ : Read (List Node)) _ = _
  rw [run_bind hskip]
  exact run_bind (repeatLast_of_stands acc hstands _ h.head_ne.1 h.head_ne.2) _

/-- The reader gives tokens that can be read their elements. -/
theorem readSeq_of_reads (h : Reads ts ns) :
    ∃ j, readSeq (ts.length + (fuel + 1)) false first acc (s.at ts i) =
      .ok (acc.reverse ++ ns, s.at [] j) := by
  -- along the tokens: each step of the reader moves one element into what it has gathered
  induction h generalizing acc i with
  | nil =>
    refine ⟨i, ?_⟩
    rw [List.length_nil, Nat.zero_add, readSeq, run_get_bind, List.append_nil]
    rfl
  | @anchor t a ts ns hdemands h ih =>
    obtain ⟨j, hstep⟩ :=
      readSeq_of_demands (s := s) (ts.length + (fuel + 1)) first acc i h.isToken hdemands
    obtain ⟨k, hrest⟩ := ih (.anchor a :: acc) j
    refine ⟨k, ?_⟩
    rw [List.length_cons, Nat.add_right_comm, hstep, hrest]
    simp
  | @one t n ts ns hstands h ih =>
    obtain ⟨j, hstep⟩ :=
      readSeq_of_stands (s := s) (ts.length + (fuel + 1)) first acc i h.isToken hstands
    obtain ⟨k, hrest⟩ := ih (n :: acc) j
    refine ⟨k, ?_⟩
    rw [List.length_cons, Nat.add_right_comm, hstep, hrest]
    simp
  | @many t n ts ns hstands h ih =>
    have htokens : ∀ t ∈ ['*'] :: ts, IsToken t :=
      List.forall_mem_cons.mpr ⟨isToken_single (by decide), h.isToken⟩
    obtain ⟨j, hatom⟩ :=
      readSeq_of_stands (s := s) (ts.length + (fuel + 1) + 1) first acc i htokens hstands
    obtain ⟨k, hstar⟩ := readSeq_star (s := s) (ts.length + (fuel + 1)) first acc j hstands h
    obtain ⟨l, hrest⟩ := ih (.rep .greedy 0 none [n] :: acc) k
    refine ⟨l, ?_⟩
    rw [List.length_cons, List.length_cons, Nat.add_right_comm, Nat.add_right_comm ts.length 1,
      hatom, hstar, hrest]
    simp

end Runs

theorem length_le_length_flatten {ts : List (List Char)} (hts : ∀ t ∈ ts, IsToken t) :
    ts.length ≤ ts.flatten.length := by
  induction ts with
  | nil => exact Nat.le_refl 0
  | cons t ts ih =>
    have ht := (hts t List.mem_cons_self).length_pos
    have hrest := ih fun t ht => hts t (List.mem_cons_of_mem _ ht)
    rw [List.length_cons, List.flatten_cons, List.length_append]
    omega

/-- A text of tokens that can be read is compiled into their elements. -/
theorem compile_of_reads {ts : List (List Char)} {ns : List Node} (h : Reads ts ns) :
    compile (String.ofList ts.flatten) = .ok { nodes := ns, flags := {} } := by
  let s : Source := { next := [], rest := ts.flatten, index := 0 }
  obtain ⟨i, hstart⟩ := advance_of_rest (s := s) h.isToken rfl
  -- the fuel is more than the tokens need, since no token is empty
  obtain ⟨fuel, hfuel⟩ : ∃ fuel, 8 * ts.flatten.length + 16 = ts.length + (fuel + 1) + 1 + 1 := by
    have hlength := length_le_length_flatten h.isToken
    exact ⟨8 * ts.flatten.length + 13 - ts.length, by omega⟩
  obtain ⟨j, hseq⟩ := readSeq_of_reads (s := s) fuel true [] i h
  have hbranches : readBranches (ts.length + (fuel + 1) + 1) false true true (s.at ts i) =
      .ok ([ns], s.at [] j) := by
    rw [readBranches, Bool.and_self, run_bind hseq]
    show (accept '|' >>= _ : Read (List (List Node))) _ = _
    rw [run_bind (accept_of_ne (List.cons_ne_nil '|' []).symm)]
    rfl
  have halt : readAlt (ts.length + (fuel + 1) + 1 + 1) false true (s.at ts i) =
      .ok (ns, s.at [] j) := by
    rw [readAlt, run_bind hbranches]
    rfl
  have hfinish : finish ns (s.at [] j) = .ok { nodes := ns, flags := {} } := by
    simp only [finish, Source.at, s, h.seqIssue?_eq_none]
    rfl
  unfold compile
  rw [String.toList_ofList]
  dsimp only
  rw [hfuel]
  show Except.bind (Source.advance s) _ = _
  rw [hstart]
  show Except.bind (readAlt _ false true (s.at ts i)) _ = _
  rw [halt]
  exact hfinish

end SqlDesk.Pattern
