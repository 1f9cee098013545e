import SqlDesk.Proofs.Sql.Placeholder

/-!
# Quotes as the server reads them

The server's lexer in its default mode, as far as quotes and comments go: strings end at their quote,
a doubled quote stands for one, a backslash escapes the next character of a string but means nothing
in an identifier. Over a text without comments the conversion stands in quotes exactly where the
server does, until an identifier has a backtick that the conversion takes to be escaped.
-/

namespace SqlDesk.Sql

/-- Where the server takes a character of a statement to stand. -/
inductive Region where
  | outside
  | inside (q : Quote)
  /-- Behind a backslash in a string. -/
  | escaped (q : Quote)
  /-- Behind a quote that ends a quoted text, unless another one follows. -/
  | closed (q : Quote)
  | dash
  | dashes
  | slash
  | comment
deriving DecidableEq, Repr

namespace Region

/-- A blank or a control character, which makes a comment of two dashes before it. -/
def endsDashes (c : Char) : Bool := c.toNat ≤ 32 || c.toNat == 127

/-- Behind a character that stands outside quotes and goes with none before it. -/
def start (c : Char) : Region :=
  (Quote.opened? c).elim
    (if c = '#' then .comment else if c = '-' then .dash else if c = '/' then .slash else .outside)
    .inside

/-- The region behind a character. -/
def next : Region → Char → Region
  | .outside, c => start c
  | .inside q, c =>
    if c = q.mark then .closed q
    else if c = '\\' ∧ q ≠ .backtick then .escaped q
    else .inside q
  | .escaped q, _ => .inside q
  | .closed q, c => if c = q.mark then .inside q else start c
  | .dash, c => if c = '-' then .dashes else start c
  | .dashes, c => if endsDashes c then .comment else if c = '-' then .dashes else start c
  | .slash, c => if c = '*' then .comment else start c
  | .comment, _ => .comment

/-- The region behind a text. -/
def after (m : Region) (cs : List Char) : Region := cs.foldl next m

/-- Neither quoted nor in a comment. -/
def isOutside : Region → Bool
  | .outside | .closed _ | .dash | .dashes | .slash => true
  | .inside _ | .escaped _ | .comment => false

/-- Which characters are question marks outside quotes. -/
def marks : Region → List Char → List Bool
  | _, [] => []
  | m, c :: cs => decide (m.isOutside = true ∧ c = '?') :: (m.next c).marks cs

theorem after_comment (cs : List Char) : comment.after cs = .comment := by
  induction cs with
  | nil => rfl
  | cons c cs ih => exact ih

theorem next_ne_comment {m : Region} {c : Char} {cs : List Char}
    (h : m.after (c :: cs) ≠ .comment) : m.next c ≠ .comment := by
  intro hnext
  have hafter : m.after (c :: cs) = (m.next c).after cs := rfl
  rw [hafter, hnext, after_comment] at h
  exact h rfl

/-! ## The conversion beside the server -/

/-- The conversion and the server take a character to stand in the same quotes or in none. In an
identifier the conversion may be behind a backslash, which means nothing to the server. -/
inductive Agrees : Place → Region → Prop
  | outside {m : Region} (h : m.isOutside = true) : Agrees .plain m
  | inside (q : Quote) : Agrees (.quoted q) (.inside q)
  | escaped {q : Quote} (h : q ≠ .backtick) : Agrees (.escaped q) (.escaped q)
  | backslash : Agrees (.escaped .backtick) (.inside .backtick)

theorem agrees_start {c : Char} (h : start c ≠ .comment) :
    Agrees (Place.plain.next c) (start c) := by
  unfold start at h ⊢
  rw [Place.next]
  rcases hopen : Quote.opened? c with _ | q
  · rw [hopen, Option.elim_none] at h
    refine .outside ?_
    by_cases hhash : c = '#'
    · exact absurd (if_pos hhash) h
    · rw [Option.elim_none, if_neg hhash]
      repeat' split
      all_goals rfl
  · exact .inside q

/-- Outside quotes every character is read as if it came first, except for those that go with the
one before it: a dash, a second quote, what starts a comment. -/
theorem agrees_outside {m : Region} {c : Char} (hm : m.isOutside = true)
    (hnext : m.next c ≠ .comment) : Agrees (Place.plain.next c) (m.next c) := by
  cases m with
  | outside => exact agrees_start hnext
  | closed q =>
    rw [next] at hnext ⊢
    by_cases hmark : c = q.mark
    · rw [if_pos hmark, Place.next, Quote.opened?_eq_some.mpr hmark]
      exact .inside q
    · rw [if_neg hmark] at hnext ⊢
      exact agrees_start hnext
  | dash =>
    rw [next] at hnext ⊢
    by_cases hdash : c = '-'
    · subst hdash
      exact .outside rfl
    · rw [if_neg hdash] at hnext ⊢
      exact agrees_start hnext
  | dashes =>
    rw [next] at hnext ⊢
    by_cases hends : endsDashes c = true
    · exact absurd (if_pos hends) hnext
    rw [if_neg hends] at hnext ⊢
    by_cases hdash : c = '-'
    · subst hdash
      exact .outside rfl
    · rw [if_neg hdash] at hnext ⊢
      exact agrees_start hnext
  | slash =>
    rw [next] at hnext ⊢
    by_cases hstar : c = '*'
    · exact absurd (if_pos hstar) hnext
    · rw [if_neg hstar] at hnext ⊢
      exact agrees_start hnext
  | inside | escaped | comment => cases hm

theorem Agrees.next {p : Place} {m : Region} {c : Char} (h : Agrees p m)
    (hnext : m.next c ≠ .comment) (hread : ¬ (c = '\x60' ∧ p = .escaped .backtick)) :
    Agrees (p.next c) (m.next c) := by
  cases h with
  | outside hm => exact agrees_outside hm hnext
  | inside q =>
    rw [Place.next, Region.next]
    by_cases hslash : c = '\\'
    · subst hslash
      by_cases hq : q = .backtick
      · subst hq
        exact .backslash
      · have hmark : '\\' ≠ q.mark := by cases q <;> decide
        rw [if_pos rfl, if_neg hmark, if_pos ⟨rfl, hq⟩]
        exact .escaped hq
    · rw [if_neg hslash]
      by_cases hmark : c = q.mark
      · rw [if_pos hmark, if_pos hmark]
        exact .outside rfl
      · rw [if_neg hmark, if_neg hmark, if_neg (by simp [hslash])]
        exact .inside q
  | escaped _ => exact .inside _
  | backslash =>
    have hmark : c ≠ Quote.backtick.mark := fun hc => hread ⟨hc, rfl⟩
    rw [Region.next, if_neg hmark, if_neg (by simp)]
    exact .inside .backtick

theorem Agrees.mark {p : Place} {m : Region} (h : Agrees p m) (c : Char) :
    decide (p = .plain ∧ c = '?') = decide (m.isOutside = true ∧ c = '?') := by
  cases h with
  | outside hm => simp [hm]
  | _ => simp [isOutside]

/-- A backtick of an identifier that the conversion takes to be escaped. -/
def Misread (p : Place) (cs : List Char) : Prop := p.Meets '\x60' (· = .escaped .backtick) cs

theorem Agrees.marks_eq {p : Place} {m : Region} (h : Agrees p m) {cs : List Char}
    (hfree : m.after cs ≠ .comment) (hread : ¬ Misread p cs) : p.marks cs = m.marks cs := by
  induction cs generalizing p m with
  | nil => rfl
  | cons c cs ih =>
    obtain ⟨hhere, hrest⟩ := not_or.mp (mt Place.meets_cons.mpr hread)
    have htail := ih (h.next (next_ne_comment hfree) hhere) hfree hrest
    rw [Place.marks, marks, h.mark, htail]

/-- Right behind the first misread backtick the server is outside quotes, and the conversion is
not. -/
theorem Agrees.marks_ne {p : Place} {m : Region} (h : Agrees p m) {cs : List Char}
    (hfree : m.after cs ≠ .comment) (hread : Misread p cs) :
    ∃ us, us <+: cs ∧ m.after (us ++ ['?']) ≠ .comment ∧
      p.marks (us ++ ['?']) ≠ m.marks (us ++ ['?']) := by
  induction cs generalizing p m with
  | nil => exact absurd hread (p.not_meets_nil _ _)
  | cons c cs ih =>
    by_cases hhere : c = '\x60' ∧ p = .escaped .backtick
    · obtain ⟨rfl, rfl⟩ := hhere
      cases h with
      | escaped hq => exact absurd rfl hq
      | backslash => exact ⟨['\x60'], ⟨cs, rfl⟩, by decide, by decide⟩
    · have hrest := (Place.meets_cons.mp hread).resolve_left hhere
      obtain ⟨us, hus, hfree', hne⟩ := ih (h.next (next_ne_comment hfree) hhere) hfree hrest
      refine ⟨c :: us, List.cons_prefix_cons.mpr ⟨rfl, hus⟩, hfree', fun heq => hne ?_⟩
      rw [List.cons_append, Place.marks, marks] at heq
      exact (List.cons.inj heq).2

end Region

/-! ## Statements -/

/-- No comment starts in a statement. -/
def CommentFree (sql : String) : Prop := Region.outside.after sql.toList ≠ .comment

/-- An identifier of the statement has a backtick behind a backslash that does not itself stand
behind one. -/
def MisreadsBacktick (sql : String) : Prop := Region.Misread .plain sql.toList

/-- The question marks that the conversion turns into conversions are those outside quotes. -/
def ConvertsOutside (sql : String) : Prop :=
  ∀ fs, Turned sql.toList fs (convertPlaceholders sql).toList ↔ fs = Region.outside.marks sql.toList

theorem convertsOutside_iff (sql : String) :
    ConvertsOutside sql ↔ Place.plain.marks sql.toList = Region.outside.marks sql.toList := by
  unfold ConvertsOutside
  simp only [turned_convertPlaceholders_iff]
  exact ⟨fun h => (h _).mp rfl, fun h fs => by rw [h]⟩

/-- Without comments the conversion turns the question marks outside quotes and no others, unless it
misreads a backtick; and right behind one that it misreads it would leave a question mark that is
outside quotes. -/
theorem converts_outside_unless_misread {sql : String} (h : CommentFree sql) :
    (¬ MisreadsBacktick sql → ConvertsOutside sql) ∧
      (MisreadsBacktick sql → ∃ start : String, start.toList <+: sql.toList ∧
        CommentFree (start ++ "?") ∧ ¬ ConvertsOutside (start ++ "?")) := by
  have hagrees : Region.Agrees .plain .outside := .outside rfl
  constructor
  · intro hread
    exact (convertsOutside_iff sql).mpr (hagrees.marks_eq h hread)
  · intro hread
    obtain ⟨us, hus, hfree, hne⟩ := hagrees.marks_ne h hread
    have htext : (String.ofList us ++ "?").toList = us ++ ['?'] := by
      rw [String.toList_append, String.toList_ofList]
      rfl
    refine ⟨String.ofList us, by rwa [String.toList_ofList], ?_, ?_⟩
    · rwa [CommentFree, htext]
    · rwa [convertsOutside_iff, htext]

/-- A backslash in a string escapes, and a doubled backtick stays in its identifier. -/
theorem quoted_marks_kept :
    let sql := "SELECT `a``?`, 'it\\'s ?' FROM t WHERE id = ?"
    CommentFree sql ∧ ConvertsOutside sql := by
  intro sql
  have hfree : CommentFree sql := by
    unfold CommentFree
    decide +kernel
  have hread : ¬ MisreadsBacktick sql := by
    unfold MisreadsBacktick Region.Misread
    decide +kernel
  exact ⟨hfree, (converts_outside_unless_misread hfree).1 hread⟩

/-- The backslash of the identifier hides its end, and the question mark behind it stays. -/
theorem backslash_hides_backtick :
    let sql := "SELECT `a\\` FROM t WHERE id = ?"
    CommentFree sql ∧ ¬ ConvertsOutside sql := by
  intro sql
  constructor
  · unfold CommentFree
    decide +kernel
  · rw [convertsOutside_iff]
    decide +kernel

end SqlDesk.Sql
