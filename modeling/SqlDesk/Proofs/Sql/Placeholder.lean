import SqlDesk.Proofs.Sql.Lexer
import SqlDesk.Sql.Placeholder

/-!
# The conversion of placeholders, character by character

What is written for a character depends on the character and on where it stands: outside quotes,
inside, or behind a backslash inside. `conversion_eq_converted` says so of the conversion; then every
statement about it is an induction over the characters. `turned_convertPlaceholders_iff` reads off
the written text which question marks became conversions.
-/

namespace SqlDesk.Sql

/-- The quotes that a character opens. -/
def Quote.opened? (c : Char) : Option Quote :=
  if c = '\x60' then some .backtick
  else if c = '\'' then some .single
  else if c = '"' then some .double
  else none

theorem opensQuote_eq (c : Char) : opensQuote c = (Quote.opened? c).isSome := by
  by_cases hbacktick : c = '\x60'
  · subst hbacktick
    rfl
  by_cases hsingle : c = '\''
  · subst hsingle
    rfl
  by_cases hdouble : c = '"'
  · subst hdouble
    rfl
  simp [opensQuote, Quote.opened?, hbacktick, hsingle, hdouble]

theorem Quote.opened?_eq_some {c : Char} {q : Quote} : Quote.opened? c = some q ↔ c = q.mark := by
  constructor
  · intro h
    unfold Quote.opened? at h
    repeat' split at h
    all_goals cases h
    all_goals assumption
  · rintro rfl
    cases q <;> rfl

/-- Where the conversion takes a character to stand. -/
inductive Place where
  | plain
  | quoted (q : Quote)
  /-- Behind a backslash in quotes. -/
  | escaped (q : Quote)
deriving DecidableEq, Repr

namespace Place

/-- The place behind a character. -/
def next : Place → Char → Place
  | .plain, c => (Quote.opened? c).elim .plain .quoted
  | .quoted q, c => if c = '\\' then .escaped q else if c = q.mark then .plain else .quoted q
  | .escaped q, _ => .quoted q

/-- The place behind a text. -/
def after (p : Place) (cs : List Char) : Place := cs.foldl next p

/-- What is written for a character. -/
def written : Place → Char → List Char
  | .plain, c => if c = '?' then ['%', 's'] else formatChar c
  | .quoted _, c => formatChar c
  | .escaped _, c => [c]

/-- What is written for a text. -/
def converted : Place → List Char → List Char
  | _, [] => []
  | p, c :: cs => p.written c ++ (p.next c).converted cs

/-- Which characters are question marks outside quotes. -/
def marks : Place → List Char → List Bool
  | _, [] => []
  | p, c :: cs => decide (p = .plain ∧ c = '?') :: (p.next c).marks cs

/-- The conversion resumed at a place. -/
def conversion : Place → List Char → List Char
  | .plain, cs => convertPlain cs
  | .quoted q, cs => convertQuoted q.mark cs
  | .escaped _, [] => []
  | .escaped q, c :: cs => c :: convertQuoted q.mark cs

theorem conversion_eq_converted (p : Place) (cs : List Char) : p.conversion cs = p.converted cs := by
  induction cs generalizing p with
  | nil => cases p <;> simp [conversion, converted, convertPlain, convertQuoted]
  | cons c cs ih =>
    have hplain : convertPlain cs = Place.plain.converted cs := ih .plain
    have hquoted (q : Quote) : convertQuoted q.mark cs = (Place.quoted q).converted cs :=
      ih (.quoted q)
    cases p with
    | plain =>
      show convertPlain (c :: cs) = _
      rw [convertPlain, opensQuote_eq, converted, written, next]
      rcases hopen : Quote.opened? c with _ | q
      · by_cases hmark : c = '?' <;> simp [hmark, hplain]
      · have hc : c = q.mark := Quote.opened?_eq_some.mp hopen
        have hformat : formatChar c = [c] := by
          cases q <;> simp [hc, formatChar, Quote.mark]
        have hmark : c ≠ '?' := by
          cases q <;> simp [hc, Quote.mark]
        rw [Option.isSome_some, if_pos rfl, if_neg hmark, hformat, hc, hquoted]
        rfl
    | quoted q =>
      show convertQuoted q.mark (c :: cs) = _
      rw [convertQuoted.eq_def, converted, written, next]
      dsimp only
      by_cases hslash : c = '\\'
      · have hescaped := ih (.escaped q)
        subst hslash
        rw [if_pos rfl, if_pos rfl, ← hescaped]
        cases cs <;> rfl
      · by_cases hmark : c = q.mark
        · rw [if_neg hslash, if_pos hmark, if_neg hslash, if_pos hmark, hplain]
        · rw [if_neg hslash, if_neg hmark, if_neg hslash, if_neg hmark, hquoted]
    | escaped q =>
      show c :: convertQuoted q.mark cs = _
      rw [hquoted]
      rfl

end Place

theorem toList_convertPlaceholders (sql : String) :
    (convertPlaceholders sql).toList = Place.plain.converted sql.toList := by
  rw [convertPlaceholders, String.toList_ofList]
  exact Place.conversion_eq_converted .plain sql.toList

/-! ## Where characters stand -/

/-- A character occurs in a text at a place of some kind. -/
def Place.Meets (p : Place) (x : Char) (kind : Place → Prop) (cs : List Char) : Prop :=
  ∃ us vs, cs = us ++ x :: vs ∧ kind (p.after us)

theorem Place.not_meets_nil (p : Place) (x : Char) (kind : Place → Prop) : ¬ p.Meets x kind [] := by
  rintro ⟨us, vs, h, -⟩
  cases us <;> cases h

theorem Place.meets_cons {p : Place} {x c : Char} {kind : Place → Prop} {cs : List Char} :
    p.Meets x kind (c :: cs) ↔ c = x ∧ kind p ∨ (p.next c).Meets x kind cs := by
  constructor
  · rintro ⟨us, vs, h, hkind⟩
    cases us with
    | nil =>
      obtain ⟨rfl, -⟩ := List.cons.inj h
      exact .inl ⟨rfl, hkind⟩
    | cons u us =>
      obtain ⟨rfl, rfl⟩ := List.cons.inj h
      exact .inr ⟨us, vs, rfl, hkind⟩
  · rintro (⟨rfl, hkind⟩ | ⟨us, vs, rfl, hkind⟩)
    · exact ⟨[], cs, rfl, hkind⟩
    · exact ⟨c :: us, vs, rfl, hkind⟩

instance Place.decidableMeets (x : Char) (kind : Place → Prop) [DecidablePred kind] :
    ∀ (p : Place) (cs : List Char), Decidable (p.Meets x kind cs)
  | p, [] => .isFalse (p.not_meets_nil x kind)
  | p, c :: cs =>
    have := decidableMeets x kind (p.next c) cs
    decidable_of_iff' _ meets_cons

/-! ## Question marks that became conversions -/

/-- A text is another one of which the question marks at the flagged places were turned into
conversions. Percent signs may have been doubled, and all else stayed. -/
inductive Turned : List Char → List Bool → List Char → Prop
  | nil : Turned [] [] []
  | conversion {cs : List Char} {fs : List Bool} {out : List Char} (h : Turned cs fs out) :
    Turned ('?' :: cs) (true :: fs) ('%' :: 's' :: out)
  | percent {cs : List Char} {fs : List Bool} {out : List Char} (h : Turned cs fs out) :
    Turned ('%' :: cs) (false :: fs) ('%' :: '%' :: out)
  | same (c : Char) {cs : List Char} {fs : List Bool} {out : List Char} (h : Turned cs fs out) :
    Turned (c :: cs) (false :: fs) (c :: out)

theorem Turned.formatChar (c : Char) {cs : List Char} {fs : List Bool} {out : List Char}
    (h : Turned cs fs out) : Turned (c :: cs) (false :: fs) (formatChar c ++ out) := by
  by_cases hc : c = '%'
  · subst hc
    exact .percent h
  · rw [Sql.formatChar, if_neg hc]
    exact .same c h

theorem Place.turned_converted (p : Place) (cs : List Char) :
    Turned cs (p.marks cs) (p.converted cs) := by
  induction cs generalizing p with
  | nil => exact .nil
  | cons c cs ih =>
    have htail := ih (p.next c)
    cases p with
    | plain =>
      by_cases hmark : c = '?'
      · subst hmark
        exact .conversion htail
      · rw [marks, converted, written, if_neg hmark, decide_eq_false (by simp [hmark])]
        exact htail.formatChar c
    | quoted q => exact htail.formatChar c
    | escaped q => exact .same c htail

/-- The places of the conversions can be told from the texts: percent signs aside, a conversion
leaves an `s` where a question mark stood. -/
theorem Turned.flags_unique {cs : List Char} {fs gs : List Bool} {out out' : List Char}
    (h : Turned cs fs out) (h' : Turned cs gs out')
    (heq : out.filter (· ≠ '%') = out'.filter (· ≠ '%')) : fs = gs := by
  induction h generalizing gs out' with
  | nil =>
    cases h'
    rfl
  | conversion _ ih =>
    cases h' with
    | conversion h' => rw [ih h' (by simpa using heq)]
    | same _ h' => simp at heq
  | percent _ ih =>
    cases h' with
    | percent h' => rw [ih h' (by simpa using heq)]
    | same _ h' => rw [ih h' (by simpa using heq)]
  | same c _ ih =>
    cases h' with
    | conversion h' => simp at heq
    | percent h' => rw [ih h' (by simpa using heq)]
    | same _ h' =>
      by_cases hc : c = '%'
      · subst hc
        rw [ih h' (by simpa using heq)]
      · rw [ih h' (by simpa [hc] using heq)]

theorem turned_convertPlaceholders_iff {sql : String} {fs : List Bool} :
    Turned sql.toList fs (convertPlaceholders sql).toList ↔ fs = Place.plain.marks sql.toList := by
  rw [toList_convertPlaceholders]
  constructor
  · intro h
    exact h.flags_unique (Place.plain.turned_converted sql.toList) rfl
  · rintro rfl
    exact Place.plain.turned_converted sql.toList

end SqlDesk.Sql
