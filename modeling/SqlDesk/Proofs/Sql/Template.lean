import SqlDesk.Proofs.Sql.Lexer
import SqlDesk.Sql.Metadata

/-!
# Statements with texts filled in

A statement is fixed text with slots for identifiers and literals. `lex_render`: if the slots are
well spaced, the tokens of the statement are those of the fixed text, with one token for each text
between them. So the texts that are filled in change neither the number of tokens nor any other
token.
-/

namespace SqlDesk.Sql

/-- A part of a statement. -/
inductive Slot where
  | fixed (sql : String)
  /-- An identifier. -/
  | name
  /-- A list of so many literals. -/
  | literals (count : Nat)
deriving DecidableEq, Repr

/-- The number of texts that slots take. -/
def arity : List Slot → Nat
  | [] => 0
  | .fixed _ :: slots => arity slots
  | .name :: slots => arity slots + 1
  | .literals n :: slots => arity slots + n

/-- The statement of slots that are filled with texts, in order. -/
def render (literal : String → String) : List Slot → List String → String
  | [], _ | .name :: _, [] => ""
  | .fixed sql :: slots, given => sql ++ render literal slots given
  | .name :: slots, s :: given => backquote s ++ render literal slots given
  | .literals n :: slots, given =>
    literals literal (given.take n) ++ render literal slots (given.drop n)

/-- The tokens of a list of literals. -/
def listed (ss : List String) : List Token := (ss.map Token.text).intersperse (.symbol ',')

/-- The tokens of slots that are filled with texts, in order; none if the texts are too many or too
few. -/
def fill : List Slot → List String → Option (List Token)
  | [], [] => some []
  | [], _ :: _ => none
  | .fixed sql :: slots, given => (lex sql).bind fun ts => (fill slots given).map (ts ++ ·)
  | .name :: _, [] => none
  | .name :: slots, s :: given => (fill slots given).map (.identifier s :: ·)
  | .literals n :: slots, given =>
    if n ≤ given.length then (fill slots (given.drop n)).map (listed (given.take n) ++ ·) else none

/-- Whether what follows a slot that is to be filled leaves its closing quote alone. -/
def startsOff : List Slot → Bool
  | [] => true
  | .fixed sql :: _ => !sql.toList.isEmpty && startsPlain sql.toList
  | .name :: _ | .literals _ :: _ => false

/-- Whether fixed text has tokens of its own: it ends outside any, unless the statement ends, and
stands between all slots that are to be filled. -/
def wellSpaced : List Slot → Bool
  | [] => true
  | .fixed sql :: slots =>
    (if slots.isEmpty then (lex sql).isSome else (scan .blank sql.toList).2 == .blank) &&
      wellSpaced slots
  | .name :: slots | .literals _ :: slots => startsOff slots && wellSpaced slots

theorem wellSpaced_fixed {sql : String} {slots : List Slot}
    (h : (scan .blank sql.toList).2 = .blank) (hslots : wellSpaced slots = true) :
    wellSpaced (.fixed sql :: slots) = true := by
  cases slots <;> simp [wellSpaced, lex, read, h, finish] at hslots ⊢
  exact hslots

/-- A token without the text between its quotes. -/
def Token.shape : Token → Token
  | .identifier _ => .identifier ""
  | .text _ => .text ""
  | t => t

theorem listed_shape : ∀ ss, (listed ss).map Token.shape = listed (List.replicate ss.length "")
  | [] | [_] => rfl
  | s :: t :: ss => by
    show .text "" :: .symbol ',' :: (listed (t :: ss)).map Token.shape = _
    rw [listed_shape (t :: ss)]
    rfl

/-- What fills the slots shows only between quotes. -/
theorem fill_shape {slots : List Slot} {given given' : List String} {ts ts' : List Token}
    (h : fill slots given = some ts) (h' : fill slots given' = some ts') :
    ts.map Token.shape = ts'.map Token.shape := by
  induction slots generalizing given given' ts ts' with
  | nil =>
    cases given <;> cases given' <;> simp [fill] at h h'
    rw [h, h']
  | cons slot slots ih =>
    match slot with
    | .fixed sql =>
      simp only [fill, Option.bind_eq_some_iff, Option.map_eq_some_iff] at h h'
      obtain ⟨us, hus, vs, hvs, rfl⟩ := h
      obtain ⟨us', hus', vs', hvs', rfl⟩ := h'
      obtain rfl : us = us' := Option.some.inj (hus.symm.trans hus')
      rw [List.map_append, List.map_append, ih hvs hvs']
    | .name =>
      cases given <;> cases given' <;> simp [fill] at h h'
      obtain ⟨vs, hvs, rfl⟩ := h
      obtain ⟨vs', hvs', rfl⟩ := h'
      rw [List.map_cons, List.map_cons, ih hvs hvs']
      rfl
    | .literals n =>
      simp only [fill, Option.ite_none_right_eq_some, Option.map_eq_some_iff] at h h'
      obtain ⟨hn, vs, hvs, rfl⟩ := h
      obtain ⟨hn', vs', hvs', rfl⟩ := h'
      rw [List.map_append, List.map_append, ih hvs hvs', listed_shape, listed_shape,
        List.length_take_of_le hn, List.length_take_of_le hn']

section Reading

variable {escape : String → String} {slots : List Slot} {given : List String}

theorem startsPlain_render (h : startsOff slots = true) (literal : String → String) :
    startsPlain (render literal slots given).toList = true := by
  match slots with
  | [] => rfl
  | .fixed sql :: slots =>
    rw [render, String.toList_append]
    rcases hsql : sql.toList with _ | ⟨c, cs⟩
    · simp [startsOff, hsql] at h
    · simpa [startsOff, hsql, startsPlain] using h
  | .name :: _ | .literals _ :: _ => simp [startsOff] at h

theorem read_backquote {cs : List Char} (h : startsPlain cs = true) (name : String) :
    read .blank ((backquote name).toList ++ cs) = (read .blank cs).map (.identifier name :: ·) := by
  rw [read_append (scan_backquote name), read_closed h]
  simp [Quote.token, Function.comp_def]

theorem read_quoted (hescape : Faithful escape) {cs : List Char} (h : startsPlain cs = true)
    (text : String) :
    read .blank ((quoted escape text).toList ++ cs) = (read .blank cs).map (.text text :: ·) := by
  rw [read_append (hescape.scan_quoted text), read_closed h]
  simp [Quote.token, Function.comp_def]

theorem read_literals (hescape : Faithful escape) {cs : List Char} (h : startsPlain cs = true) :
    ∀ ss, read .blank ((literals (quoted escape) ss).toList ++ cs) =
      (read .blank cs).map (listed ss ++ ·)
  | [] => by simp [literals, listed]
  | [s] => by
    rw [literals, List.map_singleton, String.intercalate_singleton, read_quoted hescape h]
    rfl
  | s :: t :: ss => by
    have hcomma : scan .blank [',', ' '] = ([.symbol ','], .blank) := by decide
    have htext : ", ".toList = [',', ' '] := rfl
    rw [literals, List.map_cons, List.map_cons, String.intercalate_cons_cons, String.toList_append,
      String.toList_append, htext, List.append_assoc, List.append_assoc,
      read_quoted hescape (by rfl), read_append hcomma, ← List.map_cons, ← literals,
      read_literals hescape h (t :: ss), Option.map_map, Option.map_map]
    rfl

/-- Fixed text that ends outside any token is read by itself. -/
theorem read_fixed (sql : String) (h : (scan .blank sql.toList).2 = .blank) (cs : List Char) :
    ∃ us, lex sql = some us ∧ read .blank (sql.toList ++ cs) = (read .blank cs).map (us ++ ·) := by
  have hscan : scan .blank sql.toList = ((scan .blank sql.toList).1, .blank) := Prod.ext rfl h
  refine ⟨(scan .blank sql.toList).1, ?_, read_append hscan cs⟩
  rw [lex, read, h, finish, Option.map_some, List.append_nil]

/-- Well spaced slots read as they are filled, whatever the texts are. -/
theorem lex_render (hescape : Faithful escape) (h : wellSpaced slots = true)
    (hgiven : given.length = arity slots) :
    ∃ ts, lex (render (quoted escape) slots given) = some ts ∧ fill slots given = some ts := by
  unfold lex
  -- a slot takes its texts off the front; well spaced slots are told apart by the lexer
  induction slots generalizing given with
  | nil =>
    obtain rfl : given = [] := List.length_eq_zero_iff.mp hgiven
    exact ⟨[], rfl, rfl⟩
  | cons slot slots ih =>
    match slot with
    | .fixed sql =>
      obtain ⟨hend, hrest⟩ := Bool.and_eq_true_iff.mp h
      obtain ⟨ts, hts, hfill⟩ := ih hrest hgiven
      rw [render, String.toList_append]
      by_cases hlast : slots.isEmpty
      · obtain rfl : slots = [] := List.isEmpty_iff.mp hlast
        obtain ⟨us, hus⟩ := Option.isSome_iff_exists.mp (by simpa using hend)
        refine ⟨us ++ ts, ?_, by simp [fill, hus, hfill]⟩
        obtain rfl : given = [] := List.length_eq_zero_iff.mp hgiven
        obtain rfl : [] = ts := Option.some.inj hts
        rw [render, List.append_nil, String.toList_empty, List.append_nil]
        exact hus
      · obtain ⟨us, hus, hread⟩ := read_fixed sql (by simpa [hlast] using hend)
          (render (quoted escape) slots given).toList
        exact ⟨us ++ ts, by rw [hread, hts]; rfl, by simp [fill, hus, hfill]⟩
    | .name =>
      obtain ⟨hoff, hrest⟩ := Bool.and_eq_true_iff.mp h
      obtain ⟨s, given, rfl⟩ := List.exists_cons_of_length_eq_add_one hgiven
      obtain ⟨ts, hts, hfill⟩ := ih hrest (Nat.succ.inj hgiven)
      refine ⟨.identifier s :: ts, ?_, by simp [fill, hfill]⟩
      rw [render, String.toList_append, read_backquote (startsPlain_render hoff _), hts]
      rfl
    | .literals n =>
      obtain ⟨hoff, hrest⟩ := Bool.and_eq_true_iff.mp h
      have hn : given.length = arity slots + n := hgiven
      have hrest' : (given.drop n).length = arity slots := by
        rw [List.length_drop]
        omega
      obtain ⟨ts, hts, hfill⟩ := ih hrest hrest'
      have hle : n ≤ given.length := by omega
      refine ⟨listed (given.take n) ++ ts, ?_, by simp [fill, hfill, hle]⟩
      rw [render, String.toList_append, read_literals hescape (startsPlain_render hoff _), hts]
      rfl

end Reading

end SqlDesk.Sql
