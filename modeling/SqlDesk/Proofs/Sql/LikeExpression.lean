import SqlDesk.Proofs.Pattern.Matching
import SqlDesk.Proofs.Pattern.Reading
import SqlDesk.Proofs.Sql.Like
import SqlDesk.Sql.LikeExpression

/-!
# The regular expressions of LIKE patterns

The expression for a LIKE pattern is compiled into one element for each of the pattern. It matches
the names that the pattern matches, and those names with one more line break at the end, because the
end of a line is not only the end of the name.
-/

namespace SqlDesk.Sql

open Pattern (Node Flags Mark Reads Stands Demands Matches)

/-! ## The expression as it is read -/

/-- The element of a regular expression for an element of a LIKE pattern. -/
def LikeItem.node : LikeItem → Node
  | .any => .rep .greedy 0 none [.any]
  | .one => .any
  | .literal c => .char c.toNat

/-- The elements of the regular expression for a LIKE pattern. -/
def Like.nodes (p : Like) : List Node :=
  .anchor .lineStart :: (p.items.map LikeItem.node ++ [.anchor .lineEnd])

theorem isAlphanum_of_mem_expressionSigns : ∀ c ∈ expressionSigns, c.isAlphanum = false := by
  simp [expressionSigns]

theorem metacharacters_subset : Pattern.metacharacters ⊆ expressionSigns := by
  simp [Pattern.metacharacters, expressionSigns]

theorem stands_literalToken (c : Char) : Stands (literalToken c) (.char c.toNat) := by
  unfold literalToken
  split
  · rename_i hsign
    exact .sign (isAlphanum_of_mem_expressionSigns c hsign)
  · rename_i hsign
    exact .plain fun hmeta => hsign (metacharacters_subset hmeta)

theorem reads_items (items : List LikeItem) :
    Reads (items.flatMap LikeItem.tokens ++ [['$']])
      (items.map LikeItem.node ++ [.anchor .lineEnd]) := by
  induction items with
  | nil => exact .anchor .lineEnd .nil
  | cons item items ih =>
    cases item with
    | any => exact .many .any ih
    | one => exact .one .any ih
    | literal c => exact .one (stands_literalToken c) ih

theorem toPattern_eq (p : Like) :
    p.toPattern = .ok { nodes := p.nodes, flags := { dotAll := true } } := by
  have hreads : Reads (['^'] :: (p.items.flatMap LikeItem.tokens ++ [['$']])) p.nodes :=
    .anchor .lineStart (reads_items p.items)
  have htext : p.expression =
      String.ofList (['^'] :: (p.items.flatMap LikeItem.tokens ++ [['$']])).flatten := by
    rw [Like.expression, List.flatten_cons, List.flatten_append, List.cons_append]
    rfl
  rw [Like.toPattern, htext, Pattern.compile_of_reads hreads]
  rfl

/-! ## What the expression matches -/

/-- The line that a text consists of, but for a line break at its end, matches the elements of a
LIKE pattern. -/
def MatchesLine (items : List LikeItem) (cs : List Char) : Prop :=
  ∃ stem rest, cs = stem ++ rest ∧ (rest = [] ∨ rest = ['\n']) ∧ matchesAll items stem = true

section Lines

variable {items : List LikeItem} {cs : List Char}

theorem matchesLine_nil : MatchesLine [] cs ↔ cs = [] ∨ cs = ['\n'] := by
  unfold MatchesLine
  simp only [matchesAll_nil]
  constructor
  · rintro ⟨stem, rest, rfl, hrest, rfl⟩
    exact hrest
  · intro h
    exact ⟨[], cs, rfl, h, rfl⟩

theorem matchesLine_any :
    MatchesLine (.any :: items) cs ↔ ∃ ds, ds <:+ cs ∧ MatchesLine items ds := by
  unfold MatchesLine
  simp only [matchesAll_any]
  constructor
  · rintro ⟨stem, rest, rfl, hrest, ds, ⟨skipped, rfl⟩, h⟩
    refine ⟨ds ++ rest, ⟨skipped, ?_⟩, ds, rest, rfl, hrest, h⟩
    rw [List.append_assoc]
  · rintro ⟨ds, ⟨skipped, rfl⟩, stem, rest, rfl, hrest, h⟩
    refine ⟨skipped ++ stem, rest, ?_, hrest, stem, List.suffix_append .., h⟩
    rw [List.append_assoc]

theorem matchesLine_one :
    MatchesLine (.one :: items) cs ↔ ∃ c ds, cs = c :: ds ∧ MatchesLine items ds := by
  unfold MatchesLine
  simp only [matchesAll_one]
  constructor
  · rintro ⟨stem, rest, rfl, hrest, c, ds, rfl, h⟩
    exact ⟨c, ds ++ rest, rfl, ds, rest, rfl, hrest, h⟩
  · rintro ⟨c, ds, rfl, stem, rest, rfl, hrest, h⟩
    exact ⟨c :: stem, rest, rfl, hrest, c, stem, rfl, h⟩

theorem matchesLine_literal {c : Char} :
    MatchesLine (.literal c :: items) cs ↔ ∃ ds, cs = c :: ds ∧ MatchesLine items ds := by
  unfold MatchesLine
  simp only [matchesAll_literal]
  constructor
  · rintro ⟨stem, rest, rfl, hrest, ds, rfl, h⟩
    exact ⟨ds ++ rest, rfl, ds, rest, rfl, hrest, h⟩
  · rintro ⟨ds, rfl, stem, rest, rfl, hrest, h⟩
    exact ⟨c :: stem, rest, rfl, hrest, stem, rfl, h⟩

end Lines

/-- Where a dot stands for every character, the elements match what is left of a text if it is a line
that matches the LIKE pattern. -/
theorem matches_items {text : Array Char} {f : Flags} (hcase : f.ignoreCase = false)
    (hlines : f.multiline = false) (hdot : f.dotAll = true) (items : List LikeItem) {m : Mark}
    (hpos : m.pos ≤ text.size) :
    Matches text f (items.map LikeItem.node ++ [.anchor .lineEnd]) m ↔
      MatchesLine items (text.toList.drop m.pos) := by
  -- on the elements, from any position: each one consumes what stands before the rest of the text
  induction items generalizing m with
  | nil =>
    rw [List.map_nil, List.nil_append, Pattern.matches_anchor_cons,
      Pattern.holds_lineEnd_iff hlines hpos, matchesLine_nil]
    exact and_iff_left Pattern.matches_nil
  | cons item items ih =>
    have hnext (hlt : m.pos < text.size) :
        Matches text f (items.map LikeItem.node ++ [.anchor .lineEnd]) { m with pos := m.pos + 1 } ↔
          MatchesLine items (text.toList.drop (m.pos + 1)) := ih hlt
    rw [List.map_cons, List.cons_append]
    cases item with
    | any =>
      rw [LikeItem.node, Pattern.matches_anyTimes_cons hdot hpos, matchesLine_any,
        ← Pattern.exists_drop_iff hpos]
      refine exists_congr fun p => and_congr_right fun _ => and_congr_right fun hp => ?_
      exact ih hp
    | one =>
      rw [LikeItem.node, Pattern.matches_any_cons hdot, matchesLine_one]
      constructor
      · rintro ⟨hlt, h⟩
        exact ⟨_, _, List.drop_eq_getElem_cons hlt, (hnext hlt).mp h⟩
      · rintro ⟨c, ds, hcons, h⟩
        obtain ⟨hc, rfl⟩ := Pattern.drop_eq_cons_iff.mp hcons
        have hlt := (Array.getElem?_eq_some_iff.mp hc).1
        exact ⟨hlt, (hnext hlt).mpr h⟩
    | literal c =>
      rw [LikeItem.node, Pattern.matches_char_cons hcase, matchesLine_literal]
      simp only [Pattern.drop_eq_cons_iff]
      constructor
      · rintro ⟨hc, h⟩
        have hlt := (Array.getElem?_eq_some_iff.mp hc).1
        exact ⟨_, ⟨hc, rfl⟩, (hnext hlt).mp h⟩
      · rintro ⟨ds, ⟨hc, rfl⟩, h⟩
        have hlt := (Array.getElem?_eq_some_iff.mp hc).1
        exact ⟨hc, (hnext hlt).mpr h⟩

/-- The expression matches the names that consist of a matching line. -/
theorem matchesStart_iff_matchesLine (p : Like) (name : String) :
    Pattern.matchesStart { nodes := p.nodes, flags := { dotAll := true } } name = true ↔
      MatchesLine p.items name.toList := by
  rw [Pattern.matchesStart_iff, Like.nodes, Pattern.matches_anchor_cons,
    matches_items rfl rfl rfl p.items (Nat.zero_le _)]
  exact and_iff_right rfl

/-- A pattern admits the names that consist of a matching line. -/
theorem admits_iff_matchesLine (p : Like) (name : String) :
    p.admits name = true ↔ MatchesLine p.items name.toList := by
  rw [Like.admits, Bool.or_eq_true, Bool.and_eq_true, beq_iff_eq]
  constructor
  · rintro (h | ⟨hlast, h⟩)
    · exact ⟨name.toList, [], (List.append_nil _).symm, .inl rfl, h⟩
    · obtain ⟨stem, hname⟩ := List.getLast?_eq_some_iff.mp hlast
      rw [hname, List.dropLast_concat] at h
      exact ⟨stem, ['\n'], hname, .inr rfl, h⟩
  · rintro ⟨stem, rest, hname, rfl | rfl, h⟩
    · rw [List.append_nil] at hname
      exact .inl (hname ▸ h)
    · refine .inr ⟨?_, ?_⟩
      · rw [hname, List.getLast?_concat]
      · rwa [hname, List.dropLast_concat]

/-! ## The expression against the meaning of the pattern -/

theorem toList_eq_append_newline {name : String} {stem : List Char} :
    name.toList = stem ++ ['\n'] ↔ name = String.ofList stem ++ "\n" := by
  rw [← String.toList_inj, String.toList_append, String.toList_ofList]
  rfl

theorem matchesLine_iff_likesName {pattern : String} (h : complete pattern.toList = true)
    (name : String) :
    MatchesLine (Like.ofText pattern).items name.toList ↔
      LikesName pattern name ∨ ∃ stem : String, name = stem ++ "\n" ∧ LikesName pattern stem := by
  simp only [MatchesLine, Like.ofText, matchesAll_readLike h]
  constructor
  · rintro ⟨stem, rest, hname, rfl | rfl, hlikes⟩
    · rw [List.append_nil] at hname
      exact .inl (by rwa [LikesName, hname])
    · refine .inr ⟨String.ofList stem, toList_eq_append_newline.mp hname, ?_⟩
      rwa [LikesName, String.toList_ofList]
  · rintro (hlikes | ⟨stem, rfl, hlikes⟩)
    · exact ⟨name.toList, [], (List.append_nil _).symm, .inl rfl, hlikes⟩
    · exact ⟨stem.toList, ['\n'], String.toList_append, .inr rfl, hlikes⟩

/-- The expression of a complete pattern is valid. It matches the names that match the pattern, and
those that do so without a line break at their end; these are the names that the pattern admits. -/
theorem expression_matches_lines (pattern : String) (h : complete pattern.toList = true) :
    ∃ p, (Like.ofText pattern).toPattern = .ok p ∧ ∀ name : String,
      (p.matchesStart name = true ↔
        LikesName pattern name ∨ ∃ stem : String, name = stem ++ "\n" ∧ LikesName pattern stem) ∧
      (Like.ofText pattern).admits name = p.matchesStart name := by
  refine ⟨_, toPattern_eq _, fun name => ⟨?_, ?_⟩⟩
  · rw [matchesStart_iff_matchesLine, matchesLine_iff_likesName h]
  · rw [Bool.eq_iff_iff, matchesStart_iff_matchesLine, admits_iff_matchesLine]

theorem escaped_underscore_expression :
    let pattern := "db\\_%"
    complete pattern.toList = true ∧ ∃ p, (Like.ofText pattern).toPattern = .ok p ∧
      p.matchesStart "db_1" = true ∧ p.matchesStart "dbx1" = false := by
  intro pattern
  have hcomplete : complete pattern.toList = true := by decide
  obtain ⟨p, hp, hmatches⟩ := expression_matches_lines pattern hcomplete
  refine ⟨hcomplete, p, hp, ?_, ?_⟩
  · rw [← (hmatches "db_1").2]
    decide
  · rw [← (hmatches "dbx1").2]
    decide

/-- A name with a line break at its end is let through without it in the pattern. -/
theorem newline_let_through :
    let pattern := "app"
    let name := "app\n"
    complete pattern.toList = true ∧ ¬ LikesName pattern name ∧
      ∃ p, (Like.ofText pattern).toPattern = .ok p ∧ p.matchesStart name = true := by
  intro pattern name
  have hcomplete : complete pattern.toList = true := by decide
  refine ⟨hcomplete, ?_, _, toPattern_eq _, ?_⟩
  · rw [LikesName, ← matchesAll_readLike hcomplete]
    decide
  · rw [matchesStart_iff_matchesLine, matchesLine_iff_likesName hcomplete]
    refine .inr ⟨pattern, rfl, ?_⟩
    rw [LikesName, ← matchesAll_readLike hcomplete]
    decide

end SqlDesk.Sql
