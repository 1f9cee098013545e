import SqlDesk.Sql.Like
import SqlDesk.Sql.Metadata

/-!
# What LIKE patterns match

`Likes` says by rules which texts a pattern matches. The reader of patterns gives the same meaning
to every pattern in which no backslash is left over. A pattern made of a start matches exactly the
names with this start if there is no backslash in it; the wildcards are escaped, a backslash is not.
-/

namespace SqlDesk.Sql

/-- A text matches a LIKE pattern. -/
inductive Likes : List Char → List Char → Prop
  | nil : Likes [] []
  | any (skipped : List Char) {ps cs : List Char} (h : Likes ps cs) :
    Likes ('%' :: ps) (skipped ++ cs)
  | one (c : Char) {ps cs : List Char} (h : Likes ps cs) : Likes ('_' :: ps) (c :: cs)
  | escaped (c : Char) {ps cs : List Char} (h : Likes ps cs) : Likes ('\\' :: c :: ps) (c :: cs)
  | plain {c : Char} (hany : c ≠ '%') (hone : c ≠ '_') (hslash : c ≠ '\\') {ps cs : List Char}
    (h : Likes ps cs) : Likes (c :: ps) (c :: cs)

/-- No backslash is left over at the end of a pattern. -/
def complete : List Char → Bool
  | [] => true
  | ['\\'] => false
  | '\\' :: _ :: ps => complete ps
  | _ :: ps => complete ps

theorem complete_cons {c : Char} (hslash : c ≠ '\\') (ps : List Char) :
    complete (c :: ps) = complete ps := by
  rw [complete.eq_def]
  split <;> simp_all

/-- Induction over a text in which a backslash goes with the character behind it. -/
@[elab_as_elim]
theorem escape_induction {motive : List Char → Prop} (nil : motive []) (slash : motive ['\\'])
    (escaped : ∀ c ps, motive ps → motive ('\\' :: c :: ps))
    (plain : ∀ c ps, c ≠ '\\' → motive ps → motive (c :: ps)) (ps : List Char) : motive ps := by
  induction ps using complete.induct with
  | case1 => exact nil
  | case2 => exact slash
  | case3 c ps ih => exact escaped c ps ih
  | case4 c ps hlast hescape ih =>
    refine plain c ps ?_ ih
    rintro rfl
    cases ps with
    | nil => exact hlast rfl rfl
    | cons d ps => exact hescape d ps rfl rfl

section Rules

variable {c : Char} {ps cs : List Char}

theorem likes_nil_iff : Likes [] cs ↔ cs = [] := by
  constructor
  · rintro ⟨⟩
    rfl
  · rintro rfl
    exact .nil

theorem likes_any_iff : Likes ('%' :: ps) cs ↔ ∃ rest, rest <:+ cs ∧ Likes ps rest := by
  constructor
  · intro h
    cases h with
    | any skipped h => exact ⟨_, List.suffix_append .., h⟩
    | plain hany => exact absurd rfl hany
  · rintro ⟨rest, ⟨skipped, rfl⟩, h⟩
    exact .any skipped h

theorem likes_one_iff : Likes ('_' :: ps) cs ↔ ∃ c rest, cs = c :: rest ∧ Likes ps rest := by
  constructor
  · intro h
    cases h with
    | one c h => exact ⟨c, _, rfl, h⟩
    | plain _ hone => exact absurd rfl hone
  · rintro ⟨c, rest, rfl, h⟩
    exact .one c h

theorem likes_escaped_iff : Likes ('\\' :: c :: ps) cs ↔ ∃ rest, cs = c :: rest ∧ Likes ps rest := by
  constructor
  · intro h
    cases h with
    | escaped _ h => exact ⟨_, rfl, h⟩
    | plain _ _ hslash => exact absurd rfl hslash
  · rintro ⟨rest, rfl, h⟩
    exact .escaped c h

theorem likes_plain_iff (hany : c ≠ '%') (hone : c ≠ '_') (hslash : c ≠ '\\') :
    Likes (c :: ps) cs ↔ ∃ rest, cs = c :: rest ∧ Likes ps rest := by
  constructor
  · intro h
    cases h with
    | any => exact absurd rfl hany
    | one => exact absurd rfl hone
    | escaped => exact absurd rfl hslash
    | plain _ _ _ h => exact ⟨_, rfl, h⟩
  · rintro ⟨rest, rfl, h⟩
    exact .plain hany hone hslash h

end Rules

/-! ## Patterns as they are read -/

theorem mem_suffixes {ds cs : List Char} : ds ∈ suffixes cs ↔ ds <:+ cs := by
  induction cs with
  | nil => simp [suffixes]
  | cons c cs ih => rw [suffixes, List.mem_cons, ih, List.suffix_cons_iff]

section Items

variable {items : List LikeItem} {cs : List Char}

theorem matchesAll_nil : matchesAll [] cs = true ↔ cs = [] := by
  rw [matchesAll, List.isEmpty_iff]

theorem matchesAll_any :
    matchesAll (.any :: items) cs = true ↔ ∃ rest, rest <:+ cs ∧ matchesAll items rest = true := by
  rw [matchesAll, List.any_eq_true]
  simp only [mem_suffixes]

theorem matchesAll_one :
    matchesAll (.one :: items) cs = true ↔
      ∃ c rest, cs = c :: rest ∧ matchesAll items rest = true := by
  cases cs with
  | nil => simp [matchesAll]
  | cons c cs =>
    rw [matchesAll]
    constructor
    · exact fun h => ⟨c, cs, rfl, h⟩
    · rintro ⟨d, rest, hcons, h⟩
      obtain ⟨-, rfl⟩ := List.cons.inj hcons
      exact h

theorem matchesAll_literal {c : Char} :
    matchesAll (.literal c :: items) cs = true ↔
      ∃ rest, cs = c :: rest ∧ matchesAll items rest = true := by
  cases cs with
  | nil => simp [matchesAll]
  | cons d cs =>
    rw [matchesAll, Bool.and_eq_true, beq_iff_eq]
    constructor
    · rintro ⟨rfl, h⟩
      exact ⟨cs, rfl, h⟩
    · rintro ⟨rest, hcons, h⟩
      obtain ⟨rfl, rfl⟩ := List.cons.inj hcons
      exact ⟨rfl, h⟩

end Items

theorem readLike_cons {c : Char} (hany : c ≠ '%') (hone : c ≠ '_') (hslash : c ≠ '\\')
    (ps : List Char) : readLike false (c :: ps) = .literal c :: readLike false ps := by
  rw [readLike, if_neg Bool.false_ne_true, if_neg hslash, if_neg hany, if_neg hone]

/-- The reader gives every complete pattern its meaning. -/
theorem matchesAll_readLike {ps : List Char} (h : complete ps = true) (cs : List Char) :
    matchesAll (readLike false ps) cs = true ↔ Likes ps cs := by
  induction ps using escape_induction generalizing cs with
  | nil => rw [readLike, matchesAll_nil, likes_nil_iff]
  | slash => cases h
  | escaped c ps ih =>
    have hread : readLike false ('\\' :: c :: ps) = .literal c :: readLike false ps := rfl
    rw [hread, matchesAll_literal, likes_escaped_iff]
    simp only [ih h]
  | plain c ps hslash ih =>
    rw [complete_cons hslash] at h
    by_cases hany : c = '%'
    · subst hany
      show matchesAll (.any :: readLike false ps) cs = true ↔ _
      rw [matchesAll_any, likes_any_iff]
      simp only [ih h]
    by_cases hone : c = '_'
    · subst hone
      show matchesAll (.one :: readLike false ps) cs = true ↔ _
      rw [matchesAll_one, likes_one_iff]
      simp only [ih h]
    · rw [readLike_cons hany hone hslash, matchesAll_literal, likes_plain_iff hany hone hslash]
      simp only [ih h]

/-! ## Patterns for a start -/

/-- The pattern for the texts with a start. -/
def startingWith (cs : List Char) : List Char := cs.flatMap escapeWildcard ++ ['%']

theorem startingWith_cons (c : Char) (cs : List Char) :
    startingWith (c :: cs) = escapeWildcard c ++ startingWith cs := by
  rw [startingWith, List.flatMap_cons, List.append_assoc]
  rfl

theorem likes_startingWith_nil (cs : List Char) : Likes (startingWith []) cs := by
  have hrest : Likes ('%' :: []) (cs ++ []) := .any cs .nil
  rwa [List.append_nil] at hrest

/-- A character of the start other than a backslash is matched by itself alone. -/
theorem likes_startingWith_cons {c : Char} (hslash : c ≠ '\\') (cs ds : List Char) :
    Likes (startingWith (c :: cs)) ds ↔ ∃ rest, ds = c :: rest ∧ Likes (startingWith cs) rest := by
  rw [startingWith_cons]
  by_cases hwild : c = '_' ∨ c = '%'
  · rw [escapeWildcard, if_pos hwild]
    exact likes_escaped_iff
  · obtain ⟨hone, hany⟩ := not_or.mp hwild
    rw [escapeWildcard, if_neg hwild]
    exact likes_plain_iff hany hone hslash

theorem likes_startingWith {cs : List Char} (h : '\\' ∉ cs) (ds : List Char) :
    Likes (startingWith cs) ds ↔ cs <+: ds := by
  induction cs generalizing ds with
  | nil => exact iff_of_true (likes_startingWith_nil ds) List.nil_prefix
  | cons c cs ih =>
    obtain ⟨hc, hcs⟩ := not_or.mp (mt List.mem_cons.mpr h)
    rw [likes_startingWith_cons (Ne.symm hc)]
    constructor
    · rintro ⟨rest, rfl, hrest⟩
      exact List.cons_prefix_cons.mpr ⟨rfl, (ih hcs rest).mp hrest⟩
    · rintro ⟨rest, rfl⟩
      exact ⟨cs ++ rest, rfl, (ih hcs _).mpr (List.prefix_append cs rest)⟩

/-- A match that is no longer than the start, and another text if there is a backslash in the start:
with the character behind it the backslash makes a literal that is shorter than the two. -/
theorem exists_short_match (cs : List Char) :
    ∃ ds, ds.length ≤ cs.length ∧ (ds = cs → '\\' ∉ cs) ∧ Likes (startingWith cs) ds := by
  induction cs using escape_induction with
  | nil => exact ⟨[], Nat.le_refl _, fun _ => List.not_mem_nil, likes_startingWith_nil []⟩
  | slash => exact ⟨['%'], Nat.le_refl _, by simp, .escaped '%' .nil⟩
  | escaped c cs ih =>
    obtain ⟨ds, hlength, -, hlikes⟩ := ih
    rw [startingWith_cons, startingWith_cons]
    by_cases hone : c = '_'
    · subst hone
      exact ⟨'\\' :: 'x' :: ds, by simpa using hlength, by simp, .escaped '\\' (.one 'x' hlikes)⟩
    have hlt (d : Char) : (d :: ds).length < ('\\' :: c :: cs).length :=
      Nat.succ_lt_succ (Nat.lt_succ_of_le hlength)
    have hne (d : Char) : d :: ds ≠ '\\' :: c :: cs := fun heq =>
      Nat.ne_of_lt (hlt d) (congrArg List.length heq)
    by_cases hany : c = '%'
    · subst hany
      exact ⟨'\\' :: ds, Nat.le_of_lt (hlt _), fun heq => absurd heq (hne _),
        .escaped '\\' (.any [] hlikes)⟩
    · rw [escapeWildcard.eq_def c, if_neg (by simp [hone, hany])]
      exact ⟨c :: ds, Nat.le_of_lt (hlt _), fun heq => absurd heq (hne _), .escaped c hlikes⟩
  | plain c cs hslash ih =>
    obtain ⟨ds, hlength, hne, hlikes⟩ := ih
    refine ⟨c :: ds, Nat.succ_le_succ hlength, ?_, ?_⟩
    · intro heq hmem
      have hcs := hne (List.cons.inj heq).2
      exact hcs ((List.mem_cons.mp hmem).resolve_left (Ne.symm hslash))
    · exact (likes_startingWith_cons hslash cs _).mpr ⟨ds, rfl, hlikes⟩

/-! ## Names -/

/-- A name matches a pattern. -/
def LikesName (pattern name : String) : Prop := Likes pattern.toList name.toList

theorem toList_startPattern (start : String) :
    (escapeWildcards start ++ "%").toList = startingWith start.toList := by
  rw [escapeWildcards, String.toList_append, String.toList_ofList]
  rfl

/-- The pattern for a start matches exactly the names with it if and only if there is no backslash
in the start. -/
theorem startPattern_exact_iff (start : String) :
    (∀ name : String, LikesName (escapeWildcards start ++ "%") name ↔
      start.toList <+: name.toList) ↔ '\\' ∉ start.toList := by
  unfold LikesName
  rw [toList_startPattern]
  constructor
  · intro h hmem
    obtain ⟨ds, hlength, hne, hlikes⟩ := exists_short_match start.toList
    have hstart := (h (String.ofList ds)).mp (by rwa [String.toList_ofList])
    rw [String.toList_ofList] at hstart
    exact hne (hstart.eq_of_length_le hlength).symm hmem
  · intro h name
    exact likes_startingWith h name.toList

/-- An underscore behind a backslash is not escaped but made a wildcard again. -/
theorem escaped_underscore_wild :
    let start := "a\\_b"
    LikesName (escapeWildcards start ++ "%") "a\\xb" ∧ ¬ start.toList <+: "a\\xb".toList := by
  intro start
  constructor
  · have hpattern : (escapeWildcards start ++ "%").toList =
        'a' :: '\\' :: '\\' :: '_' :: startingWith ['b'] := by
      rw [toList_startPattern]
      decide
    have hrest : Likes (startingWith ['b']) ['b'] :=
      (likes_startingWith (by decide) _).mpr (List.prefix_refl _)
    have hname : "a\\xb".toList = ['a', '\\', 'x', 'b'] := by decide
    rw [LikesName, hpattern, hname]
    exact .plain (by decide) (by decide) (by decide) (.escaped '\\' (.one 'x' hrest))
  · decide

end SqlDesk.Sql
