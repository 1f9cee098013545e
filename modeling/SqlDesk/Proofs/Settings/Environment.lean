import Mathlib.Data.List.TakeWhile
import SqlDesk.Settings.Environment

/-!
# Expanding texts

A text that is nothing but a reference becomes the value of its variable, whatever that value is. A
text in which no reference starts stays as it is.
-/

namespace SqlDesk.Settings

/-- A reference that is spelled out somewhere in a text. -/
def HasReference (cs : List Char) : Prop :=
  ∃ body, body ≠ [] ∧ '\x7d' ∉ body ∧ '$' :: '\x7b' :: (body ++ ['\x7d']) <:+: cs

theorem not_hasReference_of_notMem {cs : List Char} (h : '$' ∉ cs) : ¬ HasReference cs :=
  fun ⟨_, _, _, hin⟩ => h (hin.subset List.mem_cons_self)

theorem eq_append_of_referenceBody {cs body rest : List Char}
    (h : referenceBody cs = some (body, rest)) :
    body ≠ [] ∧ '\x7d' ∉ body ∧ cs = body ++ '\x7d' :: rest := by
  have hsplit := List.takeWhile_append_dropWhile (p := (· != '\x7d')) (l := cs)
  have hbrace : '\x7d' ∉ cs.takeWhile (· != '\x7d') := by
    intro hmem
    have hne := List.mem_takeWhile_imp hmem
    simp at hne
  unfold referenceBody at h
  dsimp only at h
  split at h
  · cases h
  · rename_i hbody c after hafter hnonempty
    obtain ⟨rfl, rfl⟩ := Prod.mk.inj (Option.some.inj h)
    have hc : c = '\x7d' := by
      have hnot := List.head_dropWhile_not (p := (· != '\x7d')) (l := cs) (by simp [hafter])
      simpa [hafter] using hnot
    subst hc
    rw [hafter] at hsplit
    exact ⟨hnonempty, hbrace, hsplit.symm⟩
  · cases h

/-- A text without references comes to itself. -/
theorem Environment.expand_of_not_hasReference (env : Environment) {x : String}
    (h : ¬ HasReference x.toList) : env.expand x = x := by
  have key (fuel : Nat) (cs : List Char) (hcs : ¬ HasReference cs) :
      env.expandChars fuel cs = cs := by
    have htail {c : Char} {cs : List Char} (h : ¬ HasReference (c :: cs)) : ¬ HasReference cs :=
      fun ⟨body, hne, hbrace, hin⟩ =>
        h ⟨body, hne, hbrace, hin.trans (List.infix_cons List.infix_rfl)⟩
    fun_induction Environment.expandChars env fuel cs with
    | case1 => rfl
    | case2 => rfl
    | case3 fuel cs body rest hbody ih =>
      obtain ⟨hne, hbrace, rfl⟩ := eq_append_of_referenceBody hbody
      exact absurd ⟨body, hne, hbrace, [], rest, by simp⟩ hcs
    | case4 fuel cs hbody ih => rw [ih (htail hcs)]
    | case5 fuel c cs _ ih => rw [ih (htail hcs)]
  unfold Environment.expand
  rw [key _ _ h, String.ofList_toList]

/-- A text in which no reference starts comes to itself. -/
theorem Environment.expand_eq_self (env : Environment) {x : String}
    (h : ¬ ['$', '\x7b'] <:+: x.toList) : env.expand x = x := by
  refine env.expand_of_not_hasReference fun ⟨body, _, _, hin⟩ => h ?_
  exact List.IsInfix.trans ⟨[], body ++ ['\x7d'], rfl⟩ hin

/-- The name of a variable that a reference can spell. -/
structure IsVariable (name : String) : Prop where
  nonempty : name.toList ≠ []
  colon : ':' ∉ name.toList
  brace : '\x7d' ∉ name.toList

/-- A reference to a variable. -/
def reference (name : String) : String := "$\x7b" ++ name ++ "\x7d"

theorem toList_reference (name : String) :
    (reference name).toList = '$' :: '\x7b' :: (name.toList ++ ['\x7d']) := by
  unfold reference
  rw [String.toList_append, String.toList_append, List.append_assoc]
  rfl

/-- The body of a reference ends at the first closing brace. -/
theorem referenceBody_append {body : List Char} (hbody : body ≠ []) (hbrace : '\x7d' ∉ body)
    (rest : List Char) : referenceBody (body ++ '\x7d' :: rest) = some (body, rest) := by
  have hall : ∀ c ∈ body, (c != '\x7d') = true := by
    intro c hc
    rw [bne_iff_ne]
    rintro rfl
    exact hbrace hc
  have htake : (body ++ '\x7d' :: rest).takeWhile (· != '\x7d') = body := by
    rw [List.takeWhile_append_of_pos hall, List.takeWhile_cons_of_neg (by simp), List.append_nil]
  have hdrop : (body ++ '\x7d' :: rest).dropWhile (· != '\x7d') = '\x7d' :: rest := by
    rw [List.dropWhile_append_of_pos hall, List.dropWhile_cons_of_neg (by simp)]
  unfold referenceBody
  rw [htake, hdrop]
  rcases body with _ | ⟨c, body⟩
  · exact absurd rfl hbody
  · rfl

theorem Environment.resolve_name (env : Environment) {name : String} (h : ':' ∉ name.toList) :
    env.resolve name.toList = (Assoc.get? env name).getD "" := by
  have hall : ∀ c ∈ name.toList, (c != ':') = true := by
    intro c hc
    rw [bne_iff_ne]
    rintro rfl
    exact h hc
  have htake : name.toList.takeWhile (· != ':') = name.toList :=
    List.takeWhile_eq_self_iff.mpr hall
  have hdrop : name.toList.dropWhile (· != ':') = [] := List.dropWhile_eq_nil_iff.mpr hall
  unfold Environment.resolve
  rw [htake, hdrop, String.ofList_toList]
  rfl

/-- A reference stands for the value of its variable, whatever characters are in it. -/
theorem Environment.expand_reference (env : Environment) {name : String} (h : IsVariable name) :
    env.expand (reference name) = (Assoc.get? env name).getD "" := by
  have hbody := referenceBody_append h.nonempty h.brace []
  unfold Environment.expand
  rw [← String.length_toList, toList_reference, List.length_cons, Environment.expandChars, hbody]
  dsimp only
  rw [env.resolve_name h.colon]
  have hend (fuel : Nat) : env.expandChars fuel [] = [] := by cases fuel <;> rfl
  rw [hend, List.append_nil, String.ofList_toList]

end SqlDesk.Settings
