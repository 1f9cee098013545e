import Mathlib.Data.List.SplitBy
import SqlDesk.Order.Natural
import SqlDesk.Proofs.Text.Lower

/-!
# Runs of a text

A text is cut where a digit meets another character. The runs are of alternating kinds, so a text that
is put together from such runs is cut into them again; they are the longest parts of one kind. Lower
case cuts a text in the same places.
-/

namespace SqlDesk.Order

open Text

/-! ## Runs one after the other -/

/-- A run in front of others, of which the first goes on with it if it is of the same kind. -/
def joinRun (run : List Char) : List (List Char) → List (List Char)
  | [] => [run]
  | next :: rest =>
    if next.head?.map isDigit = run.head?.map isDigit then (run ++ next) :: rest
    else run :: next :: rest

theorem flatten_joinRun (run : List Char) (rs : List (List Char)) :
    (joinRun run rs).flatten = run ++ rs.flatten := by
  cases rs with
  | nil => rfl
  | cons next rest =>
    rw [joinRun]
    split <;> simp

theorem runs_cons (c : Char) (cs : List Char) : runs (c :: cs) = joinRun [c] (runs cs) := by
  rw [runs]
  rcases runs cs with _ | ⟨_ | ⟨d, ds⟩, rest⟩
  · rfl
  · rfl
  · simp [joinRun, eq_comm]

theorem flatten_runs (cs : List Char) : (runs cs).flatten = cs := by
  induction cs with
  | nil => rfl
  | cons c cs ih =>
    rw [runs_cons, flatten_joinRun, ih]
    rfl

/-- The characters of a run join what follows together. -/
theorem runs_append_of_kind {digits : Bool} {cs : List Char} (hcs : cs ≠ [])
    (h : ∀ c ∈ cs, isDigit c = digits) (rest : List Char) :
    runs (cs ++ rest) = joinRun cs (runs rest) := by
  induction cs with
  | nil => exact absurd rfl hcs
  | cons c cs ih =>
    rw [List.cons_append, runs_cons]
    cases cs with
    | nil => rfl
    | cons d ds =>
      have hcd : isDigit c = isDigit d := by rw [h c (by simp), h d (by simp)]
      rw [ih (List.cons_ne_nil d ds) fun e he => h e (by simp [he])]
      rcases runs rest with _ | ⟨next, more⟩
      · simp [joinRun, hcd]
      · by_cases hnext : next.head?.map isDigit = some (isDigit d)
        · simp [joinRun, hnext, hcd]
        · simp [joinRun, hnext, hcd]

/-- Runs of alternating kinds, the first of which is of digits or not. -/
inductive Alternates : Bool → List (List Char) → Prop where
  | nil (digits : Bool) : Alternates digits []
  | cons {digits : Bool} {run : List Char} {rest : List (List Char)} (hne : run ≠ [])
      (hkind : ∀ c ∈ run, isDigit c = digits) (hrest : Alternates (!digits) rest) :
      Alternates digits (run :: rest)

theorem Alternates.head {digits : Bool} {rs : List (List Char)} (h : Alternates digits rs) :
    ∀ c ∈ rs.flatten.head?, isDigit c = digits := by
  intro c hc
  cases h with
  | nil => simp at hc
  | cons hne hkind _ =>
    rw [List.flatten_cons, List.head?_append_of_ne_nil _ hne] at hc
    exact hkind c (List.mem_of_mem_head? hc)

theorem Alternates.joinRun {digits : Bool} {rs : List (List Char)} (h : Alternates digits rs)
    (c : Char) : Alternates (isDigit c) (joinRun [c] rs) := by
  have hsingle : ∀ d ∈ [c], isDigit d = isDigit c := by simp
  cases h with
  | nil => exact .cons (List.cons_ne_nil c []) hsingle (.nil _)
  | @cons _ run rest hne hkind hrest =>
    obtain ⟨d, ds, rfl⟩ := List.exists_cons_of_ne_nil hne
    have hd : isDigit d = digits := hkind d (by simp)
    rw [Order.joinRun]
    by_cases hcd : isDigit d = isDigit c
    · rw [if_pos (by simp [hcd])]
      obtain rfl : isDigit c = digits := hcd.symm.trans hd
      refine .cons (by simp) (fun e he => ?_) hrest
      rcases List.mem_cons.mp he with rfl | he
      · rfl
      · exact hkind e he
    · rw [if_neg (by simpa using hcd)]
      refine .cons (List.cons_ne_nil c []) hsingle ?_
      have hother : digits = !isDigit c := by
        rw [← hd]
        exact Bool.eq_not.mpr hcd
      rw [← hother]
      exact .cons hne hkind hrest

theorem alternates_runs (cs : List Char) : ∃ digits, Alternates digits (runs cs) := by
  induction cs with
  | nil => exact ⟨true, .nil true⟩
  | cons c cs ih =>
    obtain ⟨digits, h⟩ := ih
    rw [runs_cons]
    exact ⟨isDigit c, h.joinRun c⟩

/-- A text that is put together from runs of alternating kinds is cut into them again. -/
theorem Alternates.runs_flatten {digits : Bool} {rs : List (List Char)} (h : Alternates digits rs) :
    runs rs.flatten = rs := by
  induction h with
  | nil => rfl
  | @cons digits run rest hne hkind hrest ih =>
    rw [List.flatten_cons, runs_append_of_kind hne hkind, ih]
    cases hrest with
    | nil => rfl
    | @cons _ next more hne' hkind' _ =>
      obtain ⟨c, cs, rfl⟩ := List.exists_cons_of_ne_nil hne
      obtain ⟨d, ds, rfl⟩ := List.exists_cons_of_ne_nil hne'
      refine if_neg ?_
      simp [hkind c (by simp), hkind' d (by simp)]

/-- Both characters are digits, or neither is. -/
def sameKind (a b : Char) : Bool := isDigit a == isDigit b

theorem splitBy_of_kind {digits : Bool} {run : List Char} (hne : run ≠ [])
    (hkind : ∀ c ∈ run, isDigit c = digits) : run.splitBy sameKind = [run] := by
  refine List.splitBy_of_isChain hne ?_
  refine List.Pairwise.isChain (List.pairwise_of_forall_mem_list fun a ha b hb => ?_)
  simp [sameKind, hkind a ha, hkind b hb]

/-- The runs are the parts that the library cuts a list into where the kind changes. -/
theorem runs_eq_splitBy (cs : List Char) : runs cs = cs.splitBy sameKind := by
  obtain ⟨digits, h⟩ := alternates_runs cs
  conv_rhs => rw [← flatten_runs cs]
  generalize runs cs = rs at h ⊢
  induction h with
  | nil => rfl
  | @cons digits run rest hne hkind hrest ih =>
    rw [List.flatten_cons, List.splitBy_append, splitBy_of_kind hne hkind, ← ih]
    · rfl
    · intro a ha b hb
      rw [sameKind, hkind a (List.mem_of_mem_getLast? ha), hrest.head b hb]
      cases digits <;> rfl

/-! ## Longest parts of one kind -/

/-- A longest part of one kind inside a text: it is not empty, all of its characters are of the kind,
and those around it are not. -/
structure IsRun (digits : Bool) (before run after : List Char) : Prop where
  nonempty : run ≠ []
  kind : ∀ c ∈ run, isDigit c = digits
  left : ∀ c ∈ before.getLast?, isDigit c = !digits
  right : ∀ c ∈ after.head?, isDigit c = !digits

theorem IsRun.runs {digits : Bool} {before run after : List Char}
    (h : IsRun digits before run after) :
    runs (before ++ run ++ after) = runs before ++ run :: runs after := by
  have hmeet {a b : Char} (ha : isDigit a = digits) (hb : isDigit b = !digits) :
      sameKind a b = false ∧ sameKind b a = false := by
    simp [sameKind, ha, hb]
  simp only [runs_eq_splitBy]
  rw [List.splitBy_append, List.splitBy_append, splitBy_of_kind h.nonempty h.kind]
  · simp
  · intro a ha b hb
    exact (hmeet (h.kind b (List.mem_of_mem_head? hb)) (h.left a ha)).2
  · intro a ha b hb
    rw [List.getLast?_append_of_ne_nil _ h.nonempty] at ha
    exact (hmeet (h.kind a (List.mem_of_mem_getLast? ha)) (h.right b hb)).1

theorem Alternates.isRun {digits : Bool} {rs : List (List Char)} (h : Alternates digits rs)
    {run : List Char} (hrun : run ∈ rs) :
    ∃ kind before after, rs.flatten = before ++ run ++ after ∧ IsRun kind before run after := by
  induction h with
  | nil => simp at hrun
  | @cons digits first rest hne hkind hrest ih =>
    rcases List.mem_cons.mp hrun with rfl | hrun
    · exact ⟨digits, [], rest.flatten, by simp, hne, hkind, by simp, hrest.head⟩
    · obtain ⟨kind, before, after, hflatten, hrun⟩ := ih hrun
      refine ⟨kind, first ++ before, after, by simp [hflatten], hrun.nonempty, hrun.kind, ?_,
        hrun.right⟩
      intro c hc
      by_cases hbefore : before = []
      · -- the run is the one behind the first
        subst hbefore
        obtain ⟨d, ds, rfl⟩ := List.exists_cons_of_ne_nil hrun.nonempty
        have hhead : isDigit d = !digits := hrest.head d (by simp [hflatten])
        rw [List.append_nil] at hc
        rw [hkind c (List.mem_of_mem_getLast? hc), ← hrun.kind d (by simp), hhead, Bool.not_not]
      · rw [List.getLast?_append_of_ne_nil _ hbefore] at hc
        exact hrun.left c hc

/-- The runs of a text are its longest parts of one kind. -/
theorem mem_runs_iff {cs run : List Char} :
    run ∈ runs cs ↔ ∃ digits before after, cs = before ++ run ++ after ∧
      IsRun digits before run after := by
  constructor
  · intro hrun
    obtain ⟨digits, h⟩ := alternates_runs cs
    obtain ⟨kind, before, after, hflatten, hrun⟩ := h.isRun hrun
    exact ⟨kind, before, after, by rw [← flatten_runs cs, hflatten], hrun⟩
  · rintro ⟨digits, before, after, rfl, h⟩
    rw [h.runs]
    simp

/-! ## Lower case -/

/-- What becomes of a run in lower case: it stays if all of it looks like digits, and otherwise
becomes a run of the same kind of which not all looks like digits. -/
structure LowersRun (run lowered : List Char) : Prop where
  alike : lowered.all isDigitLike = run.all isDigitLike
  kept : run.all isDigitLike = true → lowered = run
  kind : lowered.head?.map isDigit = run.head?.map isDigit

theorem lowersRun_of_lowers {c : Char} {cs : List Char} (h : Lowers c cs) : LowersRun [c] cs where
  alike := by
    obtain ⟨d, ds, rfl⟩ := List.exists_cons_of_ne_nil h.nonempty
    have hall : ∀ e ∈ d :: ds, isDigitLike e = isDigitLike c := h.alike
    rcases hc : isDigitLike c with _ | _
    · simp [hall d (by simp), hc]
    · rw [h.kept hc]
  kept hc := h.kept (by simpa using hc)
  kind := by
    obtain ⟨d, ds, rfl⟩ := List.exists_cons_of_ne_nil h.nonempty
    simp [h.sameDigit d (by simp)]

theorem LowersRun.append {c : Char} {cs run lowered : List Char} (h : Lowers c cs)
    (hrun : LowersRun run lowered) : LowersRun ([c] ++ run) (cs ++ lowered) where
  alike := by rw [List.all_append, List.all_append, (lowersRun_of_lowers h).alike, hrun.alike]
  kept hall := by
    rw [List.all_append, Bool.and_eq_true] at hall
    rw [(lowersRun_of_lowers h).kept hall.1, hrun.kept hall.2]
  kind := by
    rw [List.head?_append_of_ne_nil _ h.nonempty, (lowersRun_of_lowers h).kind]
    rfl

theorem forall₂_joinRun {c : Char} {cs : List Char} (h : Lowers c cs) {rs rs' : List (List Char)}
    (hruns : List.Forall₂ LowersRun rs rs') :
    List.Forall₂ LowersRun (joinRun [c] rs) (joinRun cs rs') := by
  cases hruns with
  | nil => exact .cons (lowersRun_of_lowers h) .nil
  | cons hrun hrest =>
    rw [joinRun, joinRun, hrun.kind, (lowersRun_of_lowers h).kind]
    split
    · exact .cons (hrun.append h) hrest
    · exact .cons (lowersRun_of_lowers h) (.cons hrun hrest)

/-- Lower case cuts a text in the same places. -/
theorem lowersRun_runs (before cs : List Char) :
    List.Forall₂ LowersRun (runs cs) (runs (lowerFrom before cs)) := by
  obtain ⟨pieces, hpieces, hlower⟩ := lowerFrom_pieces before cs
  rw [hlower]
  clear hlower
  induction hpieces with
  | nil => exact .nil
  | @cons c piece cs pieces hpiece hpieces ih =>
    rw [runs_cons, List.flatten_cons, runs_append_of_kind hpiece.nonempty hpiece.sameDigit]
    exact forall₂_joinRun hpiece ih

end SqlDesk.Order
