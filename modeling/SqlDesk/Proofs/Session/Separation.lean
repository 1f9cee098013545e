import SqlDesk.Proofs.Session.Facts

/-!
# Separation of logins

What one login does to its cache does not show to another login, whatever the storage they share
holds, as long as the two have different scopes. A scope is written with a slash between server and
user, and both may hold slashes: two logins have one scope exactly when they are equal or the names
of one run into those of the other.
-/

namespace SqlDesk.Session

/-! ## Scopes of logins -/

/-- The server of the second login goes on with a part of the user of the first. -/
def Login.RunsInto (l l' : Login) : Prop :=
  ∃ middle, l'.server = l.server ++ "/" ++ middle ∧ l.user = middle ++ "/" ++ l'.user

theorem Login.toList_scope (l : Login) :
    l.scope.toList = "server_".toList ++ (l.server.toList ++ '/' :: l.user.toList) := by
  unfold Login.scope scopeOf
  rw [String.toList_append, String.toList_append, String.toList_append, List.append_assoc,
    List.append_assoc]
  rfl

theorem Login.runsInto_of_toList {l l' : Login} {rest : List Char}
    (hserver : l'.server.toList = l.server.toList ++ rest)
    (huser : '/' :: l.user.toList = rest ++ '/' :: l'.user.toList) : l = l' ∨ l.RunsInto l' := by
  rcases rest with _ | ⟨c, middle⟩
  · have hu : l.user = l'.user := String.toList_injective (List.cons.inj huser).2
    have hs : l'.server = l.server := String.toList_injective (by rw [hserver, List.append_nil])
    exact .inl (by cases l; cases l'; simp_all)
  · obtain rfl : '/' = c := (List.cons.inj huser).1
    have hrest : l.user.toList = middle ++ '/' :: l'.user.toList := (List.cons.inj huser).2
    refine .inr ⟨String.ofList middle, String.toList_injective ?_, String.toList_injective ?_⟩
    · simp [hserver]
    · simp [hrest]

theorem Login.RunsInto.scope_eq {l l' : Login} (h : l.RunsInto l') : l.scope = l'.scope := by
  obtain ⟨middle, hserver, huser⟩ := h
  unfold Login.scope scopeOf
  rw [hserver, huser]
  simp only [String.append_assoc]

/-- Two logins have one scope if they are equal or the names of one run into those of the other. -/
theorem Login.scope_eq_iff (l l' : Login) :
    l.scope = l'.scope ↔ l = l' ∨ l.RunsInto l' ∨ l'.RunsInto l := by
  constructor
  · intro h
    have hlist := congrArg String.toList h
    rw [Login.toList_scope, Login.toList_scope, List.append_cancel_left_eq] at hlist
    rcases List.append_eq_append_iff.mp hlist with ⟨rest, hserver, huser⟩ | ⟨rest, hserver, huser⟩
    · exact (Login.runsInto_of_toList hserver huser).imp id .inl
    · exact (Login.runsInto_of_toList hserver huser).imp Eq.symm .inr
  · rintro (rfl | h | h)
    · rfl
    · exact h.scope_eq
    · exact h.scope_eq.symm

theorem Login.RunsInto.ne {l l' : Login} (h : l.RunsInto l') : l ≠ l' := by
  rintro rfl
  obtain ⟨middle, hserver, -⟩ := h
  have hlength := congrArg String.length hserver
  rw [String.length_append, String.length_append] at hlength
  have hslash : "/".length = 1 := rfl
  omega

/-! ## What a login is shown -/

/-- What a login is shown in a run. -/
def shownTo (l : Login) (st : Storage) (steps : List (Login × Request)) : List Shown :=
  ((steps.zip (run st steps).2).filter fun x => x.1.1 = l).map Prod.snd

/-- The requests of a run ask the scopes of their logins only, in their computations too. -/
def KeepsToItself (steps : List (Login × Request)) : Prop :=
  ∀ s ∈ steps, s.2.Every (fun scope _ => scope = s.1.scope) s.1.scope

/-- Over whatever storage, two logins are both shown what they would be shown without the other. -/
def Independent (l l' : Login) : Prop :=
  ∀ (st : Storage) (steps : List (Login × Request)), (∀ s ∈ steps, s.1 = l ∨ s.1 = l') →
    KeepsToItself steps → ∀ m, m = l ∨ m = l' →
      shownTo m st steps = shownTo m st (steps.filter fun s => s.1 = m)

theorem shownTo_cons_self (l : Login) (r : Request) (st : Storage)
    (steps : List (Login × Request)) :
    shownTo l st ((l, r) :: steps) =
      ⟨(perform st l.scope r).2, computes st l.scope r⟩ ::
        shownTo l (perform st l.scope r).1 steps := by
  unfold shownTo
  rw [run_cons, List.zip_cons_cons, List.filter_cons_of_pos (by simp)]
  rfl

theorem shownTo_cons_of_ne {l m : Login} (h : l ≠ m) (r : Request) (st : Storage)
    (steps : List (Login × Request)) :
    shownTo m st ((l, r) :: steps) = shownTo m (perform st l.scope r).1 steps := by
  unfold shownTo
  rw [run_cons, List.zip_cons_cons, List.filter_cons_of_neg (by simpa using h)]

/-- Requests under other scopes can be left out of a run. -/
theorem shownTo_filter {m : Login} {steps : List (Login × Request)}
    (hscopes : ∀ s ∈ steps, s.1 = m ∨ s.1.scope ≠ m.scope) (hself : KeepsToItself steps)
    {st st' : Storage} (h : SameInside (· = m.scope) st st') :
    shownTo m st steps = shownTo m st' (steps.filter fun s => s.1 = m) := by
  induction steps generalizing st st' with
  | nil => rfl
  | cons s steps ih =>
    obtain ⟨l, r⟩ := s
    obtain ⟨hscope, hscopes⟩ := List.forall_mem_cons.mp hscopes
    obtain ⟨hr, hself⟩ := List.forall_mem_cons.mp hself
    by_cases hl : l = m
    · subst hl
      have hturn := perform_sameTurn hr h
      rw [List.filter_cons_of_pos (by simp), shownTo_cons_self, shownTo_cons_self, hturn.1,
        h.computes_eq rfl, ih hscopes hself hturn.2]
    · have hne : l.scope ≠ m.scope := hscope.resolve_left hl
      -- what the other login does stays inside its own scope
      have hout := (sameOutside_kept (· = l.scope)).perform st l.scope hr
      have hinside : SameInside (· = m.scope) (perform st l.scope r).1 st' := by
        rintro _ rfl
        rw [hout.view_eq hne.symm]
        exact h _ rfl
      rw [shownTo_cons_of_ne hl, List.filter_cons_of_neg (by simpa using hl)]
      exact ih hscopes hself hinside

theorem independent_of_scope_ne {l l' : Login} (h : l.scope ≠ l'.scope) : Independent l l' := by
  intro st steps hlogins hself m hm
  refine shownTo_filter (fun s hs => ?_) hself fun _ _ => rfl
  rcases hm with rfl | rfl <;> rcases hlogins s hs with hs | hs
  · exact .inl hs
  · exact .inr (hs ▸ h.symm)
  · exact .inr (hs ▸ h)
  · exact .inl hs

theorem independent_self (l : Login) : Independent l l := by
  intro st steps hlogins _ m hm
  obtain rfl : m = l := hm.elim id id
  have hall : steps.filter (fun s => s.1 = m) = steps := by
    refine List.filter_eq_self.mpr fun s hs => ?_
    simpa using hlogins s hs
  rw [hall]

theorem orderly_nil : Orderly [] where
  cache _ hv := by cases hv
  entries _ hscopes := by cases hscopes

/-- Of two different logins with one scope, one sees what the other writes. -/
theorem not_independent {l l' : Login} (hne : l ≠ l') (h : l.scope = l'.scope) :
    ¬ Independent l l' := by
  intro hindependent
  have hshown := hindependent [] [(l', .set (.text "k") .null), (l, .has (.text "k"))] (by simp)
    (by simp [KeepsToItself, Request.Every]) l (.inl rfl)
  rw [List.filter_cons_of_neg (by simpa using hne.symm), List.filter_cons_of_pos (by simp),
    shownTo_cons_of_ne hne.symm, shownTo_cons_self, shownTo_cons_self] at hshown
  have hanswer := (Shown.mk.inj (List.cons.inj hshown).1).1
  obtain ⟨-, horderly, hfacts⟩ := set_orderly orderly_nil l'.scope "k" .null
  have hhas {st : Storage} (hst : Orderly st) :
      (perform st l.scope (.has (.text "k"))).2 = .ok (.bool (facts st l.scope "k").isSome) := by
    rw [perform, has_orderly hst]
    rfl
  have hwritten : facts (set [] l'.scope (.text "k") .null).1 l.scope "k" = some .null := by
    rw [hfacts]
    exact if_pos ⟨h, rfl⟩
  have hmissing : facts [] l.scope "k" = none := rfl
  have hafter := hhas horderly
  have hbefore := hhas orderly_nil
  rw [hwritten] at hafter
  rw [hmissing] at hbefore
  have hbool := (hafter.symm.trans hanswer).trans hbefore
  cases hbool

/-- Two logins are independent unless the names of one run into those of the other. -/
theorem independent_iff (l l' : Login) :
    Independent l l' ↔ ¬ (l.RunsInto l' ∨ l'.RunsInto l) := by
  constructor
  · rintro h (hinto | hinto)
    · exact not_independent hinto.ne hinto.scope_eq h
    · exact not_independent hinto.ne.symm hinto.scope_eq.symm h
  · intro h
    by_cases hscope : l.scope = l'.scope
    · obtain rfl := ((Login.scope_eq_iff l l').mp hscope).resolve_right h
      exact independent_self l
    · exact independent_of_scope_ne hscope

/-- A slash in a name makes two logins one: the second one sees a key that the first one wrote. -/
theorem replica_logins_not_independent :
    let l : Login := ⟨"db", "replica/root"⟩
    let l' : Login := ⟨"db/replica", "root"⟩
    let steps := [(l, .set (.text "k") (.int 1)), (l', .has (.text "k"))]
    l ≠ l' ∧ shownTo l' [] steps = [⟨.ok (.bool true), false⟩] ∧
      shownTo l' [] (steps.filter fun s => s.1 = l') = [⟨.ok (.bool false), false⟩] ∧
      ¬ Independent l l' := by
  intro l l' steps
  have hne : l ≠ l' := by decide
  have hscope : l.scope = l'.scope := by decide
  exact ⟨hne, rfl, rfl, not_independent hne hscope⟩

end SqlDesk.Session
