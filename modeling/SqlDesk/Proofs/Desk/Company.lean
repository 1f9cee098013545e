import Mathlib.Logic.Function.Basic
import SqlDesk.Proofs.Desk.Facts
import SqlDesk.Proofs.Desk.Run

/-!
# Desks over one storage

Several desks may keep their session facts in one storage under one scope. Whatever they and the
caches over the storage are asked in turns, a fact that one desk has learnt is not asked for again:
a login from the server is what all desks give until its entry is disturbed, and what a desk
remembers by itself stays for good.
-/

namespace SqlDesk

variable {ι σ : Type}

/-- Desks that keep session facts in one storage under one scope. -/
structure Company (ι σ : Type) where
  scope : String
  desks : ι → Desk σ
  scope_eq : ∀ i, (desks i).scope = scope
  shared : ∀ i, (desks i).alone = false

namespace Company

/-- What each desk remembers, and what they share. -/
structure State (ι σ : Type) where
  memories : ι → Memory
  world : World σ

/-- The state of a desk. -/
def State.of (s : State ι σ) (i : ι) : DeskState σ := ⟨s.memories i, s.world⟩

/-- Something that is done with a desk, or with the storage. -/
inductive Turn (ι : Type) where
  | desk (i : ι) (m : Desk.Move)
  /-- A request is made of a session cache over the storage. -/
  | session (scope : String) (r : Session.Request)

variable (c : Company ι σ)

/-- New desks in a world. -/
def start (world : World σ) : State ι σ := ⟨fun i => (c.desks i).newMemory, world⟩

/-- The request of a session cache that a turn makes, with the scope that is asked. -/
def request? : Turn ι → Option (String × Session.Request)
  | .desk _ (.ask (.session r)) => some (c.scope, r)
  | .session scope r => some (scope, r)
  | _ => none

/-- A turn asks a session cache to remove or clear an entry of the scope or to write over it. -/
def Disturbs (key : String) (s : State ι σ) (t : Turn ι) : Prop :=
  ∃ scope r, c.request? t = some (scope, r) ∧ r.Disturbs c.scope key s.world.storage scope

/-- A desk learns the login from the server: it asks for it, whole or to split it, and what it gets
it can write. -/
structure LearnsLogin (s : State ι σ) (i : ι) (r : Request) (u : String) : Prop where
  asks : r = .currentUser ∨ r = .userAndHost ∧ (s.memories i).userAndHost = none
  obtains : (c.desks i).Obtains (s.of i) u
  returns : ((c.desks i).currentUser (s.of i)).1.isOk = true

/-- No request makes a desk run a statement, unless the statement is handed in. -/
def Silent (sql : String) (s : State ι σ) (i : ι) : Prop :=
  ∀ r : Request, r.statement? ≠ some sql →
    Desk.Unsent sql (s.of i) ((c.desks i).perform r (s.of i)).2

variable {c} {s : State ι σ}

/-! ## What a desk finds -/

theorem entry_eq (s : State ι σ) (i : ι) (key : String) :
    (c.desks i).entry key (s.of i) = Session.facts s.world.storage c.scope key := by
  unfold Desk.entry
  rw [c.scope_eq i]
  rfl

/-- Whoever asks for the login, the storage afterwards is that of asking for the whole one. -/
theorem storage_of_asks {i : ι} {r : Request}
    (h : r = .currentUser ∨ r = .userAndHost ∧ (s.memories i).userAndHost = none) :
    ((c.desks i).perform r (s.of i)).2.world.storage =
      ((c.desks i).currentUser (s.of i)).2.world.storage := by
  rcases h with rfl | ⟨rfl, hsplit⟩
  · rw [Desk.snd_perform_currentUser]
  · have hnone : (s.of i).memory.userAndHost = none := hsplit
    rw [Desk.snd_perform_userAndHost]
    rcases (c.desks i).userAndHost_cases hnone with ⟨e, hcase⟩ | ⟨p, hcase⟩ <;> rw [hcase]

theorem silent_of_facts {j : ι} {v : Value}
    (h : Session.facts s.world.storage c.scope Desk.userKey = some v) :
    (c.desks j).currentUser (s.of j) = (.ok v, s.of j) ∧ c.Silent Sql.currentUser s j := by
  rw [← entry_eq s j] at h
  exact ⟨Desk.currentUser_of_entry (c.shared j) h,
    fun r hr => Desk.unsent_currentUser (c.shared j) h hr⟩

theorem storage_of_unnamed {i : ι} {r : Request} (hr : r.fact? = some Sql.currentUser)
    (h : ∀ u, ¬ (c.desks i).Obtains (s.of i) u) :
    ((c.desks i).perform r (s.of i)).2.world.storage = s.world.storage := by
  have hasked := Desk.storage_of_not_obtains (c.shared i) h
  rcases Desk.eq_of_fact_currentUser hr with rfl | rfl
  · exact (storage_of_asks (.inl rfl)).trans hasked
  · rcases hsplit : (s.memories i).userAndHost with _ | p
    · exact (storage_of_asks (.inr ⟨rfl, hsplit⟩)).trans hasked
    · have hknown : (s.of i).memory.userAndHost = some p := hsplit
      rw [Desk.snd_perform_userAndHost, Desk.userAndHost_of_some hknown]
      rfl

section Turns

variable [DecidableEq ι]

/-- The state after a desk has come to a state of its own. -/
def State.put (s : State ι σ) (i : ι) (t : DeskState σ) : State ι σ :=
  ⟨Function.update s.memories i t.memory, t.world⟩

variable (c)

/-- The state after a turn. -/
def take (s : State ι σ) : Turn ι → State ι σ
  | .desk i m => s.put i ((c.desks i).move (s.of i) m).2
  | .session scope r =>
    { s with world := { s.world with storage := (Session.perform s.world.storage scope r).1 } }

/-- The state after turns. -/
def run (s : State ι σ) (turns : List (Turn ι)) : State ι σ := turns.foldl c.take s

/-- No turn of a run disturbs an entry. -/
def Undisturbed (key : String) : List (Turn ι) → State ι σ → Prop
  | [], _ => True
  | t :: turns, s => ¬ c.Disturbs key s t ∧ Undisturbed key turns (c.take s t)

variable {c}

/-! ## One turn -/

/-- The storage after a turn is that after its request of a session cache, or a desk has written to
it on its own. -/
theorem storage_take (s : State ι σ) (t : Turn ι) :
    (∃ scope r, c.request? t = some (scope, r) ∧
      (c.take s t).world.storage = (Session.perform s.world.storage scope r).1) ∨
    ∃ i, (c.desks i).Writes s.world.storage (c.take s t).world.storage := by
  cases t with
  | session scope r => exact .inl ⟨scope, r, rfl, rfl⟩
  | desk i m =>
    cases m with
    | drive r => exact .inr ⟨i, .of_eq rfl⟩
    | ask r =>
      by_cases hr : ∃ q, r = .session q
      · obtain ⟨q, rfl⟩ := hr
        refine .inl ⟨c.scope, q, rfl, ?_⟩
        show ((c.desks i).perform (.session q) (s.of i)).2.world.storage = _
        rw [Desk.snd_perform_session, Desk.run_performSession (c.shared i), c.scope_eq i]
        rfl
      · exact .inr ⟨i, Desk.perform_writes (c.shared i) (not_exists.mp hr) (s.of i)⟩

/-- An entry stays unless a turn disturbs it. -/
theorem facts_take {key : String} {v : Value} {t : Turn ι}
    (h : Session.facts s.world.storage c.scope key = some v) (ht : ¬ c.Disturbs key s t) :
    Session.facts (c.take s t).world.storage c.scope key = some v := by
  rcases storage_take s t with ⟨scope, r, hr, hstorage⟩ | ⟨i, hwrites⟩
  · rw [hstorage]
    exact Session.facts_perform h fun hdisturbs => ht ⟨scope, r, hr, hdisturbs⟩
  · rw [← c.scope_eq i] at h ⊢
    exact hwrites.facts h

theorem ready_take (h : Session.Ready c.scope s.world.storage) (t : Turn ι) :
    Session.Ready c.scope (c.take s t).world.storage := by
  rcases storage_take s t with ⟨scope, r, -, hstorage⟩ | ⟨i, hwrites⟩
  · rw [hstorage]
    exact Session.ready_perform h scope r
  · exact hwrites.ready h

/-- What a desk remembers after a turn of its own. -/
theorem memories_take_self (s : State ι σ) (i : ι) (m : Desk.Move) :
    (c.take s (.desk i m)).memories i = ((c.desks i).move (s.of i) m).2.memory :=
  Function.update_self ..

/-- What a desk remembers after a turn it has remembered before, or it is what a request of the desk
has made of it. -/
theorem memories_take (s : State ι σ) (t : Turn ι) (i : ι) :
    (c.take s t).memories i = s.memories i ∨
      ∃ r, (c.take s t).memories i = ((c.desks i).perform r (s.of i)).2.memory := by
  cases t with
  | session scope r => exact .inl rfl
  | desk j m =>
    by_cases hj : i = j
    · subst hj
      rw [memories_take_self]
      cases m with
      | drive r => exact .inl rfl
      | ask r => exact .inr ⟨r, rfl⟩
    · exact .inl (Function.update_of_ne hj ..)

theorem learnsCase_take (s : State ι σ) (t : Turn ι) (i : ι) :
    Desk.LearnsCase (s.of i) ((c.take s t).of i) := by
  rcases memories_take s t i with hsame | ⟨r, hr⟩
  · exact .inl (congrArg Memory.lowerCaseNames hsame)
  · have hlearns := (c.desks i).perform_learnsCase r (s.of i)
    unfold Desk.LearnsCase at hlearns ⊢
    rw [← hr] at hlearns
    exact hlearns

theorem userAndHost_take {i : ι} {p : String × String}
    (h : (s.memories i).userAndHost = some p) (t : Turn ι) :
    ((c.take s t).memories i).userAndHost = some p := by
  rcases memories_take s t i with hsame | ⟨r, hr⟩
  · rw [hsame, h]
  · rw [hr]
    exact Desk.perform_keepsLogin h r

/-! ## Runs -/

/-- What every turn keeps, a run keeps. -/
theorem run_keeps {P : State ι σ → Prop} (hP : ∀ s t, P s → P (c.take s t)) (h : P s)
    (turns : List (Turn ι)) : P (c.run s turns) := by
  induction turns generalizing s with
  | nil => exact h
  | cons t turns ih => exact ih (hP s t h)

theorem facts_run {key : String} {v : Value} {turns : List (Turn ι)}
    (h : Session.facts s.world.storage c.scope key = some v) (hturns : c.Undisturbed key turns s) :
    Session.facts (c.run s turns).world.storage c.scope key = some v := by
  induction turns generalizing s with
  | nil => exact h
  | cons t turns ih => exact ih (facts_take h hturns.1) hturns.2

/-- How names are treated stays as it is once a desk knows it. -/
theorem lowerCaseNames_run {i : ι} {n : Int} (h : (s.memories i).lowerCaseNames = some n)
    (turns : List (Turn ι)) : ((c.run s turns).memories i).lowerCaseNames = some n := by
  refine run_keeps (P := fun s => (s.memories i).lowerCaseNames = some n) (fun s t hs => ?_) h turns
  rcases learnsCase_take s t i with hsame | ⟨hnone, -⟩
  · exact hsame.trans hs
  · cases hnone.symm.trans hs

/-- What new desks come to know of the treatment of names is one of the ways. -/
theorem isCase_run (world : World σ) (turns : List (Turn ι)) {i : ι} {n : Int}
    (h : ((c.run (c.start world) turns).memories i).lowerCaseNames = some n) : Desk.IsCase n := by
  refine run_keeps (P := fun s => ∀ n, (s.memories i).lowerCaseNames = some n → Desk.IsCase n)
    (fun s t hs n hn => ?_) (fun n hn => by cases hn) turns n h
  rcases learnsCase_take s t i with hsame | ⟨-, m, hm, hcase⟩
  · exact hs n (hsame.symm.trans hn)
  · obtain rfl := Option.some.inj (hm.symm.trans hn)
    exact hcase

/-! ## Facts that are asked for once -/

/-- After a desk has learnt the login, its entry is there. -/
theorem facts_of_learnsLogin {i : ι} {r : Request} {u : String} (h : c.LearnsLogin s i r u) :
    Session.facts (c.take s (.desk i (.ask r))).world.storage c.scope Desk.userKey =
      some (.text u) := by
  have hentry := (Desk.currentUser_of_obtains (c.shared i) h.obtains h.returns).2
  unfold Desk.entry at hentry
  rw [c.scope_eq i, ← storage_of_asks h.asks] at hentry
  exact hentry

theorem lowerCaseNames_take {i : ι} {n : Int}
    (h : ((c.desks i).lowerCaseNames (s.of i)).1 = .ok n) :
    ((c.take s (.desk i (.ask .lowerCaseNames))).memories i).lowerCaseNames = some n := by
  rw [memories_take_self]
  show ((c.desks i).perform .lowerCaseNames (s.of i)).2.memory.lowerCaseNames = some n
  rw [Desk.snd_perform_lowerCaseNames]
  exact Desk.lowerCaseNames_remembers h

theorem split_take {i : ι} {p : String × String}
    (h : ((c.desks i).userAndHost (s.of i)).1 = .ok p) :
    ((c.take s (.desk i (.ask .userAndHost))).memories i).userAndHost = some p := by
  rw [memories_take_self]
  show ((c.desks i).perform .userAndHost (s.of i)).2.memory.userAndHost = some p
  rw [Desk.snd_perform_userAndHost]
  exact Desk.userAndHost_remembers h

variable (c) in
/-- Facts are asked for once from a state on. -/
structure AsksOnce (s : State ι σ) : Prop where
  /-- All desks give the login that one of them has learnt, until its entry is disturbed. -/
  login : ∀ i r u, c.LearnsLogin s i r u →
    ((c.desks i).currentUser (s.of i)).1 = .ok (.text u) ∧
    ∀ turns, c.Undisturbed Desk.userKey turns (c.take s (.desk i (.ask r))) →
      let t := c.run (c.take s (.desk i (.ask r))) turns
      ∀ j, (c.desks j).currentUser (t.of j) = (.ok (.text u), t.of j) ∧
        c.Silent Sql.currentUser t j
  /-- Without a text from the server nothing is kept. -/
  unnamed : ∀ i r, r.fact? = some Sql.currentUser → (∀ u, ¬ (c.desks i).Obtains (s.of i) u) →
    (c.take s (.desk i (.ask r))).world.storage = s.world.storage
  /-- The path of the installation is asked for only while the entry made of it is missing. -/
  hosted : ∀ i v, Session.facts s.world.storage c.scope Desk.hostedKey = some v →
    (c.desks i).isAmazonHosted (s.of i) = (.ok v, s.of i) ∧ c.Silent Sql.baseDirectory s i
  /-- A desk knows how names are treated once it has told. -/
  lowerCaseNames : ∀ i n, ((c.desks i).lowerCaseNames (s.of i)).1 = .ok n → Desk.IsCase n ∧
    ∀ turns, let t := c.run (c.take s (.desk i (.ask .lowerCaseNames))) turns
      (c.desks i).lowerCaseNames (t.of i) = (.ok n, t.of i) ∧ c.Silent Sql.lowerCaseNames t i
  /-- A desk knows the login in two once it has told. -/
  userAndHost : ∀ i p, ((c.desks i).userAndHost (s.of i)).1 = .ok p →
    ∀ turns, let t := c.run (c.take s (.desk i (.ask .userAndHost))) turns
      (c.desks i).userAndHost (t.of i) = (.ok p, t.of i)

/-- Whatever new desks and the caches over their storage were asked, facts are asked for once from
then on; and a login from the server can be written if the scope was not filled with something
else. -/
theorem facts_asked_once (c : Company ι σ) (world : World σ) (turns : List (Turn ι)) :
    let s := c.run (c.start world) turns
    c.AsksOnce s ∧ (Session.Ready c.scope world.storage → ∀ i u, (c.desks i).Obtains (s.of i) u →
      ((c.desks i).currentUser (s.of i)).1 = .ok (.text u)) := by
  intro s
  refine ⟨{ login := ?_, unnamed := ?_, hosted := ?_, lowerCaseNames := ?_, userAndHost := ?_ }, ?_⟩
  · intro i r u hlearns
    have hanswer := (Desk.currentUser_of_obtains (c.shared i) hlearns.obtains hlearns.returns).1
    refine ⟨hanswer, ?_⟩
    intro later hlater t j
    exact silent_of_facts (facts_run (facts_of_learnsLogin hlearns) hlater)
  · intro i r hr h
    exact storage_of_unnamed hr h
  · -- the hosted fact is an entry of the shared storage, so any desk of the company finds it
    intro i v h
    rw [← entry_eq s i] at h
    exact ⟨Desk.isAmazonHosted_of_entry (c.shared i) h,
      fun r hr => Desk.unsent_baseDirectory (c.shared i) h hr⟩
  · intro i n h
    have hknown := lowerCaseNames_take h
    refine ⟨?_, ?_⟩
    · have hrun : c.run (c.start world) (turns ++ [.desk i (.ask .lowerCaseNames)]) =
          c.take s (.desk i (.ask .lowerCaseNames)) := List.foldl_concat ..
      rw [← hrun] at hknown
      exact isCase_run world _ hknown
    · intro later t
      have hstill : (t.of i).memory.lowerCaseNames = some n := lowerCaseNames_run hknown later
      exact ⟨Desk.lowerCaseNames_of_some hstill, fun r hr => Desk.unsent_lowerCaseNames hstill hr⟩
  · intro i p h later t
    have hstill : (t.of i).memory.userAndHost = some p :=
      run_keeps (P := fun s => (s.memories i).userAndHost = some p)
        (fun _ t hs => userAndHost_take hs t) (split_take h) later
    exact Desk.userAndHost_of_some hstill
  · intro hready i u hobtains
    have hstill : Session.Ready c.scope s.world.storage :=
      run_keeps (P := fun s => Session.Ready c.scope s.world.storage) (fun _ t h => ready_take h t)
        hready turns
    rw [← c.scope_eq i] at hstill
    exact Desk.currentUser_of_ready (c.shared i) hobtains hstill

end Turns

/-- Two desks, and a server that first knows no login, then one, and then another one. -/
def office : Company Bool Script where
  scope := ""
  desks _ := Desk.scripted
  scope_eq _ := rfl
  shared _ := rfl

/-- The world of the two desks. -/
def officeWorld : World Script :=
  let login (v : Value) : ScriptedAnswer := .rows { columns := ["CURRENT_USER()"], rows := [[v]] }
  { journal := { state :=
    { answers := [login .null, login (.text "ann@%"), login (.text "bea@%")] } } }

/-- The two desks get links, and one of them asks for the login. -/
def officeOpening : List (Turn Bool) :=
  [.desk false (.ask (.setLink .user (some ⟨"c"⟩))), .desk true (.ask (.setLink .user (some ⟨"d"⟩))),
   .desk true (.ask .currentUser)]

/-- The login that one desk learns is what the other one gives, until it is removed. -/
theorem shared_login_asked_once :
    let s := office.run (office.start officeWorld) officeOpening
    let learnt := office.take s (.desk false (.ask .currentUser))
    let removed := office.take learnt (.session "" (.remove (.text Desk.userKey)))
    office.LearnsLogin s false .currentUser "ann@%" ∧
    (office.desks true).currentUser (learnt.of true) = (.ok (.text "ann@%"), learnt.of true) ∧
    ((office.desks true).currentUser (removed.of true)).1 = .ok (.text "bea@%") := by
  intro s learnt removed
  have hlearns : office.LearnsLogin s false .currentUser "ann@%" := by
    exact ⟨.inl rfl, ⟨rfl, .text "ann@%", rfl, rfl⟩, rfl⟩
  obtain ⟨honce, -⟩ := facts_asked_once office officeWorld officeOpening
  obtain ⟨-, hlater⟩ := honce.login false .currentUser "ann@%" hlearns
  exact ⟨hlearns, (hlater [] trivial true).1, rfl⟩

end Company

end SqlDesk
