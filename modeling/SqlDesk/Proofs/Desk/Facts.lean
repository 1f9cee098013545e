import SqlDesk.Proofs.Desk.Request
import SqlDesk.Proofs.Session.Entry

/-!
# Facts that are asked for once

A desk asks the server for a fact only while it does not know it. The login and whether the server
is hosted are known once their entries stand in the storage of the session, where any desk of the
scope may have put them; how names are treated, and the login split in two, are known once the desk
itself remembers them. Of the login only a text is kept.
-/

namespace SqlDesk

open Act

variable {σ : Type}

namespace Desk

variable {desk : Desk σ} {s : DeskState σ} {l : Licence}

/-! ## Requests for facts -/

@[simp] theorem snd_perform_currentUser (s : DeskState σ) :
    (desk.perform .currentUser s).2 = (desk.currentUser s).2 := snd_map _ _ s

@[simp] theorem snd_perform_userAndHost (s : DeskState σ) :
    (desk.perform .userAndHost s).2 = (desk.userAndHost s).2 := snd_map _ _ s

@[simp] theorem snd_perform_isAmazonHosted (s : DeskState σ) :
    (desk.perform .isAmazonHosted s).2 = (desk.isAmazonHosted s).2 := snd_map _ _ s

@[simp] theorem snd_perform_lowerCaseNames (s : DeskState σ) :
    (desk.perform .lowerCaseNames s).2 = (desk.lowerCaseNames s).2 := snd_map _ _ s

@[simp] theorem snd_perform_session (r : Session.Request) (s : DeskState σ) :
    (desk.perform (.session r) s).2 = (desk.performSession r s).2 := snd_map _ _ s

/-! ## Statements that are not run -/

/-- A statement is not run between two states. -/
def Unsent (sql : String) (s t : DeskState σ) : Prop := Act.Sent (fun c => c.text? ≠ some sql) s t

theorem Unsent.refl (sql : String) (s : DeskState σ) : Unsent sql s s := .of_calls_eq rfl

theorem unsent_steady {sql : String} (h : ∀ role, ¬ l.asks sql role) :
    desk.Steady l (Unsent sql) := by
  refine sent_steady (fun {text role} link unbuffered hask => ?_) fun {c} hc _ => ?_
  · rintro ⟨⟩
    exact h role hask
  · cases c with
    | query => cases hc
    | _ => exact nofun

/-- A statement for a fact is run only for this fact, or if it is handed in. -/
theorem perform_unsent {r : Request} {sql : String} (hsql : sql ∈ Sql.factStatements)
    (hhanded : r.statement? ≠ some sql) (hfact : r.fact? ≠ some sql) (s : DeskState σ) :
    Unsent sql s (desk.perform r s).2 :=
  perform_within (unsent_steady fun _ hask => (hask.2 hsql).elim hhanded hfact) s

/-! ## The storage of the session -/

theorem storage_steady (hl : ¬ l.changes .storage) :
    desk.Steady l fun s t => t.world.storage = s.world.storage where
  refl _ := rfl
  trans h h' := h'.trans h
  post _ _ := rfl
  statement unbuffered s _ _ := by rw [measured_run]
  request _ _ _ := rfl
  change _ _ _ := rfl
  storage _ _ h := absurd h hl

variable (desk) in
theorem storage_of_fetchValue (sql : String) (column : ColumnRef) (role : Role)
    (s : DeskState σ) : (desk.fetchValue sql column role s).2.world.storage = s.world.storage := by
  have hroutine : desk.Routine (.keeping .storage) (desk.fetchValue sql column role) :=
    fetchValue_routine trivial column
  exact hroutine.moves (storage_steady (Licence.not_changes_keeping _)) s

/-- What stands in the storage for a desk under a key. -/
def entry (desk : Desk σ) (key : String) (s : DeskState σ) : Option Value :=
  Session.facts s.world.storage desk.scope key

variable (desk) in
/-- What a desk makes of the storage on its own: nothing, or it writes a fact that is missing. -/
inductive Writes (st : Session.Storage) : Session.Storage → Prop where
  | nothing : Writes st st
  | fact (key : String) (v : Value) (h : Session.facts st desk.scope key = none) :
      Writes st (Session.set st desk.scope (.text key) v).1

theorem Writes.of_eq {st st' : Session.Storage} (h : st' = st) : desk.Writes st st' := h ▸ .nothing

/-- What a desk writes on its own writes over nothing. -/
theorem Writes.facts {st st' : Session.Storage} (h : desk.Writes st st') {key : String} {v : Value}
    (hkey : Session.facts st desk.scope key = some v) :
    Session.facts st' desk.scope key = some v := by
  cases h with
  | nothing => exact hkey
  | fact other w hmissing =>
    refine Session.facts_set_of_ne hkey ?_ w
    rintro ⟨-, hother⟩
    rw [Value.text.inj hother, hkey] at hmissing
    cases hmissing

theorem Writes.ready {st st' : Session.Storage} (h : desk.Writes st st') {scope : String}
    (hready : Session.Ready scope st) : Session.Ready scope st' := by
  cases h with
  | nothing => exact hready
  | fact key v _ => exact Session.ready_perform hready desk.scope (.set (.text key) v)

/-! ## The login -/

/-- The login that an answer of the server tells, if it is a text or the bytes of one. -/
def loginOf : Value → Except Fault (Option String)
  | .text u => .ok (some u)
  | .bytes bs => some <$> (Text.decode bs).mapError .undecodable
  | _ => .ok none

variable (desk) in
/-- Keep the login that an answer tells. -/
def keepLogin (answer : Value) : Act σ Value := do
  match ← ofFault (loginOf answer) with
  | some u =>
    desk.putFact userKey (.text u)
    return .text u
  | none =>
    report .debug "Current user is unavailable"
    return .text "@"

variable (desk) in
/-- The login is missing in the storage, and the server tells it when it is asked. -/
def Obtains (s : DeskState σ) (u : String) : Prop :=
  Session.has s.world.storage desk.scope (.text userKey) = .ok false ∧
    ∃ answer, (desk.fetchValue Sql.currentUser (.index 0) .user s).1 = .ok answer ∧
      loginOf answer = .ok (some u)

/-! ## The login in two -/

theorem userAndHost_of_some {p : String × String} (h : s.memory.userAndHost = some p) :
    desk.userAndHost s = (.ok p, s) := by
  unfold userAndHost
  rw [run_bind, run_memory]
  dsimp only
  rw [h]
  rfl

variable (desk) in
/-- A login that is not split yet is asked for whole, and remembered once it is split. -/
theorem userAndHost_cases (h : s.memory.userAndHost = none) :
    let t := (desk.currentUser s).2
    (∃ e, desk.userAndHost s = (.error e, t)) ∨
      ∃ p, desk.userAndHost s =
        (.ok p, { t with memory := { t.memory with userAndHost := some p } }) := by
  intro t
  unfold userAndHost
  rw [run_bind, run_memory]
  dsimp only
  rw [h]
  dsimp only
  rw [run_bind]
  rcases hasked : desk.currentUser s with ⟨e | user, u⟩
  · have ht : t = u := congrArg Prod.snd hasked
    rw [ht]
    exact .inl ⟨e, rfl⟩
  · have ht : t = u := congrArg Prod.snd hasked
    rw [ht]
    dsimp only
    rw [run_bind, run_ofFault]
    rcases splitLogin user with f | p
    · exact .inl ⟨.fault f, rfl⟩
    · exact .inr ⟨p, rfl⟩

/-- What a desk tells of the login in two is remembered. -/
theorem userAndHost_remembers {p : String × String} (h : (desk.userAndHost s).1 = .ok p) :
    (desk.userAndHost s).2.memory.userAndHost = some p := by
  rcases hknown : s.memory.userAndHost with _ | known
  · rcases desk.userAndHost_cases hknown with ⟨e, hrun⟩ | ⟨q, hrun⟩ <;> rw [hrun] at h ⊢
    · cases h
    · exact congrArg some (Except.ok.inj h)
  · rw [userAndHost_of_some hknown] at h ⊢
    exact hknown.trans (congrArg some (Except.ok.inj h))

theorem keepsLogin_steady (hl : ¬ l.changes .login) :
    desk.Steady l fun s t => t.memory.userAndHost = s.memory.userAndHost := by
  refine keeps_steady (fun _ _ => rfl) (fun m h hne => ?_) hl
  cases h with
  | login => exact absurd rfl hne
  | _ => rfl

/-- A login that is split stays as it is. -/
theorem perform_keepsLogin {p : String × String} (h : s.memory.userAndHost = some p)
    (r : Request) : (desk.perform r s).2.memory.userAndHost = some p := by
  by_cases hparts : .login ∈ parts r
  · cases r with
    | userAndHost =>
      rw [snd_perform_userAndHost, userAndHost_of_some h]
      exact h
    | _ => simp [parts] at hparts
  · exact (perform_within (keepsLogin_steady hparts) s).trans h

section Shared

variable (hshared : desk.alone = false)

include hshared

/-! ## A shared storage -/

theorem run_storage (s : DeskState σ) : desk.storage s = (.ok s.world.storage, s) := by
  unfold storage
  simp [run_bind, hshared]

theorem run_putStorage (st : Session.Storage) (s : DeskState σ) :
    desk.putStorage st s = (.ok (), { s with world := { s.world with storage := st } }) := by
  unfold putStorage
  simp [hshared]

theorem run_putFact (key : String) (v : Value) (s : DeskState σ) :
    desk.putFact key v s =
      (Error.ofFault (Session.set s.world.storage desk.scope (.text key) v).2,
        { s with world := { s.world with
          storage := (Session.set s.world.storage desk.scope (.text key) v).1 } }) := by
  unfold putFact
  simp only [run_bind, run_storage hshared, run_putStorage hshared, run_ofFault]

theorem run_performSession (r : Session.Request) (s : DeskState σ) :
    desk.performSession r s =
      ((Session.perform s.world.storage desk.scope r).2,
        { s with world := { s.world with
          storage := (Session.perform s.world.storage desk.scope r).1 } }) := by
  unfold performSession
  simp only [run_bind, run_storage hshared, run_putStorage hshared, run_ofExcept]

/-- A login that is there is read. -/
theorem currentUser_of_has
    (h : Session.has s.world.storage desk.scope (.text userKey) = .ok true) :
    desk.currentUser s =
      (Error.ofFault (Session.get s.world.storage desk.scope (.text userKey)), s) := by
  unfold currentUser
  rw [run_bind, run_storage hshared]
  dsimp only
  rw [run_bind, run_ofFault, h, Error.ofFault_ok]
  dsimp only
  rw [if_pos rfl, run_bind, run_storage hshared]
  dsimp only
  rw [run_ofFault]

theorem currentUser_of_entry {v : Value} (h : desk.entry userKey s = some v) :
    desk.currentUser s = (.ok v, s) := by
  rw [currentUser_of_has hshared (Session.has_of_facts h), Session.get_of_facts h,
    Error.ofFault_ok]

/-- A login that is missing is asked for, and what the server tells is kept. -/
theorem currentUser_of_missing
    (h : Session.has s.world.storage desk.scope (.text userKey) = .ok false) :
    desk.currentUser s = (desk.fetchValue Sql.currentUser >>= desk.keepLogin) s := by
  unfold currentUser
  rw [run_bind, run_storage hshared]
  dsimp only
  rw [run_bind, run_ofFault, h, Error.ofFault_ok]
  dsimp only
  rw [if_neg (by decide)]
  refine congrFun (congrArg (desk.fetchValue Sql.currentUser >>= ·) (funext fun answer => ?_)) s
  funext t
  unfold keepLogin
  cases answer with
  | bytes bs =>
    unfold loginOf
    dsimp only
    rcases Text.decode bs with e | u <;> rfl
  | _ => rfl

/-- What the server tells is written after it was asked for. -/
theorem run_currentUser_of_obtains {u : String} (h : desk.Obtains s u) :
    let t := (desk.fetchValue Sql.currentUser (.index 0) .user s).2
    let put := Session.set s.world.storage desk.scope (.text userKey) (.text u)
    desk.currentUser s = ((fun _ => .text u) <$> Error.ofFault put.2,
      { t with world := { t.world with storage := put.1 } }) := by
  intro t put
  obtain ⟨hmissing, answer, hanswer, hlogin⟩ := h
  have hstorage : t.world.storage = s.world.storage := desk.storage_of_fetchValue _ _ _ s
  have hfetched : desk.fetchValue Sql.currentUser (.index 0) .user s = (.ok answer, t) :=
    Prod.ext hanswer rfl
  rw [currentUser_of_missing hshared hmissing, run_bind, hfetched]
  dsimp only
  unfold keepLogin
  rw [run_bind, run_ofFault, hlogin, Error.ofFault_ok]
  dsimp only
  rw [← map_eq_pure_bind, run_map, run_putFact hshared, hstorage]

/-- A login that the server tells is the answer, and is there afterwards, if it could be written. -/
theorem currentUser_of_obtains {u : String} (h : desk.Obtains s u)
    (hok : (desk.currentUser s).1.isOk = true) :
    (desk.currentUser s).1 = .ok (.text u) ∧
      desk.entry userKey (desk.currentUser s).2 = some (.text u) := by
  have hrun := run_currentUser_of_obtains hshared h
  dsimp only at hrun
  rw [hrun] at hok ⊢
  rcases hput : (Session.set s.world.storage desk.scope (.text userKey) (.text u)).2 with f | _
  · rw [hput] at hok
    cases hok
  · exact ⟨rfl, Session.facts_set hput⟩

/-- It can be written if the scope has no place yet or a mapping in it. -/
theorem currentUser_of_ready {u : String} (h : desk.Obtains s u)
    (hready : Session.Ready desk.scope s.world.storage) :
    (desk.currentUser s).1 = .ok (.text u) := by
  have hrun := run_currentUser_of_obtains hshared h
  dsimp only at hrun
  rw [hrun, Session.set_of_ready hready]
  rfl

/-- Without a text from the server nothing is written. -/
theorem storage_of_not_obtains (h : ∀ u, ¬ desk.Obtains s u) :
    (desk.currentUser s).2.world.storage = s.world.storage := by
  rcases hhas : Session.has s.world.storage desk.scope (.text userKey) with f | _ | _
  · unfold currentUser
    rw [run_bind, run_storage hshared]
    dsimp only
    rw [run_bind, run_ofFault, hhas, Error.ofFault_error]
  · have hstorage := desk.storage_of_fetchValue Sql.currentUser (.index 0) .user s
    rw [currentUser_of_missing hshared hhas, run_bind]
    rcases hfetched : desk.fetchValue Sql.currentUser (.index 0) .user s with ⟨e | answer, t⟩ <;>
      rw [hfetched] at hstorage
    · exact hstorage
    · dsimp only
      unfold keepLogin
      rw [run_bind, run_ofFault]
      rcases hlogin : loginOf answer with f | _ | u
      · exact hstorage
      · exact hstorage
      · exact absurd ⟨hhas, answer, congrArg Prod.fst hfetched, hlogin⟩ (h u)
  · rw [currentUser_of_has hshared hhas]

theorem currentUser_writes (s : DeskState σ) :
    desk.Writes s.world.storage (desk.currentUser s).2.world.storage := by
  by_cases h : ∃ u, desk.Obtains s u
  · obtain ⟨u, hu⟩ := h
    have hrun := run_currentUser_of_obtains hshared hu
    dsimp only at hrun
    rw [hrun]
    exact .fact userKey (.text u) (Session.facts_of_has hu.1)
  · exact .of_eq (storage_of_not_obtains hshared (not_exists.mp h))

theorem userAndHost_writes (s : DeskState σ) :
    desk.Writes s.world.storage (desk.userAndHost s).2.world.storage := by
  rcases hknown : s.memory.userAndHost with _ | p
  · have hasked := currentUser_writes hshared s
    rcases desk.userAndHost_cases hknown with ⟨e, hrun⟩ | ⟨p, hrun⟩ <;> rw [hrun] <;> exact hasked
  · rw [userAndHost_of_some hknown]
    exact .nothing

/-! ## Whether the server is hosted -/

/-- Whether the server is hosted is asked for if the storage does not tell. -/
theorem isAmazonHosted_eq (s : DeskState σ) :
    desk.isAmazonHosted s =
      match Session.lookup s.world.storage desk.scope (.text hostedKey) with
      | .error f => (.error (.fault f), s)
      | .ok (some v) => (.ok v, s)
      | .ok none => (desk.fetchValue Sql.baseDirectory >>= fun path =>
          (fun _ => Value.bool (isHostedPath path)) <$>
            desk.putFact hostedKey (.bool (isHostedPath path))) s := by
  unfold isAmazonHosted
  rw [run_bind, run_storage hshared]
  dsimp only
  rw [run_bind, run_ofFault]
  rcases Session.lookup s.world.storage desk.scope (.text hostedKey) with f | _ | v
  · rfl
  · simp only [Error.ofFault_ok, map_eq_pure_bind]
  · rfl

theorem isAmazonHosted_of_entry {v : Value} (h : desk.entry hostedKey s = some v) :
    desk.isAmazonHosted s = (.ok v, s) := by
  rw [isAmazonHosted_eq hshared, Session.lookup_of_facts h]

theorem isAmazonHosted_writes (s : DeskState σ) :
    desk.Writes s.world.storage (desk.isAmazonHosted s).2.world.storage := by
  rw [isAmazonHosted_eq hshared]
  rcases hlookup : Session.lookup s.world.storage desk.scope (.text hostedKey) with f | _ | v
  · exact .nothing
  · have hstorage := desk.storage_of_fetchValue Sql.baseDirectory (.index 0) .user s
    dsimp only
    rw [run_bind]
    rcases hfetched : desk.fetchValue Sql.baseDirectory (.index 0) .user s with ⟨e | path, t⟩ <;>
      rw [hfetched] at hstorage
    · exact .of_eq hstorage
    · dsimp only
      rw [run_map, run_putFact hshared, hstorage]
      exact .fact hostedKey _ (Session.facts_of_lookup hlookup)
  · exact .nothing

/-! ## What is written -/

/-- Only requests of the cache do more to the storage than to write facts that are missing. -/
theorem perform_writes {r : Request} (h : ∀ q, r ≠ .session q) (s : DeskState σ) :
    desk.Writes s.world.storage (desk.perform r s).2.world.storage := by
  by_cases hparts : .storage ∈ parts r
  · cases r with
    | currentUser =>
      rw [snd_perform_currentUser]
      exact currentUser_writes hshared s
    | userAndHost =>
      rw [snd_perform_userAndHost]
      exact userAndHost_writes hshared s
    | isAmazonHosted =>
      rw [snd_perform_isAmazonHosted]
      exact isAmazonHosted_writes hshared s
    | session q => exact absurd rfl (h q)
    | _ => simp [parts] at hparts
  · exact .of_eq (perform_within (storage_steady hparts) s)

end Shared

/-! ## How names are treated -/

/-- How a server may treat the case of names. -/
def IsCase (n : Int) : Prop := n = 0 ∨ n = 1 ∨ n = 2

theorem isCase_of_caseSetting {v : Value} {n : Int} (h : caseSetting? v = .ok (some n)) :
    IsCase n := by
  unfold caseSetting? at h
  obtain ⟨m, -, h⟩ := Except.bind_eq_ok.mp h
  split at h
  · cases h
  · split at h
    · obtain rfl := Option.some.inj (Except.ok.inj h)
      unfold IsCase
      omega
    · cases h
  · cases h

theorem lowerCaseNames_of_some {n : Int} (h : s.memory.lowerCaseNames = some n) :
    desk.lowerCaseNames s = (.ok n, s) := by
  unfold lowerCaseNames
  rw [run_bind, run_memory]
  dsimp only
  rw [h]
  rfl

theorem keepsCase_steady (hl : ¬ l.changes .lowerCaseNames) :
    desk.Steady l fun s t => t.memory.lowerCaseNames = s.memory.lowerCaseNames := by
  refine keeps_steady (fun _ _ => rfl) (fun m h hne => ?_) hl
  cases h with
  | lowerCaseNames => exact absurd rfl hne
  | _ => rfl

variable (desk) in
/-- An answer about the case of names is remembered, and one that cannot be understood counts as the
first way. -/
theorem lowerCaseNames_cases (h : s.memory.lowerCaseNames = none) :
    (∃ e t, desk.lowerCaseNames s = (.error e, t) ∧ t.memory.lowerCaseNames = none) ∨
      ∃ n t, desk.lowerCaseNames s = (.ok n, t) ∧ t.memory.lowerCaseNames = some n ∧ IsCase n := by
  have hroutine : desk.Routine (.keeping .lowerCaseNames) (desk.fetchValue Sql.lowerCaseNames) :=
    fetchValue_routine trivial _
  have hkept : (desk.fetchValue Sql.lowerCaseNames (.index 0) .user s).2.memory.lowerCaseNames =
      none := (hroutine.moves (keepsCase_steady (Licence.not_changes_keeping _)) s).trans h
  unfold lowerCaseNames
  rw [run_bind, run_memory]
  dsimp only
  rw [h]
  dsimp only
  rw [run_bind]
  rcases hfetched : desk.fetchValue Sql.lowerCaseNames (.index 0) .user s with ⟨e | v, t⟩ <;>
    rw [hfetched] at hkept
  · exact .inl ⟨e, t, rfl, hkept⟩
  · dsimp only
    rw [run_bind, run_ofFault]
    rcases hcase : caseSetting? v with f | _ | n
    · exact .inl ⟨.fault f, t, rfl, hkept⟩
    · exact .inr ⟨0, _, rfl, rfl, .inl rfl⟩
    · exact .inr ⟨n, _, rfl, rfl, isCase_of_caseSetting hcase⟩

/-- What a desk tells of the treatment of names is remembered. -/
theorem lowerCaseNames_remembers {n : Int} (h : (desk.lowerCaseNames s).1 = .ok n) :
    (desk.lowerCaseNames s).2.memory.lowerCaseNames = some n := by
  rcases hknown : s.memory.lowerCaseNames with _ | known
  · rcases desk.lowerCaseNames_cases hknown with ⟨e, t, hrun, -⟩ | ⟨m, t, hrun, hm, -⟩ <;>
      rw [hrun] at h ⊢
    · cases h
    · exact hm.trans (congrArg some (Except.ok.inj h))
  · rw [lowerCaseNames_of_some hknown] at h ⊢
    exact hknown.trans (congrArg some (Except.ok.inj h))

/-- How names are treated stays as it is once it is known, and becomes known as one of the ways. -/
def LearnsCase (s t : DeskState σ) : Prop :=
  t.memory.lowerCaseNames = s.memory.lowerCaseNames ∨
    s.memory.lowerCaseNames = none ∧ ∃ n, t.memory.lowerCaseNames = some n ∧ IsCase n

variable (desk) in
theorem perform_learnsCase (r : Request) (s : DeskState σ) :
    LearnsCase s (desk.perform r s).2 := by
  by_cases hparts : .lowerCaseNames ∈ parts r
  · cases r with
    | lowerCaseNames =>
      rw [snd_perform_lowerCaseNames]
      rcases hknown : s.memory.lowerCaseNames with _ | n
      · rcases desk.lowerCaseNames_cases hknown with ⟨e, t, hrun, hnone⟩ | ⟨n, t, hrun, hn, hcase⟩ <;>
          rw [hrun]
        · exact .inl (hnone.trans hknown.symm)
        · exact .inr ⟨hknown, n, hn, hcase⟩
      · rw [lowerCaseNames_of_some hknown]
        exact .inl rfl
    | _ => simp [parts] at hparts
  · exact .inl (perform_within (keepsCase_steady hparts) s)

/-! ## Questions that are not asked again -/

theorem eq_of_fact_currentUser {r : Request} (h : r.fact? = some Sql.currentUser) :
    r = .currentUser ∨ r = .userAndHost := by
  unfold Request.fact? at h
  split at h
  · exact .inl rfl
  · exact .inr rfl
  · exact absurd h (by decide)
  · exact absurd h (by decide)
  · cases h

theorem eq_of_fact_baseDirectory {r : Request} (h : r.fact? = some Sql.baseDirectory) :
    r = .isAmazonHosted := by
  unfold Request.fact? at h
  split at h
  · exact absurd h (by decide)
  · exact absurd h (by decide)
  · rfl
  · exact absurd h (by decide)
  · cases h

theorem eq_of_fact_lowerCaseNames {r : Request} (h : r.fact? = some Sql.lowerCaseNames) :
    r = .lowerCaseNames := by
  unfold Request.fact? at h
  split at h
  · exact absurd h (by decide)
  · exact absurd h (by decide)
  · exact absurd h (by decide)
  · rfl
  · cases h

/-- The login is not asked for while its entry is there. -/
theorem unsent_currentUser (hshared : desk.alone = false) {v : Value}
    (h : desk.entry userKey s = some v) {r : Request}
    (hhanded : r.statement? ≠ some Sql.currentUser) :
    Unsent Sql.currentUser s (desk.perform r s).2 := by
  by_cases hfact : r.fact? = some Sql.currentUser
  · have hknown := currentUser_of_entry hshared h
    rcases eq_of_fact_currentUser hfact with rfl | rfl
    · rw [snd_perform_currentUser, hknown]
      exact .refl _ s
    · rw [snd_perform_userAndHost]
      rcases hsplit : s.memory.userAndHost with _ | p
      · have hcases := desk.userAndHost_cases hsplit
        rw [hknown] at hcases
        rcases hcases with ⟨e, hrun⟩ | ⟨p, hrun⟩ <;> rw [hrun] <;> exact .of_calls_eq rfl
      · rw [userAndHost_of_some hsplit]
        exact .refl _ s
  · exact perform_unsent (by decide) hhanded hfact s

/-- Whether the server is hosted is not asked for while the entry is there. -/
theorem unsent_baseDirectory (hshared : desk.alone = false) {v : Value}
    (h : desk.entry hostedKey s = some v) {r : Request}
    (hhanded : r.statement? ≠ some Sql.baseDirectory) :
    Unsent Sql.baseDirectory s (desk.perform r s).2 := by
  by_cases hfact : r.fact? = some Sql.baseDirectory
  · obtain rfl := eq_of_fact_baseDirectory hfact
    rw [snd_perform_isAmazonHosted, isAmazonHosted_of_entry hshared h]
    exact .refl _ s
  · exact perform_unsent (by decide) hhanded hfact s

/-- How names are treated is not asked for once it is known. -/
theorem unsent_lowerCaseNames {n : Int} (h : s.memory.lowerCaseNames = some n) {r : Request}
    (hhanded : r.statement? ≠ some Sql.lowerCaseNames) :
    Unsent Sql.lowerCaseNames s (desk.perform r s).2 := by
  by_cases hfact : r.fact? = some Sql.lowerCaseNames
  · obtain rfl := eq_of_fact_lowerCaseNames hfact
    rw [snd_perform_lowerCaseNames, lowerCaseNames_of_some h]
    exact .refl _ s
  · exact perform_unsent (by decide) hhanded hfact s

end Desk

end SqlDesk
