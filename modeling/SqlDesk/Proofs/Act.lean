import SqlDesk.Desk
import SqlDesk.Proofs.Except

/-!
# Runs of operations

Two ways to reason about an operation of a desk. The `run_*` equations say what each primitive
operation comes to in a state, so that a small operation can be run by `simp`. For the others there
are relations between the state before and the state after: `Moves R a s` says that `a` started in
`s` stays within `R`. A relation that is a `Frame` is kept by everything that running statements
does besides answering them: by events, by the statement log, and by what the driver makes of a
request. Moves compose along `>>=`.
-/

namespace SqlDesk

/-- A sequence of operations goes on from the state that the first one has reached, unless that one
fails. -/
theorem Action.run_bind {σ α β : Type} (a : Action σ α) (f : α → Action σ β) (s : σ) :
    (a >>= f) s = match a s with
      | (.ok x, s') => f x s'
      | (.error e, s') => (.error e, s') := by
  show (match a s with | (r, s') => ExceptT.bindCont f r s') = _
  rcases a s with ⟨_ | _, s'⟩ <;> rfl

/-- What is to be done at the end is done however an operation ends. -/
theorem Action.run_tryFinally {σ α β : Type} (a : Action σ α) (f : Action σ β) (s : σ) :
    (tryFinally a f) s = match f (a s).2 with
      | (.ok _, s') => ((a s).1, s')
      | (.error e, s') => (.error e, s') := by
  simp only [tryFinally, tryFinally', Functor.map, ExceptT.map, ExceptT.mk, bind, StateT.bind]
  rcases a s with ⟨_ | _, s'⟩ <;> dsimp only <;> rcases f s' with ⟨_ | _, s''⟩ <;> rfl

theorem Action.run_tryCatch {σ α : Type} (a : Action σ α) (f : Error → Action σ α) (s : σ) :
    (tryCatch a f) s = match a s with
      | (.ok x, s') => (.ok x, s')
      | (.error e, s') => f e s' := by
  simp only [tryCatch, tryCatchThe, MonadExceptOf.tryCatch, ExceptT.tryCatch, ExceptT.mk, bind,
    StateT.bind]
  rcases a s with ⟨_ | _, s'⟩ <;> rfl

/-- What the driver makes of a request of a desk. -/
def Call.effect {σ : Type} (d : Driver σ) (j : Journal σ) : Call → Journal σ
  | .connect params => (d.connect params j).2
  | .selectDb link database => (d.selectDb database link j).2
  | .query link sql unbuffered => (d.execute sql link unbuffered j).2
  | .prepare link sql => (d.prepare link sql j).2
  | .close link => (d.close link j).2

namespace Act

variable {σ α β : Type}

/-! ## Equations -/

theorem run_bind (a : Act σ α) (f : α → Act σ β) (s : DeskState σ) :
    (a >>= f) s = match a s with
      | (.ok x, s') => f x s'
      | (.error e, s') => (.error e, s') := by
  rw [Action.run_bind]
  rcases a s with ⟨_ | _, s'⟩ <;> rfl

/-- What a sequence returns. -/
theorem fst_bind (a : Act σ α) (f : α → Act σ β) (s : DeskState σ) :
    ((a >>= f) s).1 = (a s).1 >>= fun x => (f x (a s).2).1 := by
  rw [run_bind]
  rcases a s with ⟨_ | _, s'⟩ <;> rfl

@[simp] theorem run_pure (x : α) (s : DeskState σ) : (pure x : Act σ α) s = (.ok x, s) := rfl

@[simp] theorem run_throw (e : Error) (s : DeskState σ) :
    (throw e : Act σ α) s = (.error e, s) := rfl

@[simp] theorem run_get (s : DeskState σ) : (get : Act σ (DeskState σ)) s = (.ok s, s) := rfl

@[simp] theorem run_modify (f : DeskState σ → DeskState σ) (s : DeskState σ) :
    (modify f : Act σ Unit) s = (.ok (), f s) := rfl

@[simp] theorem run_memory (s : DeskState σ) : (memory : Act σ Memory) s = (.ok s.memory, s) := rfl

@[simp] theorem run_remember (f : Memory → Memory) (s : DeskState σ) :
    (remember f : Act σ Unit) s = (.ok (), { s with memory := f s.memory }) := rfl

@[simp] theorem run_attempt (a : Act σ α) (s : DeskState σ) :
    attempt a s = (.ok (a s).1, (a s).2) := rfl

@[simp] theorem run_ofExcept (r : Except Error α) (s : DeskState σ) :
    (MonadExcept.ofExcept r : Act σ α) s = (r, s) := by
  cases r <;> rfl

@[simp] theorem run_ofFault (r : Except Fault α) (s : DeskState σ) :
    (ofFault r : Act σ α) s = (Error.ofFault r, s) := run_ofExcept _ s

@[simp] theorem run_map (f : α → β) (a : Act σ α) (s : DeskState σ) :
    (f <$> a) s = (f <$> (a s).1, (a s).2) := by
  rw [map_eq_pure_bind, run_bind]
  rcases a s with ⟨_ | _, s'⟩ <;> rfl

theorem snd_map (f : α → β) (a : Act σ α) (s : DeskState σ) : ((f <$> a) s).2 = (a s).2 := by
  rw [run_map]

theorem snd_bind_pure (a : Act σ α) (f : α → β) (s : DeskState σ) :
    ((a >>= fun x => pure (f x)) s).2 = (a s).2 := by
  rw [← map_eq_pure_bind, run_map]

@[simp] theorem run_discard (a : Act σ α) (s : DeskState σ) :
    discard a s = ((fun _ => ()) <$> (a s).1, (a s).2) := run_map _ a s

@[simp] theorem run_request (c : Call) (a : Action (Journal σ) α) (s : DeskState σ) :
    request c a s = ((a s.world.journal).1, { s with world := { s.world with
      journal := (a s.world.journal).2, calls := s.world.calls ++ [c] } }) := rfl

@[simp] theorem run_post (e : Log.Event) (s : DeskState σ) :
    (post e : Act σ Unit) s = (.ok (), { s with world := { s.world with
      journal := { s.world.journal with events := s.world.journal.events ++ [e] } } }) := rfl

@[simp] theorem run_readClock (desk : Desk σ) (s : DeskState σ) :
    desk.readClock s = (.ok (desk.clock s.world.readings),
      { s with world := { s.world with readings := s.world.readings + 1 } }) := rfl

/-- What a traversal returns was returned by a step of it, in the state that the steps before have
reached. -/
theorem split_of_mem_mapM {f : α → Act σ β} {xs : List α} {ys : List β} {s : DeskState σ}
    (h : (xs.mapM f s).1 = .ok ys) {y : β} (hy : y ∈ ys) :
    ∃ before x after, xs = before ++ x :: after ∧ (f x (before.mapM f s).2).1 = .ok y := by
  induction xs generalizing s ys with
  | nil =>
    obtain rfl : [] = ys := Except.ok.inj h
    simp at hy
  | cons x xs ih =>
    rw [List.mapM_cons, fst_bind] at h
    obtain ⟨z, hz, h⟩ := Except.bind_eq_ok.mp h
    rw [fst_bind] at h
    obtain ⟨zs, hzs, h⟩ := Except.bind_eq_ok.mp h
    obtain rfl : z :: zs = ys := Except.ok.inj h
    rcases List.mem_cons.mp hy with rfl | hy
    · exact ⟨[], x, xs, rfl, hz⟩
    · obtain ⟨before, x', after, rfl, hstep⟩ := ih hzs hy
      refine ⟨x :: before, x', after, rfl, ?_⟩
      rcases hx : f x s with ⟨r, t⟩
      rw [hx] at hz hstep
      obtain rfl : r = .ok z := hz
      rwa [List.mapM_cons, run_bind, hx, snd_bind_pure]

theorem mem_of_mapM {f : α → Act σ β} {xs : List α} {ys : List β} {s : DeskState σ}
    (h : (xs.mapM f s).1 = .ok ys) {y : β} (hy : y ∈ ys) : ∃ x ∈ xs, ∃ t, (f x t).1 = .ok y := by
  obtain ⟨before, x, after, rfl, hstep⟩ := split_of_mem_mapM h hy
  exact ⟨x, by simp, _, hstep⟩

/-! ## Moves -/

/-- The operation takes a state to one that is related to it. -/
def Moves (R : DeskState σ → DeskState σ → Prop) (a : Act σ α) (s : DeskState σ) : Prop :=
  R s (a s).2

/-- A relation that is kept by events, by the statement log and by requests of the driver that
satisfy `P`. -/
structure Frame (d : Driver σ) (P : Call → Prop) (R : DeskState σ → DeskState σ → Prop) :
    Prop where
  refl : ∀ s, R s s
  trans : ∀ {s t u}, R s t → R t u → R s u
  events : ∀ s es, R s
    { s with world := { s.world with
      journal := { s.world.journal with events := s.world.journal.events ++ es } } }
  request : ∀ s c log readings, P c → R s
    { s with
      memory := { s.memory with log }
      world := { s.world with
        journal := c.effect d s.world.journal
        calls := s.world.calls ++ [c]
        readings } }

section Rules

variable {d : Driver σ} {P : Call → Prop} {R : DeskState σ → DeskState σ → Prop}
  (hR : Frame d P R)

include hR

/-- An operation that changes nothing. -/
theorem Frame.quiet {a : Act σ α} {s : DeskState σ} (h : (a s).2 = s) : Moves R a s := by
  unfold Moves
  rw [h]
  exact hR.refl s

theorem Frame.bind {a : Act σ α} {f : α → Act σ β} {s : DeskState σ} (ha : Moves R a s)
    (hf : ∀ x, (a s).1 = .ok x → Moves R (f x) (a s).2) : Moves R (a >>= f) s := by
  unfold Moves at ha hf ⊢
  rw [run_bind]
  rcases hrun : a s with ⟨e | x, s'⟩
  · rw [hrun] at ha
    exact ha
  · rw [hrun] at ha hf
    exact hR.trans ha (hf x rfl)

omit hR in
theorem Moves.map {a : Act σ α} {s : DeskState σ} (h : Moves R a s) (f : α → β) :
    Moves R (f <$> a) s := by
  unfold Moves at h ⊢
  rwa [run_map]

theorem Frame.report (severity : Log.Severity) (message : String) (fields : List (String × Value))
    (s : DeskState σ) : Moves R (report severity message fields) s := hR.events s _

theorem Frame.ask {c : Call} (hc : P c) {a : Action (Journal σ) α} {s : DeskState σ}
    (ha : (a s.world.journal).2 = c.effect d s.world.journal) : Moves R (Act.request c a) s := by
  unfold Moves
  rw [run_request, ha]
  exact hR.request s c s.memory.log s.world.readings hc

theorem Frame.mapM {f : α → Act σ β} {xs : List α} (h : ∀ x ∈ xs, ∀ s, Moves R (f x) s)
    (s : DeskState σ) : Moves R (xs.mapM f) s := by
  induction xs generalizing s with
  | nil => exact hR.quiet rfl
  | cons x xs ih =>
    rw [List.mapM_cons]
    refine hR.bind (h x List.mem_cons_self s) fun y _ => ?_
    exact hR.bind (ih (fun x hx => h x (List.mem_cons_of_mem _ hx)) _) fun ys _ => hR.quiet rfl

end Rules

/-- A frame that is also kept by whatever is remembered or stored, the list of visible databases
aside. -/
structure Loose (d : Driver σ) (P : Call → Prop) (R : DeskState σ → DeskState σ → Prop) : Prop
    extends Frame d P R where
  memory : ∀ s memory, memory.databases = s.memory.databases → R s { s with memory }
  storage : ∀ s storage, R s { s with world := { s.world with storage } }

theorem Loose.remember {d : Driver σ} {P : Call → Prop} {R : DeskState σ → DeskState σ → Prop}
    (hR : Loose d P R) {f : Memory → Memory} {s : DeskState σ}
    (h : (f s.memory).databases = s.memory.databases) : Moves R (Act.remember f) s :=
  hR.memory s _ h

/-! ## Requests of the driver -/

/-- Only requests that satisfy `P` have been made between two states. -/
def Sent (P : Call → Prop) (s s' : DeskState σ) : Prop :=
  ∃ calls, s'.world.calls = s.world.calls ++ calls ∧ ∀ c ∈ calls, P c

theorem Sent.of_calls_eq {P : Call → Prop} {s s' : DeskState σ}
    (h : s'.world.calls = s.world.calls) : Sent P s s' := ⟨[], by simpa using h, by simp⟩

theorem sent_loose {d : Driver σ} (P : Call → Prop) : Loose d P (@Sent σ P) where
  refl s := .of_calls_eq rfl
  trans := by
    rintro s t u ⟨cs, hcs, hP⟩ ⟨ds, hds, hQ⟩
    refine ⟨cs ++ ds, by rw [hds, hcs, List.append_assoc], fun c hc => ?_⟩
    exact (List.mem_append.mp hc).elim (hP c) (hQ c)
  events s es := .of_calls_eq rfl
  request s c log readings hc := ⟨[c], rfl, by simpa using hc⟩
  memory s memory _ := .of_calls_eq rfl
  storage s storage := .of_calls_eq rfl

end Act

end SqlDesk
