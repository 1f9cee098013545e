import SqlDesk.Desk.Databases
import SqlDesk.Proofs.Desk.Statement

/-!
# What operations of a desk are made of

Every operation of a desk is put together from few deeds: statements and other requests of the
driver, reports, looks at what is remembered and stored, and changes of one part of it. `Routine`
says this of an operation, and which deeds its licence allows. A relation that these deeds keep is
`Steady`; it is kept by the operation, by one induction on how it is put together.
-/

namespace SqlDesk

open Act

variable {σ α β : Type}

/-- The driver serves a request of a desk that is not a statement. -/
inductive Call.Served (d : Driver σ) : {α : Type} → Call → Action (Journal σ) α → Prop where
  | connect (params : ConnectionParams) : Served d (.connect params) (d.connect params)
  | selectDb (link : Link) (database : String) :
      Served d (.selectDb link database) (d.selectDb database link)
  | prepare (link : Option Link) (sql : String) : Served d (.prepare link sql) (d.prepare link sql)
  | close (link : Link) : Served d (.close link) (d.close link)

/-- Whether a request of the driver is a statement. -/
def Call.isStatement : Call → Bool
  | .query .. => true
  | _ => false

/-- The text of a statement. -/
def Call.text? : Call → Option String
  | .query _ sql _ => some sql
  | _ => none

theorem Call.Served.effect {d : Driver σ} {c : Call} {a : Action (Journal σ) α}
    (h : c.Served d a) (j : Journal σ) : c.isStatement = false ∧ (a j).2 = c.effect d j := by
  cases h <;> exact ⟨rfl, rfl⟩

/-- The state with another statement log and other reports. -/
def DeskState.logging (s : DeskState σ) (log : Log.StatementLog) (events : List Log.Event) :
    DeskState σ where
  memory := { s.memory with log }
  world := { s.world with journal := { s.world.journal with events } }

/-- Look at the state. -/
def Act.read (f : DeskState σ → α) : Act σ α := fun s => (.ok (f s), s)

namespace Desk

/-- A part of what a desk remembers. -/
inductive Part where
  | currentDatabase
  | collation
  | links
  | version
  | login
  | lowerCaseNames
  | databases
  | tables
  | affected
  | log
  | storage
deriving DecidableEq, Repr

variable (desk : Desk σ)

/-- A change of one part of what a desk remembers. Versions come from a row of the server, and lists
of databases have passed the settings. -/
inductive Change : Part → (Memory → Memory) → Prop where
  | useDatabase (name : String) :
      Change .currentDatabase fun m => { m with currentDatabase := name }
  | charset (charset collation : String) : Change .collation fun m => { m with charset, collation }
  | collation (collation : String) : Change .collation fun m => { m with collation }
  | link (role : Role) (link : Option Link) :
      Change .links fun m => { m with links := Assoc.put m.links role link }
  | unlink (role : Role) : Change .links fun m => { m with links := Assoc.erase m.links role }
  | version {row : Value} {version : ServerVersion}
      (h : ServerVersion.ofRow row = .ok (some version)) :
      Change .version fun m => { m with version }
  | login (login : String × String) : Change .login fun m => { m with userAndHost := some login }
  | lowerCaseNames (n : Int) : Change .lowerCaseNames fun m => { m with lowerCaseNames := some n }
  | forgetDatabases : Change .databases fun m => { m with databases := none }
  | databases {all names : List String} (h : visible desk.settings.server all = .ok names) :
      Change .databases fun m => { m with databases := some names }
  | tables (f : Assoc String (Assoc String TableStatus) → Assoc String (Assoc String TableStatus)) :
      Change .tables fun m => { m with tables := f m.tables }
  | affected (n : Int) : Change .affected fun m => { m with affected := n }
  | clearLog : Change .log fun m => { m with log := m.log.clear }
  | storage (storage : Session.Storage) : Change .storage fun m => { m with storage }

/-- What an operation may do: which statements it may run on the connections of which roles, which
other requests it may make of the driver, and which parts of what is remembered it may change. -/
structure Licence where
  asks : String → Role → Prop
  makes : Call → Prop
  changes : Part → Prop

/-- The licence to run no statement and to change nothing that is remembered. -/
def Licence.none : Licence where
  asks _ _ := False
  makes _ := True
  changes _ := False

/-- The licence to do whatever leaves one part of what is remembered as it is. -/
def Licence.keeping (kept : Part) : Licence where
  asks _ _ := True
  makes _ := True
  changes part := part ≠ kept

theorem Licence.not_changes_keeping (kept : Part) : ¬ (Licence.keeping kept).changes kept :=
  fun h => h rfl

/-- An operation is put together from deeds that a licence allows. What it looks at is neither the
statement log nor the reports. -/
inductive Routine (l : Licence) : {α : Type} → Act σ α → Prop where
  | ofExcept {α : Type} (r : Except Error α) : Routine l (MonadExcept.ofExcept r : Act σ α)
  | bind {α β : Type} {a : Act σ α} {f : α → Act σ β} (ha : Routine l a)
      (hf : ∀ x, (∃ s, (a s).1 = .ok x) → Routine l (f x)) : Routine l (a >>= f)
  | read {α : Type} {f : DeskState σ → α}
      (hf : ∀ (s : DeskState σ) log events, f (s.logging log events) = f s) : Routine l (Act.read f)
  | post (e : Log.Event) : Routine l (Act.post e)
  | statement {sql : String} {role : Role} {unbuffered keep : Bool} (hask : l.asks sql role)
      (hkeep : keep = true → l.changes .affected) :
      Routine l (desk.tryQuery sql role unbuffered keep)
  | request {α : Type} {c : Call} {a : Action (Journal σ) α} (h : c.Served desk.driver a)
      (hmake : l.makes c) : Routine l (Act.request c a)
  | remember {part : Part} {f : Memory → Memory} (h : desk.Change part f) (hpart : l.changes part) :
      Routine l (Act.remember f)
  | putStorage (st : Session.Storage) (hpart : l.changes .storage) :
      Routine l (desk.putStorage st)

namespace Routine

variable {desk} {l : Licence}

protected theorem pure (x : α) : Routine desk l (pure x : Act σ α) := .ofExcept (.ok x)

protected theorem throw (e : Error) : Routine desk l (throw e : Act σ α) := .ofExcept (.error e)

theorem ofFault (r : Except Fault α) : Routine desk l (Act.ofFault r) := .ofExcept _

theorem report (severity : Log.Severity) (message : String) (fields : List (String × Value)) :
    Routine desk l (Act.report severity message fields) := .post _

/-- Go on with something that always goes on. -/
theorem andThen {a : Act σ α} {f : α → Act σ β} (ha : Routine desk l a)
    (hf : ∀ x, Routine desk l (f x)) : Routine desk l (a >>= f) := ha.bind fun x _ => hf x

protected theorem map {a : Act σ α} (ha : Routine desk l a) (f : α → β) :
    Routine desk l (f <$> a) := by
  rw [map_eq_pure_bind]
  exact ha.andThen fun x => .pure _

/-- Go on with what is remembered, without a look at the statement log. -/
theorem consult {f : Memory → Act σ α} (hblind : ∀ m log, f { m with log } = f m)
    (hf : ∀ m, Routine desk l (f m)) : Routine desk l (Act.memory >>= f) := by
  have hread : Routine desk l
      (Act.read fun s : DeskState σ => ({ s.memory with log := {} } : Memory)) :=
    .read fun _ _ _ => rfl
  have heq : Act.memory >>= f =
      (Act.read fun s : DeskState σ => ({ s.memory with log := {} } : Memory)) >>= f :=
    funext fun s => (congrFun (hblind s.memory {}) s).symm
  rw [heq]
  exact hread.andThen hf

/-- Go on with the state, without a look at the statement log and the reports. -/
theorem inspect {f : DeskState σ → Act σ α}
    (hblind : ∀ (s : DeskState σ) log events, f (s.logging log events) = f s)
    (hf : ∀ s, Routine desk l (f s)) : Routine desk l (get >>= f) := by
  have hread : Routine desk l (Act.read fun s : DeskState σ => s.logging {} []) :=
    .read fun _ _ _ => rfl
  have heq : get >>= f = (Act.read fun s : DeskState σ => s.logging {} []) >>= f :=
    funext fun s => (congrFun (hblind s {} []) s).symm
  rw [heq]
  exact hread.andThen hf

protected theorem mapM {f : α → Act σ β} {xs : List α} (h : ∀ x ∈ xs, Routine desk l (f x)) :
    Routine desk l (xs.mapM f) := by
  induction xs with
  | nil => exact .pure _
  | cons x xs ih =>
    rw [List.mapM_cons]
    refine (h x List.mem_cons_self).andThen fun y => ?_
    exact (ih fun x hx => h x (List.mem_cons_of_mem _ hx)).andThen fun ys => .pure _

protected theorem forM {f : α → Act σ PUnit} {xs : List α} (h : ∀ x ∈ xs, Routine desk l (f x)) :
    Routine desk l (xs.forM f) := by
  induction xs with
  | nil => exact .pure _
  | cons x xs ih =>
    exact (h x List.mem_cons_self).andThen fun _ =>
      ih fun x hx => h x (List.mem_cons_of_mem _ hx)

/-- What is put together from deeds of a licence is so from those of one that allows more. -/
theorem mono {l' : Licence} (hasks : ∀ sql role, l.asks sql role → l'.asks sql role)
    (hmakes : ∀ c, l.makes c → l'.makes c) (hchanges : ∀ part, l.changes part → l'.changes part)
    {a : Act σ α} (h : Routine desk l a) : Routine desk l' a := by
  induction h with
  | ofExcept r => exact .ofExcept r
  | bind _ _ iha ihf => exact .bind iha ihf
  | read hf => exact .read hf
  | post e => exact .post e
  | statement hask hkeep => exact .statement (hasks _ _ hask) fun h => hchanges _ (hkeep h)
  | request h hmake => exact .request h (hmakes _ hmake)
  | remember h hpart => exact .remember h (hchanges _ hpart)
  | putStorage st hpart => exact .putStorage st (hchanges _ hpart)

end Routine

/-! ## What deeds keep -/

/-- A relation between the state before and the state after that is kept by all deeds that a licence
allows. -/
structure Steady (l : Licence) (R : DeskState σ → DeskState σ → Prop) : Prop where
  refl : ∀ s, R s s
  trans : ∀ {s t u}, R s t → R t u → R s u
  post : ∀ s e, R s (Act.post e s).2
  statement : ∀ {sql role link} unbuffered s, l.asks sql role → s.memory.linkOf role = some link →
    R s (desk.measured sql link role unbuffered s).2
  request : ∀ {c : Call} s, c.isStatement = false → l.makes c →
    R s { s with world := { s.world with
      journal := c.effect desk.driver s.world.journal, calls := s.world.calls ++ [c] } }
  change : ∀ {part f} s, desk.Change part f → l.changes part → R s { s with memory := f s.memory }
  storage : ∀ s storage, l.changes .storage → R s { s with world := { s.world with storage } }

variable {desk} {l : Licence} {R : DeskState σ → DeskState σ → Prop}

/-- What is remembered in one part stays as it is if that part may not be changed. -/
theorem keeps_steady {f : Memory → α} {part : Part} (hlog : ∀ m log, f { m with log } = f m)
    (hother : ∀ {other g} m, desk.Change other g → other ≠ part → f (g m) = f m)
    (hpart : ¬ l.changes part) : desk.Steady l fun s t => f t.memory = f s.memory where
  refl _ := rfl
  trans h h' := h'.trans h
  post _ _ := rfl
  statement unbuffered s _ _ := by
    rw [measured_run]
    exact hlog _ _
  request _ _ _ := rfl
  change s h hchange := hother _ h fun heq => hpart (heq ▸ hchange)
  storage _ _ _ := rfl

/-- Only such requests are made of the driver as the statements and the others that are allowed. -/
theorem sent_steady {P : Call → Prop}
    (hstatement : ∀ {sql role} link unbuffered, l.asks sql role → P (.query link sql unbuffered))
    (hother : ∀ {c : Call}, c.isStatement = false → l.makes c → P c) :
    desk.Steady l (Act.Sent P) := by
  have hR : Loose desk.driver P (Act.Sent P) := sent_loose P
  exact {
    refl := hR.refl
    trans := hR.trans
    post := fun s e => hR.events s [e]
    statement := fun unbuffered s hask _ =>
      desk.measured_moves hR.toFrame (hstatement _ unbuffered hask) _ s
    request := fun {c} s hc hmake =>
      hR.request s c s.memory.log s.world.readings (hother hc hmake)
    change := fun s _ _ => .of_calls_eq rfl
    storage := fun s _ _ => .of_calls_eq rfl }

/-- A steady relation is kept by a statement whose number of rows may be remembered. -/
theorem Steady.tryQuery (hR : desk.Steady l R) {sql : String} {role : Role} (unbuffered : Bool)
    {keep : Bool} (hask : l.asks sql role) (hkeep : keep = true → l.changes .affected)
    (s : DeskState σ) : R s (desk.tryQuery sql role unbuffered keep s).2 := by
  have hcounted (link : Link) (t : DeskState σ) :
      R t (if keep then desk.counted link t else t) := by
    split
    · rename_i hk
      exact hR.change t (.affected _) (hkeep hk)
    · exact hR.refl t
  rw [run_tryQuery]
  rcases hlink : s.memory.linkOf role with _ | link
  · exact hR.post s _
  · have hran := hR.statement unbuffered s hask hlink
    dsimp only
    rcases hrun : desk.measured sql link role unbuffered s with ⟨e | r | _ | _, t⟩ <;>
      rw [hrun] at hran
    · exact hran
    · exact hR.trans hran (hcounted link t)
    · exact hR.trans hran (hcounted link t)
    · exact hran

/-- A steady relation is kept by every operation that is put together from deeds of its licence. -/
theorem Routine.moves (hR : desk.Steady l R) {a : Act σ α} (h : desk.Routine l a)
    (s : DeskState σ) : Moves R a s := by
  induction h generalizing s with
  | ofExcept r =>
    unfold Moves
    rw [run_ofExcept]
    exact hR.refl s
  | @bind α β a f _ _ iha ihf =>
    unfold Moves at iha ihf ⊢
    rw [run_bind]
    have ha := iha s
    rcases hrun : a s with ⟨e | x, t⟩ <;> rw [hrun] at ha
    · exact ha
    · exact hR.trans ha (ihf x ⟨s, congrArg Prod.fst hrun⟩ t)
  | read _ => exact hR.refl s
  | post e => exact hR.post s e
  | statement hask hkeep => exact hR.tryQuery _ hask hkeep s
  | request h hmake =>
    unfold Moves
    rw [run_request, (h.effect _).2]
    exact hR.request s (h.effect s.world.journal).1 hmake
  | remember h hpart => exact hR.change s h hpart
  | putStorage st hpart =>
    show R s (if desk.alone then _ else _)
    split
    · exact hR.change s (.storage st) hpart
    · exact hR.storage s st hpart

end Desk

end SqlDesk
