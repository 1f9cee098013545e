import SqlDesk.Driver.Connector
import SqlDesk.Driver.Request
import SqlDesk.Driver.Script
import SqlDesk.Proofs.Act

/-!
# Drivers that do not heed reports

A driver reports events and does not look at them: what it does depends on its own state alone, and
what it reports comes behind what was reported before. The driver over a client library is of this
kind whatever the library does, and so is the one that follows a script.
-/

namespace SqlDesk

variable {σ τ α β : Type}

/-- What an operation does depends on the state of the driver alone. -/
def Action.Unheeding (a : Action (Journal σ) α) : Prop :=
  ∃ f : σ → Except Error α × σ × List Log.Event, ∀ j,
    a j = ((f j.state).1, { state := (f j.state).2.1, events := j.events ++ (f j.state).2.2 })

/-- No operation of the driver heeds what was reported. -/
structure Driver.Unheeding (d : Driver σ) : Prop where
  connect : ∀ params, (d.connect params).Unheeding
  selectDb : ∀ database link, (d.selectDb database link).Unheeding
  execute : ∀ sql link unbuffered, (d.execute sql link unbuffered).Unheeding
  prepare : ∀ link sql, (d.prepare link sql).Unheeding
  runPrepared : ∀ p params, (d.runPrepared p params).Unheeding
  close : ∀ link, (d.close link).Unheeding

namespace Action.Unheeding

/-! ## Rules -/

/-- An operation that only reads and writes the state of the driver. -/
theorem ofState {a : Action (Journal σ) α} (f : σ → Except Error α × σ)
    (h : ∀ j, a j = ((f j.state).1, { j with state := (f j.state).2 })) : a.Unheeding := by
  refine ⟨fun x => ((f x).1, (f x).2, []), fun j => ?_⟩
  rw [h, List.append_nil]

protected theorem pure (x : α) : (pure x : Action (Journal σ) α).Unheeding :=
  ofState (fun y => (.ok x, y)) fun _ => rfl

protected theorem throw (e : Error) : (throw e : Action (Journal σ) α).Unheeding :=
  ofState (fun y => (.error e, y)) fun _ => rfl

theorem ofExcept (r : Except Error α) :
    (MonadExcept.ofExcept r : Action (Journal σ) α).Unheeding := by
  cases r with
  | error e => exact .throw e
  | ok x => exact .pure x

theorem update (f : σ → σ) : (Journal.update f).Unheeding :=
  ofState (fun y => (.ok (), f y)) fun _ => rfl

theorem report (e : Log.Event) : (Journal.report e : Action (Journal σ) Unit).Unheeding :=
  ⟨fun y => (.ok (), y, [e]), fun _ => rfl⟩

protected theorem bind {a : Action (Journal σ) α} {f : α → Action (Journal σ) β}
    (ha : a.Unheeding) (hf : ∀ x, (f x).Unheeding) : (a >>= f).Unheeding := by
  obtain ⟨g, hg⟩ := ha
  choose k hk using hf
  refine ⟨fun y => match g y with
    | (.ok x, y', events) => ((k x y').1, (k x y').2.1, events ++ (k x y').2.2)
    | (.error e, y', events) => (.error e, y', events), fun j => ?_⟩
  -- the second part is given what the first one reported and does not heed it either
  rw [Action.run_bind, hg]
  rcases hrun : g j.state with ⟨e | x, y, events⟩
  · simp only [hrun]
  · simp only [hrun, hk, List.append_assoc]

protected theorem map {a : Action (Journal σ) α} (ha : a.Unheeding) (f : α → β) :
    (f <$> a).Unheeding := by
  rw [map_eq_pure_bind]
  exact ha.bind fun x => .pure _

/-- Go on with the state of the driver. -/
theorem inspect {f : Journal σ → Action (Journal σ) α} (g : σ → Action (Journal σ) α)
    (h : ∀ j, f j = g j.state) (hg : ∀ y, (g y).Unheeding) : (get >>= f).Unheeding := by
  choose k hk using hg
  refine ⟨fun y => k y y, fun j => ?_⟩
  have hrun : (get >>= f) j = f j j := rfl
  rw [hrun, h, hk]

/-! ## Uses -/

variable {a : Action (Journal σ) α}

/-- The answer and the state of the driver are as if nothing had been reported before. -/
theorem unreported (h : a.Unheeding) (j : Journal σ) :
    (a j).1 = (a { state := j.state }).1 ∧
      (a j).2.state = (a { state := j.state }).2.state := by
  obtain ⟨f, hf⟩ := h
  rw [hf, hf]
  exact ⟨rfl, rfl⟩

end Action.Unheeding

/-! ## Requests -/

theorem demandLink_unheeding (link : Option Link) :
    (demandLink link : Action (Journal σ) Link).Unheeding := by
  cases link with
  | none => exact .throw _
  | some link => exact .pure link

theorem Driver.Unheeding.perform {d : Driver σ} (hd : d.Unheeding) (r : DriverRequest) :
    (d.perform r).Unheeding := by
  have hread (f : σ → Reply) :
      (do return f (← get).state : Action (Journal σ) Reply).Unheeding :=
    .inspect (fun y => pure (f y)) (fun _ => rfl) fun y => .pure _
  cases r with
  | connect params => exact (hd.connect params).map _
  | selectDb link database =>
    exact (demandLink_unheeding link).bind fun link => (hd.selectDb database link).bind fun _ =>
      .pure _
  | execute link sql unbuffered =>
    exact (demandLink_unheeding link).bind fun link =>
      (hd.execute sql link unbuffered).bind fun _ => .pure _
  | prepare link sql => exact (hd.prepare link sql).map _
  | runPrepared p params => exact (hd.runPrepared p params).map _
  | escape link text => exact hread fun y => .text (d.escape y link text)
  | errorText link => exact hread fun y => .text (d.lastError y link).text
  | errorNumber link => exact hread fun y => .number (d.lastError y link).number
  | affected link => exact hread fun y => .number (link.elim 0 (d.affected y))
  | close link =>
    exact (demandLink_unheeding link).bind fun link => (hd.close link).bind fun _ => .pure _

/-! ## Drivers -/

theorem Script.driver_unheeding : Script.driver.Unheeding where
  connect _ := .ofState (fun y => (.ok (Script.connect y).1, (Script.connect y).2)) fun _ => rfl
  selectDb _ link :=
    .ofState (fun y => (.ok (Script.selectDb link y).1, (Script.selectDb link y).2)) fun _ => rfl
  execute _ link _ := by
    have hact : (Script.act (Script.execute link)).Unheeding :=
      .ofState (fun y => (.ok (Script.execute link y).1, (Script.execute link y).2)) fun _ => rfl
    exact hact.bind .ofExcept
  prepare _ _ := .pure _
  runPrepared _ _ := .pure _
  close _ := .pure _

namespace Connector

theorem call_unheeding (what : ClientCall) (f : τ → Response α × τ) : (call what f).Unheeding :=
  .ofState (fun y => (.ok (f y.client).1,
    { y with client := (f y.client).2, calls := y.calls ++ [what] })) fun _ => rfl

theorem fail_unheeding (link : Link) (args : List Value) :
    (fail link args : Action (Journal (Connector τ)) Unit).Unheeding :=
  (Action.Unheeding.update _).bind fun _ => .report _

variable (client : Client τ)

theorem run_unheeding (sql : String) (params : Option (List Value)) (link : Link)
    (unbuffered : Bool) : (run client sql params link unbuffered).Unheeding := by
  unfold run
  refine (call_unheeding _ _).bind fun r => ?_
  rcases r with (n | ⟨fields, columns, rows⟩) | args | ⟨kind, text⟩
  · exact (Action.Unheeding.update _).bind fun _ => .pure _
  · dsimp only
    rcases FieldMeta.ofAnswer fields columns with f | ms
    · exact .throw _
    · exact (Action.Unheeding.update _).bind fun _ => .pure _
  · exact (fail_unheeding link args).bind fun _ => .pure _
  · exact .throw _

theorem driver_unheeding : (driver client).Unheeding where
  connect params := by
    refine (call_unheeding _ _).bind fun r => ?_
    rcases r with link | args | ⟨kind, text⟩
    · exact (Action.Unheeding.update _).bind fun _ => .pure _
    · exact (Action.Unheeding.update _).bind fun _ =>
        (Action.Unheeding.report _).bind fun _ => .pure _
    · exact .throw _
  selectDb database link := by
    refine (call_unheeding _ _).bind fun r => ?_
    rcases r with _ | args | ⟨kind, text⟩
    · exact (Action.Unheeding.update _).bind fun _ => .pure _
    · exact (fail_unheeding link args).bind fun _ => .pure _
    · exact .throw _
  execute sql link unbuffered := run_unheeding client sql none link unbuffered
  prepare link sql :=
    .ofState (fun y => ((prepare client link sql { state := y }).1, y)) fun _ => rfl
  runPrepared p params := run_unheeding client p.text (some params) p.link false
  close link := by
    refine (Action.Unheeding.update _).bind fun _ => (call_unheeding _ _).bind fun r => ?_
    rcases r with _ | args | ⟨kind, text⟩
    · exact .pure _
    · exact .report _
    · exact .throw _

end Connector

end SqlDesk
