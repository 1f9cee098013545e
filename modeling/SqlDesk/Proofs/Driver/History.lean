import SqlDesk.Driver.Connector
import SqlDesk.Driver.Request
import SqlDesk.Driver.Script
import SqlDesk.Proofs.Act
import SqlDesk.Proofs.Assoc

/-!
# What the registers of the driver tell

The driver over a client library keeps registers and no history. Here its history is the list of what
its requests came to, as the client library answered them, and the registers are what the latest
event about a link tells: an error if that event is a failure, and a number of rows if it is a
statement that succeeded.
-/

namespace SqlDesk.Connector

variable {τ : Type}

/-- What a request of the driver came to. -/
inductive Event where
  /-- A connection was opened. -/
  | opened (l : Link)
  /-- An attempt to connect was refused. -/
  | unreachable (e : LinkError)
  /-- A database was selected on a link, unless the server refused. -/
  | selected (l : Link) (r : Except LinkError Unit)
  /-- A statement was run on a link and concerned a number of rows, unless the server refused. -/
  | executed (l : Link) (r : Except LinkError Int)
  | closed (l : Link)
  /-- The client library was not called, or the call ended by an error that is not the server's. -/
  | other

/-- The link that an event is about. -/
def Event.link? : Event → Option Link
  | .opened l | .selected l _ | .executed l _ | .closed l => some l
  | .unreachable _ | .other => none

/-! ## The latest event -/

/-- The latest of the facts that events tell. -/
def latest {α : Type} (tells : Event → Option α) (h : List Event) : Option α :=
  h.reverse.findSome? tells

theorem latest_append {α : Type} (tells : Event → Option α) (h h' : List Event) :
    latest tells (h ++ h') = (latest tells h').or (latest tells h) := by
  unfold latest
  rw [List.reverse_append, List.findSome?_append]

theorem latest_singleton {α : Type} (tells : Event → Option α) (e : Event) :
    latest tells [e] = tells e := by
  unfold latest
  rw [List.reverse_singleton, List.findSome?_cons]
  cases tells e <;> rfl

theorem latest_eq_none {α : Type} {tells : Event → Option α} {h : List Event}
    (hnone : ∀ e ∈ h, tells e = none) : latest tells h = none :=
  List.findSome?_eq_none_iff.mpr fun e he => hnone e (List.mem_reverse.mp he)

/-- The error of a call that the server refused. -/
def errorOf {α : Type} : Except LinkError α → Option LinkError
  | .ok _ => none
  | .error e => some e

/-- What an event tells of the error of a link: the server's error if it is a failure, and that there
is none if it is a success or the link was closed. -/
def errorTold (l : Link) : Event → Option (Option LinkError)
  | .selected k r => if k = l then some (errorOf r) else none
  | .executed k r => if k = l then some (errorOf r) else none
  | .closed k => if k = l then some none else none
  | _ => none

/-- What an event tells of the number of rows that a link's last statement concerned. Failures tell
nothing of it. -/
def countTold (l : Link) : Event → Option Int
  | .executed k (.ok n) => if k = l then some n else none
  | .closed k => if k = l then some 0 else none
  | _ => none

theorem errorTold_of_link?_ne {l : Link} {e : Event} (h : e.link? ≠ some l) :
    errorTold l e = none := by
  cases e with
  | selected k r | executed k r | closed k =>
    have hne : k ≠ l := fun hk => h (congrArg some hk)
    rw [errorTold, if_neg hne]
  | _ => rfl

theorem countTold_of_link?_ne {l : Link} {e : Event} (h : e.link? ≠ some l) :
    countTold l e = none := by
  cases e with
  | executed k r =>
    have hne : k ≠ l := fun hk => h (congrArg some hk)
    cases r with
    | ok n => rw [countTold, if_neg hne]
    | error e => rfl
  | closed k =>
    have hne : k ≠ l := fun hk => h (congrArg some hk)
    rw [countTold, if_neg hne]
  | _ => rfl

/-- What an event tells of the error of connecting. -/
def refusalTold : Event → Option (Option LinkError)
  | .opened _ => some none
  | .unreachable e => some (some e)
  | _ => none

/-- The error that stands on a link, if the last selection or statement on it failed and the link was
not closed since. -/
def standing (l : Link) (h : List Event) : Option LinkError := (latest (errorTold l) h).join

/-- The number of rows of the last statement on a link that succeeded since it was closed. -/
def count (l : Link) (h : List Event) : Int := (latest (countTold l) h).getD 0

/-- The error of the last attempt to connect, if it was refused. -/
def refusal (h : List Event) : Option LinkError := (latest refusalTold h).join

/-- A link that no event was about before it was opened is told of by the events since alone. -/
theorem since_opened {l : Link} {h h' : List Event} (hnew : ∀ e ∈ h, e.link? ≠ some l) :
    standing l (h ++ .opened l :: h') = standing l h' ∧
      count l (h ++ .opened l :: h') = count l h' := by
  have hsplit {α : Type} {tells : Event → Option α} (hopened : tells (.opened l) = none)
      (hbefore : ∀ e ∈ h, tells e = none) :
      latest tells (h ++ .opened l :: h') = latest tells h' := by
    rw [← List.singleton_append, latest_append, latest_append, latest_singleton, hopened,
      latest_eq_none hbefore, Option.or_none, Option.or_none]
  unfold standing count
  rw [hsplit rfl fun e he => errorTold_of_link?_ne (hnew e he),
    hsplit rfl fun e he => countTold_of_link?_ne (hnew e he)]
  exact ⟨rfl, rfl⟩

/-! ## Histories -/

/-- What an attempt to connect came to. -/
def connected : Response Link → Event
  | .ok l => .opened l
  | .refused args => .unreachable (.ofArgs args)
  | .raised .. => .other

/-- What the selection of a database came to. -/
def selection (l : Link) : Response Unit → Event
  | .ok _ => .selected l (.ok ())
  | .refused args => .selected l (.error (.ofArgs args))
  | .raised .. => .other

/-- What a statement came to. A result whose columns cannot be described is lost. -/
def execution (l : Link) : Response ClientAnswer → Event
  | .ok (.count n) => .executed l (.ok n)
  | .ok (.rows fields columns rows) =>
    match FieldMeta.ofAnswer fields columns with
    | .ok _ => .executed l (.ok rows.length)
    | .error _ => .other
  | .refused args => .executed l (.error (.ofArgs args))
  | .raised .. => .other

variable (client : Client τ)

/-- The driver after a call of the client library. -/
def called (c : Connector τ) (what : ClientCall) (client : τ) : Connector τ :=
  { c with client, calls := c.calls ++ [what] }

/-- What a request comes to, and the driver after the call that it makes of the client library. -/
def answered (c : Connector τ) : DriverRequest → Event × Connector τ
  | .connect params =>
    let out := client.connect params.clientOptions c.client
    (connected out.1, c.called (.connect params.clientOptions) out.2)
  | .selectDb (some l) database =>
    let out := client.selectDb database l c.client
    (selection l out.1, c.called (.selectDb database l) out.2)
  | .execute (some l) sql unbuffered =>
    let out := client.execute sql none l unbuffered c.client
    (execution l out.1, c.called (.execute sql none l unbuffered) out.2)
  | .runPrepared p params =>
    let out := client.execute p.text (some params) p.link false c.client
    (execution p.link out.1, c.called (.execute p.text (some params) p.link false) out.2)
  | .close (some l) => (.closed l, c.called (.close l) (client.close l c.client).2)
  | _ => (.other, c)

/-- The registers after an event. -/
def record (c : Connector τ) : Event → Connector τ
  | .opened _ => { c with connectError := {} }
  | .unreachable e => { c with connectError := e }
  | .selected l (.ok _) => c.clearError l
  | .selected l (.error e) => c.putError l e
  | .executed l (.ok n) => c.putAffected l n
  | .executed l (.error e) => c.putError l e
  | .closed l => c.forget l
  | .other => c

/-- The driver after a request. -/
def after (c : Connector τ) (r : DriverRequest) : Connector τ :=
  (answered client c r).2.record (answered client c r).1

/-- What requests come to, one after the other. -/
def history : List DriverRequest → Connector τ → List Event
  | [], _ => []
  | r :: rs, c => (answered client c r).1 :: history rs (after client c r)

/-! ## One request -/

theorem run_call {α : Type} (what : ClientCall) (f : τ → Response α × τ)
    (j : Journal (Connector τ)) : call what f j = (.ok (f j.state.client).1,
      { j with state := j.state.called what (f j.state.client).2 }) := rfl

variable {client}

theorem connect_state (params : ConnectionParams) (j : Journal (Connector τ)) :
    let out := client.connect params.clientOptions j.state.client
    (connect client params j).2.state =
      (j.state.called (.connect params.clientOptions) out.2).record (connected out.1) := by
  unfold connect
  rw [Action.run_bind, run_call]
  rcases client.connect params.clientOptions j.state.client with ⟨r, t⟩
  cases r <;> rfl

theorem selectDb_state (database : String) (l : Link) (j : Journal (Connector τ)) :
    let out := client.selectDb database l j.state.client
    (selectDb client database l j).2.state =
      (j.state.called (.selectDb database l) out.2).record (selection l out.1) := by
  unfold selectDb
  rw [Action.run_bind, run_call]
  rcases client.selectDb database l j.state.client with ⟨r, t⟩
  cases r <;> rfl

theorem run_state (sql : String) (params : Option (List Value)) (l : Link) (unbuffered : Bool)
    (j : Journal (Connector τ)) :
    let out := client.execute sql params l unbuffered j.state.client
    (run client sql params l unbuffered j).2.state =
      (j.state.called (.execute sql params l unbuffered) out.2).record (execution l out.1) := by
  unfold run
  rw [Action.run_bind, run_call]
  rcases client.execute sql params l unbuffered j.state.client with ⟨r, t⟩
  rcases r with (n | ⟨fields, columns, rows⟩) | args | ⟨kind, text⟩
  · rfl
  · dsimp only
    rw [execution]
    rcases FieldMeta.ofAnswer fields columns with f | ms <;> rfl
  · rfl
  · rfl

/-- A statement fails only because the server refuses it, and the reason goes to the register of its
link. -/
theorem state_of_run_failed {sql : String} {params : Option (List Value)} {l : Link}
    {unbuffered : Bool} {j : Journal (Connector τ)}
    (h : (run client sql params l unbuffered j).1 = .ok .failed) :
    ∃ args, (client.execute sql params l unbuffered j.state.client).1 = .refused args ∧
      (run client sql params l unbuffered j).2.state =
        (j.state.called (.execute sql params l unbuffered)
          (client.execute sql params l unbuffered j.state.client).2).putError l (.ofArgs args) := by
  have hstate := @run_state _ client sql params l unbuffered j
  unfold run at h
  rw [Action.run_bind, run_call] at h
  rcases hout : client.execute sql params l unbuffered j.state.client with ⟨r, t⟩
  rw [hout] at h hstate
  rcases r with (n | ⟨fields, columns, rows⟩) | args | ⟨kind, text⟩
  · cases h
  · dsimp only at h
    rcases hmeta : FieldMeta.ofAnswer fields columns with f | ms <;> rw [hmeta] at h <;> cases h
  · exact ⟨args, rfl, hstate⟩
  · cases h

/-- The registers of a link are forgotten before it is closed, and whatever becomes of that. -/
theorem close_state (l : Link) (j : Journal (Connector τ)) :
    (close client l j).2.state =
      (j.state.called (.close l) (client.close l j.state.client).2).record (.closed l) := by
  have hcall (j' : Journal (Connector τ)) : ((do
      match ← call (.close l) (client.close l) with
      | .ok _ => return
      | .refused args =>
        Journal.report
          (.of .debug "Closing MySQL connection failed" [("error", .text (errorText args))])
      | .raised kind text => throw (.raised kind text) :
        Action (Journal (Connector τ)) Unit) j').2.state =
      j'.state.called (.close l) (client.close l j'.state.client).2 := by
    rw [Action.run_bind, run_call]
    rcases client.close l j'.state.client with ⟨r, t⟩
    cases r <;> rfl
  exact hcall { j with state := j.state.forget l }

theorem perform_state (r : DriverRequest) (j : Journal (Connector τ)) :
    ((driver client).perform r j).2.state = after client j.state r := by
  have hmap {α β : Type} (a : Action (Journal (Connector τ)) α) (f : α → β) :
      ((f <$> a) j).2 = (a j).2 := by
    rw [map_eq_pure_bind, Action.run_bind]
    rcases a j with ⟨_ | _, j'⟩ <;> rfl
  cases r with
  | connect params =>
    show ((Reply.link <$> connect client params) j).2.state = _
    rw [hmap]
    exact connect_state params j
  | selectDb link database =>
    rcases link with _ | l
    · rfl
    · show ((Reply.truth <$> selectDb client database l) j).2.state = _
      rw [hmap]
      exact selectDb_state database l j
  | execute link sql unbuffered =>
    rcases link with _ | l
    · rfl
    · show ((Reply.outcome <$> run client sql none l unbuffered) j).2.state = _
      rw [hmap]
      exact run_state sql none l unbuffered j
  | prepare link sql => rfl
  | runPrepared p params =>
    show ((Reply.outcome <$> run client p.text (some params) p.link false) j).2.state = _
    rw [hmap]
    exact run_state p.text (some params) p.link false j
  | escape link text => rfl
  | errorText link => rfl
  | errorNumber link => rfl
  | affected link => rfl
  | close link =>
    rcases link with _ | l
    · rfl
    · show (((fun _ => Reply.nothing) <$> close client l) j).2.state = _
      rw [hmap]
      exact close_state l j

/-! ## Runs -/

/-- The registers tell what a history tells. -/
structure Records (c : Connector τ) (h : List Event) : Prop where
  error : ∀ l, c.lastError (some l) = (standing l h).getD {}
  count : ∀ l, c.affectedOf l = count l h
  refusal : c.lastError none = (refusal h).getD {}

theorem records_new (t : τ) : Records { client := t } [] := ⟨fun _ => rfl, fun _ => rfl, rfl⟩

theorem standing_concat (l : Link) (h : List Event) (e : Event) :
    standing l (h ++ [e]) = (errorTold l e).getD (standing l h) := by
  unfold standing
  rw [latest_append, latest_singleton]
  cases errorTold l e <;> rfl

theorem count_concat (l : Link) (h : List Event) (e : Event) :
    Connector.count l (h ++ [e]) = (countTold l e).getD (Connector.count l h) := by
  unfold Connector.count
  rw [latest_append, latest_singleton]
  cases countTold l e <;> rfl

theorem refusal_concat (h : List Event) (e : Event) :
    Connector.refusal (h ++ [e]) = (refusalTold e).getD (Connector.refusal h) := by
  unfold Connector.refusal
  rw [latest_append, latest_singleton]
  cases refusalTold e <;> rfl

theorem lastError_clearError (c : Connector τ) (k l : Link) :
    (c.clearError k).lastError (some l) = if k = l then {} else c.lastError (some l) := by
  show ((Assoc.erase c.errors k).get? l).getD {} = _
  rw [Assoc.get?_erase]
  by_cases h : k = l <;> simp [h, lastError]

theorem lastError_putError (c : Connector τ) (k l : Link) (e : LinkError) :
    (c.putError k e).lastError (some l) = if k = l then e else c.lastError (some l) := by
  show ((Assoc.put c.errors k e).get? l).getD {} = _
  rw [Assoc.get?_put]
  by_cases h : k = l <;> simp [h, lastError]

theorem affectedOf_putAffected (c : Connector τ) (k l : Link) (n : Int) :
    (c.putAffected k n).affectedOf l = if k = l then n else c.affectedOf l := by
  show ((Assoc.put c.affected k n).get? l).getD 0 = _
  rw [Assoc.get?_put]
  by_cases h : k = l <;> simp [h, affectedOf]

theorem affectedOf_forget (c : Connector τ) (k l : Link) :
    (c.forget k).affectedOf l = if k = l then 0 else c.affectedOf l := by
  show ((Assoc.erase c.affected k).get? l).getD 0 = _
  rw [Assoc.get?_erase]
  by_cases h : k = l <;> simp [h, affectedOf]

/-- What the error register of a link holds after an event. -/
theorem lastError_record (c : Connector τ) (e : Event) (l : Link) :
    (c.record e).lastError (some l) =
      (errorTold l e).elim (c.lastError (some l)) fun told => told.getD {} := by
  cases e with
  | opened k => rfl
  | unreachable e => rfl
  | other => rfl
  | closed k =>
    -- closing clears the error as a success does
    refine (lastError_clearError c k l).trans ?_
    rw [errorTold]
    split <;> rfl
  | selected k r | executed k r =>
    cases r with
    | ok n =>
      refine (lastError_clearError _ k l).trans ?_
      rw [errorTold]
      split <;> rfl
    | error e =>
      refine (lastError_putError c k l e).trans ?_
      rw [errorTold]
      split <;> rfl

theorem affectedOf_record (c : Connector τ) (e : Event) (l : Link) :
    (c.record e).affectedOf l = (countTold l e).getD (c.affectedOf l) := by
  cases e with
  | opened k => rfl
  | unreachable e => rfl
  | other => rfl
  | selected k r => cases r <;> rfl
  | closed k =>
    refine (affectedOf_forget c k l).trans ?_
    rw [countTold]
    split <;> rfl
  | executed k r =>
    cases r with
    | ok n =>
      refine (affectedOf_putAffected c k l n).trans ?_
      rw [countTold]
      split <;> rfl
    | error e => rfl

theorem connectError_record (c : Connector τ) (e : Event) :
    (c.record e).lastError none =
      (refusalTold e).elim (c.lastError none) fun told => told.getD {} := by
  cases e with
  | selected k r | executed k r => cases r <;> rfl
  | _ => rfl

/-- The registers go on telling what the history tells. -/
theorem Records.record {c : Connector τ} {h : List Event} (hc : Records c h) (e : Event) :
    Records (c.record e) (h ++ [e]) where
  error l := by
    rw [lastError_record, standing_concat, hc.error]
    cases errorTold l e <;> rfl
  count l := by rw [affectedOf_record, count_concat, hc.count]
  refusal := by
    rw [connectError_record, refusal_concat, hc.refusal]
    cases refusalTold e <;> rfl

theorem Records.after {c : Connector τ} {h : List Event} (hc : Records c h) (r : DriverRequest) :
    Records (after client c r) (h ++ [(answered client c r).1]) := by
  -- the call itself leaves the registers alone
  have hcalled : Records (answered client c r).2 h := by
    unfold answered
    split <;> exact ⟨hc.error, hc.count, hc.refusal⟩
  exact hcalled.record _

theorem Records.run {c : Connector τ} {h : List Event} (hc : Records c h)
    (rs : List DriverRequest) :
    Records (rs.foldl (Connector.after client) c) (h ++ history client rs c) := by
  induction rs generalizing c h with
  | nil => simpa [history] using hc
  | cons r rs ih =>
    have hrest : Records _ ((h ++ _) ++ _) := ih (@Records.after _ client _ _ hc r)
    rw [List.append_assoc] at hrest
    exact hrest

variable (client) in
/-- The driver after requests, carried out one after the other. -/
def runAll (rs : List DriverRequest) (j : Journal (Connector τ)) : Journal (Connector τ) :=
  rs.foldl (fun j r => ((driver client).perform r j).2) j

variable (client) in
theorem runAll_state (rs : List DriverRequest) (j : Journal (Connector τ)) :
    (runAll client rs j).state = rs.foldl (after client) j.state := by
  induction rs generalizing j with
  | nil => rfl
  | cons r rs ih =>
    refine (ih _).trans ?_
    rw [perform_state]
    rfl

variable (client) in
/-- After any requests the driver names as the error of a link that of the last selection or statement
on it, if that one failed and the link was not closed since, and as its number of rows that of the
last statement on it that succeeded since it was closed or, if it is new in the run, was opened. As
the error of connecting it names that of the last attempt. -/
theorem registers_tell_history (t : τ) (rs : List DriverRequest) :
    let d := driver client
    let j := runAll client rs { state := { client := t } }
    let h := history client rs { client := t }
    (∀ l, (d.perform (.errorNumber (some l)) j).1 = .ok (.number ((standing l h).getD {}).number) ∧
      (d.perform (.errorText (some l)) j).1 = .ok (.text ((standing l h).getD {}).text) ∧
      (d.perform (.affected (some l)) j).1 = .ok (.number (count l h))) ∧
    (d.perform (.errorNumber none) j).1 = .ok (.number ((refusal h).getD {}).number) ∧
    (d.perform (.errorText none) j).1 = .ok (.text ((refusal h).getD {}).text) ∧
    ∀ l h₁ h₂, h = h₁ ++ .opened l :: h₂ → (∀ e ∈ h₁, e.link? ≠ some l) →
      standing l h = standing l h₂ ∧ count l h = count l h₂ := by
  intro d j h
  have hrecords : Records j.state h := by
    rw [runAll_state]
    exact (records_new t).run rs
  have hnumber (l : Option Link) :
      (d.perform (.errorNumber l) j).1 = .ok (.number (j.state.lastError l).number) := rfl
  have htext (l : Option Link) :
      (d.perform (.errorText l) j).1 = .ok (.text (j.state.lastError l).text) := rfl
  have haffected (l : Link) :
      (d.perform (.affected (some l)) j).1 = .ok (.number (j.state.affectedOf l)) := rfl
  refine ⟨fun l => ?_, ?_, ?_, fun l h₁ h₂ hsplit hnew => ?_⟩
  · rw [hnumber, htext, haffected, hrecords.error, hrecords.count]
    exact ⟨rfl, rfl, rfl⟩
  · rw [hnumber, hrecords.refusal]
  · rw [htext, hrecords.refusal]
  · rw [hsplit]
    exact since_opened hnew

/-- A statement that fails after one that succeeded, on a link that was opened before both. -/
theorem failure_keeps_count :
    let params : ConnectionParams := { host := "db", user := "app", password := ⟨"x"⟩ }
    let l := newLink 1
    let requests : List DriverRequest :=
      [.connect params, .execute (some l) "DELETE FROM t" false, .execute (some l) "DELET" false]
    let script : ClientScript :=
      { answers := [.ok (.count 3), .refused [.int 1064, .text "syntax error"]] }
    let d := driver ClientScript.client
    let j := runAll ClientScript.client requests { state := { client := script } }
    let h := history ClientScript.client requests { client := script }
    let since : List Event := [.executed l (.ok 3), .executed l (.error ⟨1064, "syntax error"⟩)]
    h = [] ++ .opened l :: since ∧ (∀ e ∈ ([] : List Event), e.link? ≠ some l) ∧
      (d.perform (.errorNumber (some l)) j).1 = .ok (.number 1064) ∧
      (d.perform (.affected (some l)) j).1 = .ok (.number 3) ∧
      standing l h = standing l since ∧ count l h = count l since := by
  intro params l requests script d j h since
  have hsplit : h = [] ++ .opened l :: since := rfl
  have hnew : ∀ e ∈ ([] : List Event), e.link? ≠ some l := fun e he => by cases he
  obtain ⟨hlinks, -, -, hopened⟩ := registers_tell_history ClientScript.client script requests
  obtain ⟨hnumber, -, haffected⟩ := hlinks l
  exact ⟨hsplit, hnew, hnumber, haffected, hopened l [] since hsplit hnew⟩

end SqlDesk.Connector
