import SqlDesk.Driver.Script
import SqlDesk.Proofs.Desk.Query
import SqlDesk.Proofs.Desk.Run

/-!
# Which errors a desk shows

Whatever is asked of a desk, its driver is changed by the requests that the desk records and by
nothing else. So the registers of the driver over a client library tell the history of all requests,
those of the desk and those that are made of its driver directly, as when a prepared statement is
executed. A desk shows the error that stands on a connection, unless the number of that error is zero.
-/

namespace SqlDesk

open Act

variable {τ : Type} {client : Client τ}

theorem Call.effect_state (c : Call) (j : Journal (Connector τ)) :
    (c.effect (Connector.driver client) j).state = Connector.after client j.state c.request := by
  cases c with
  | connect params => exact Connector.connect_state params j
  | selectDb link database => exact Connector.selectDb_state database link j
  | query link sql unbuffered => exact Connector.run_state sql none link unbuffered j
  | prepare link sql => rfl
  | close link => exact Connector.close_state link j

namespace Desk

/-! ## What changes the driver -/

variable (client) in
/-- The driver has carried out the requests that were recorded between two states. -/
def Ran (s s' : DeskState (Connector τ)) : Prop :=
  ∃ calls, s'.world.calls = s.world.calls ++ calls ∧
    s'.world.journal.state =
      (calls.map Call.request).foldl (Connector.after client) s.world.journal.state

theorem Ran.of_eq {s s' : DeskState (Connector τ)} (hcalls : s'.world.calls = s.world.calls)
    (hstate : s'.world.journal.state = s.world.journal.state) : Ran client s s' :=
  ⟨[], by simpa using hcalls, hstate⟩

theorem ran_loose : Loose (Connector.driver client) (fun _ => True) (Ran client) where
  refl s := .of_eq rfl rfl
  trans := by
    rintro s t u ⟨cs, hcs, hs⟩ ⟨ds, hds, ht⟩
    refine ⟨cs ++ ds, by rw [hds, hcs, List.append_assoc], ?_⟩
    rw [ht, hs, List.map_append, List.foldl_append]
  events s es := .of_eq rfl rfl
  request s c log readings _ := ⟨[c], rfl, c.effect_state s.world.journal⟩
  memory s memory _ := .of_eq rfl rfl
  storage s storage := .of_eq rfl rfl

theorem perform_ran (desk : Desk (Connector τ)) (r : Request) (s : DeskState (Connector τ)) :
    Ran client s ((desk.withClient client).perform r s).2 :=
  (desk.withClient client).perform_moves ran_loose (fun _ _ _ _ => .of_eq rfl rfl)
    (fun _ => .of_eq rfl rfl) r s

/-! ## Runs -/

theorem move_state (desk : Desk (Connector τ)) (s : DeskState (Connector τ)) (m : Move) :
    ((desk.withClient client).move s m).2.world.journal.state =
      ((desk.withClient client).move s m).1.foldl (Connector.after client) s.world.journal.state := by
  cases m with
  | ask r =>
    obtain ⟨calls, hcalls, hstate⟩ := @perform_ran _ client desk r s
    have hdrop : ((desk.withClient client).perform r s).2.world.calls.drop s.world.calls.length =
        calls := by
      rw [hcalls, List.drop_left]
    unfold move
    dsimp only
    rw [hdrop]
    exact hstate
  | drive r => exact Connector.perform_state r s.world.journal

theorem run_state (desk : Desk (Connector τ)) (ms : List Move) (s : DeskState (Connector τ)) :
    ((desk.withClient client).run ms s).2.world.journal.state =
      ((desk.withClient client).run ms s).1.foldl (Connector.after client) s.world.journal.state := by
  induction ms generalizing s with
  | nil => rfl
  | cons m ms ih =>
    unfold run
    rw [List.foldl_append, ← move_state]
    exact ih _

/-! ## What is shown -/

/-- The arguments of a server error begin with a number other than zero, and there are more. -/
def Numbered : List Value → Prop
  | .int n :: _ :: _ => n ≠ 0
  | .bool b :: _ :: _ => b = true
  | _ => False

theorem number_ofArgs_ne_zero {args : List Value} :
    (LinkError.ofArgs args).number ≠ 0 ↔ Numbered args := by
  rcases args with _ | ⟨v, _ | ⟨w, rest⟩⟩
  · simp [LinkError.ofArgs, Numbered]
  · simp [LinkError.ofArgs, Numbered]
  · cases v with
    | int n => rfl
    | bool b => cases b <;> simp [LinkError.ofArgs, Numbered]
    | _ => simp [LinkError.ofArgs, Numbered]

theorem formatError_ne_empty (number : Int) (text : String) : formatError number text ≠ "" := by
  intro h
  have hlist := congrArg String.toList h
  unfold formatError at hlist
  simp at hlist

theorem text_infix_formatError (number : Int) (text : String) :
    text.toList <:+: (formatError number text).toList := by
  refine ⟨("#" ++ toString number ++ " - ").toList, (advice number text).toList, ?_⟩
  simp only [formatError, String.toList_append]

/-- The error of a role's connection as it is shown. -/
theorem errorText_of_linkOf {σ : Type} (desk : Desk σ) {role : Role} {l : Link} {s : DeskState σ}
    (h : s.memory.linkOf role = some l) :
    desk.errorText role s =
      let e := desk.driver.lastError s.world.journal.state (some l)
      (.ok (if e.number = 0 then "" else formatError e.number e.text), s) := by
  unfold errorText
  rw [run_bind, desk.lastError_of_linkOf h]
  rfl

/-- After any run, nothing is shown as the error of a role's connection if no error stands on it. Of
one that does, number and text are shown if the arguments it came with begin with a number other than
zero and there are more; of any other error nothing is shown. -/
theorem errorText_shows_numbered (client : Client τ) (desk : Desk (Connector τ)) (ms : List Move)
    (t : τ) (memory : Memory) (world : World (Connector τ)) {role : Role} {l : Link} :
    let start : DeskState (Connector τ) :=
      ⟨memory, { world with journal := { world.journal with state := { client := t } } }⟩
    let requests := ((desk.withClient client).run ms start).1
    let s := ((desk.withClient client).run ms start).2
    let h := Connector.history client requests { client := t }
    s.memory.linkOf role = some l → ∃ text,
      (desk.withClient client).errorText role s = (.ok text, s) ∧
      (Connector.standing l h = none → text = "") ∧
      ∀ args, Connector.standing l h = some (.ofArgs args) →
        let e := LinkError.ofArgs args
        (text ≠ "" ↔ Numbered args) ∧
        (Numbered args → text = formatError e.number e.text ∧ e.text.toList <:+: text.toList) := by
  intro start requests s h hlink
  have hrecords : Connector.Records s.world.journal.state h := by
    have hrun : Connector.Records _ ([] ++ h) := (Connector.records_new t).run requests
    rw [show s.world.journal.state = _ from desk.run_state ms start]
    exact hrun
  -- the register is the standing error of the link's history
  have hregister : (desk.withClient client).driver.lastError s.world.journal.state (some l) =
      (Connector.standing l h).getD {} := hrecords.error l
  refine ⟨_, errorText_of_linkOf _ hlink, ?_, ?_⟩
  · intro hnone
    rw [hregister, hnone]
    rfl
  · intro args hstanding e
    rw [hregister, hstanding, Option.getD_some, ← number_ofArgs_ne_zero]
    by_cases hzero : e.number = 0
    · simp [e, hzero]
    · rw [if_neg hzero]
      exact ⟨⟨fun _ => hzero, fun _ => formatError_ne_empty _ _⟩,
        fun _ => ⟨rfl, text_infix_formatError _ _⟩⟩

/-- A statement that is denied. -/
theorem denied_statement_shown :
    let desk : Desk (Connector ClientScript) :=
      { driver := Connector.driver ClientScript.client, clock := fun _ => .int 0, scope := "" }
    let script : ClientScript := { answers := [.refused [.int 1142, .text "command denied"]] }
    let s := (desk.run [.ask (.tryQuery "SELECT 1" .user false false)]
      ⟨{ links := [(.user, some ⟨"c"⟩)] }, { journal := { state := { client := script } } }⟩).2
    s.memory.linkOf .user = some ⟨"c"⟩ ∧
      (desk.errorText .user s).1 = .ok "#1142 - command denied" := by
  intro desk script s
  have hlink : s.memory.linkOf .user = some ⟨"c"⟩ := rfl
  have hnumbered : Numbered [.int 1142, .text "command denied"] := by
    show (1142 : Int) ≠ 0
    decide
  obtain ⟨text, hshown, -, htext⟩ := errorText_shows_numbered ClientScript.client desk
    [.ask (.tryQuery "SELECT 1" .user false false)] script { links := [(.user, some ⟨"c"⟩)] }
    { journal := { state := { client := script } } } hlink
  obtain ⟨rfl, -⟩ := (htext [.int 1142, .text "command denied"] rfl).2 hnumbered
  exact ⟨hlink, congrArg Prod.fst hshown⟩

/-- An error that the client library tells by a text alone stands on the connection and is not
shown. -/
theorem packet_error_hidden :
    let desk : Desk (Connector ClientScript) :=
      { driver := Connector.driver ClientScript.client, clock := fun _ => .int 0, scope := "" }
    let text := "Packet sequence number wrong - got 2 expected 1"
    let script : ClientScript := { answers := [.refused [.text text]] }
    let ran := desk.run [.ask (.tryQuery "SELECT 1" .user false false)]
      ⟨{ links := [(.user, some ⟨"c"⟩)] }, { journal := { state := { client := script } } }⟩
    let h := Connector.history ClientScript.client ran.1 { client := script }
    ran.2.memory.linkOf .user = some ⟨"c"⟩ ∧ Connector.standing ⟨"c"⟩ h = some ⟨0, text⟩ ∧
      (desk.errorText .user ran.2).1 = .ok "" := ⟨rfl, rfl, rfl⟩

end Desk

end SqlDesk
