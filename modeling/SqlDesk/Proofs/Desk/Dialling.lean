import SqlDesk.Proofs.Desk.Query
import SqlDesk.Proofs.Desk.Request
import SqlDesk.Proofs.Desk.Connection
import SqlDesk.Proofs.Settings.Connection

/-!
# What a desk dials

To connect as a role, a desk asks the client library for one connection, with the credentials and the
address that the settings give for the role. Nothing that follows asks for another.
-/

namespace SqlDesk

open Act

variable {τ : Type}

/-- The connection that is asked for by a call of a client library. -/
def ClientCall.dialled : ClientCall → Option ClientOptions
  | .connect o => some o
  | _ => none

/-- Whatever is made of an answer, the calls of the client library stay on record. -/
theorem Connector.record_calls (c : Connector τ) (e : Connector.Event) :
    (c.record e).calls = c.calls := by
  cases e with
  | selected l r | executed l r => cases r <;> rfl
  | _ => rfl

namespace Desk

/-- The connections that the client library was asked for. -/
def dialled (s : DeskState (Connector τ)) : List ClientOptions :=
  s.world.journal.state.calls.filterMap ClientCall.dialled

/-- The licence to make no request of the driver but statements. -/
def Licence.statements : Licence where
  asks _ _ := True
  makes _ := False
  changes _ := True

variable (client : Client τ) (desk : Desk (Connector τ))

theorem dialled_steady :
    (desk.withClient client).Steady .statements fun s t => dialled t = dialled s where
  refl _ := rfl
  trans h h' := h'.trans h
  post _ _ := rfl
  statement {sql} {role} {link} unbuffered s _ _ := by
    have hran : ((desk.withClient client).outcome sql link unbuffered s).2.state.calls =
        s.world.journal.state.calls ++ [.execute sql none link unbuffered] := by
      have hstate := @Connector.run_state _ client sql none link unbuffered s.world.journal
      exact (congrArg Connector.calls hstate).trans (Connector.record_calls _ _)
    rw [measured_run]
    unfold dialled
    dsimp only
    rw [hran, List.filterMap_append]
    exact List.append_nil _
  request _ _ hmake := hmake.elim
  change _ _ _ := rfl
  storage _ _ _ := rfl

variable {client desk} {role : Role} {server : Option ServerSettings}

/-- Connecting as a role asks the client library for one connection, unless it is as a control user
who is not configured. -/
theorem dialled_connect (hconfigured : ¬ desk.Unconfigured role server)
    (s : DeskState (Connector τ)) :
    dialled ((desk.withClient client).connect role server s).2 =
      dialled s ++ [(desk.paramsOf role server).clientOptions] := by
  have hattempted : dialled ((desk.withClient client).attempted role server s) =
      dialled s ++ [(desk.paramsOf role server).clientOptions] := by
    have hstate := @Connector.connect_state _ client (desk.paramsOf role server) s.world.journal
    have hcalls := (congrArg Connector.calls hstate).trans (Connector.record_calls _ _)
    unfold dialled
    exact (congrArg (List.filterMap ClientCall.dialled) hcalls).trans List.filterMap_append
  have hconfigured' : ¬ (desk.withClient client).Unconfigured role server := hconfigured
  by_cases hreached : ∃ link, (desk.withClient client).answerTo role server s = .ok (some link)
  · obtain ⟨link, hlink⟩ := hreached
    have hsetup := (desk.withClient client).setUp_routine (l := .statements)
      (fun _ _ => trivial) trivial trivial trivial role (server.getD desk.settings.server) link
    rw [(desk.withClient client).connect_of_reachable hconfigured' hlink]
    exact (hsetup.moves (dialled_steady client desk) _).trans hattempted
  · obtain ⟨r, events, hrun⟩ := (desk.withClient client).connect_of_unreachable (s := s)
      hconfigured' fun link hlink => hreached ⟨link, hlink⟩
    rw [hrun]
    exact hattempted

/-- A desk that connects as a role asks for one connection. The roles of the login use the login. The
control user has credentials of their own, and goes to the host and port that are overridden exactly
if it is not the port alone while there is a socket, which is then used. -/
theorem connect_dials (client : Client τ) (desk : Desk (Connector τ))
    (server : Option ServerSettings) (s : DeskState (Connector τ)) :
    let settings := server.getD desk.settings.server
    settings.hasControlUser = true → settings.Plain → ∀ role, ∃ o,
      dialled ((desk.withClient client).connect role server s).2 = dialled s ++ [o] ∧
      (role ≠ .control →
        o.user = settings.user ∧ o.password = settings.password.text ∧
          o.address = settings.loginAddress) ∧
      (role = .control →
        o.user = settings.controlUser ∧ o.password = settings.controlPass.text ∧
          (settings.Overrides →
            (o.address = settings.controlAddress ↔ ¬ settings.PortBehindSocket)) ∧
          (¬ settings.Overrides ∨ settings.PortBehindSocket →
            o.address = settings.loginAddress)) := by
  intro settings huser hplain role
  have hconfigured : ¬ desk.Unconfigured role server := by
    rintro ⟨-, hmissing⟩
    have hnone : settings.hasControlUser = false := by simpa using hmissing
    exact Bool.false_ne_true (hnone.symm.trans huser)
  have hparams : desk.paramsOf role server =
      if role = .control then settings.control else settings.login :=
    ServerSettings.connectionParams_of_plain hplain desk.env role
  refine ⟨_, dialled_connect hconfigured s, fun hrole => ?_, fun hrole => ?_⟩
  · rw [hparams, if_neg hrole]
    exact ⟨rfl, rfl, settings.address_login⟩
  · rw [hparams, if_pos hrole]
    exact ⟨rfl, rfl, settings.address_control_eq_iff, settings.address_control_of_hidden⟩

/-- A host of its own takes the control connection away from the socket, also if the server refuses
it; the user stays on it. -/
theorem control_host_dialled :
    let settings : ServerSettings :=
      { socket := some "/run/db.sock", controlUser := "pma", controlPass := ⟨"secret"⟩,
        controlHost := "db2" }
    let desk : Desk (Connector ClientScript) :=
      { driver := Connector.driver ClientScript.client, clock := fun _ => .int 0, scope := "",
        settings := { server := settings } }
    let start : DeskState (Connector ClientScript) :=
      ⟨desk.newMemory, { journal := { state := { client :=
        { connects := [.refused [.int 1045, .text "denied"]] } } } }⟩
    (settings.hasControlUser = true ∧ settings.Plain ∧ settings.Overrides ∧
      ¬ settings.PortBehindSocket) ∧
    (∃ o, dialled (desk.connect .control none start).2 = [o] ∧ o.user = "pma" ∧
      o.password = "secret" ∧ o.address = .tcp "db2" 3306) ∧
    ∃ o, dialled (desk.connect .user none start).2 = [o] ∧ o.user = "root" ∧ o.password = "" ∧
      o.address = .socket "/run/db.sock" := by
  intro settings desk start
  have hplain : settings.Plain := ServerSettings.plain_of_notMem (by decide)
  have huser : settings.hasControlUser = true := by decide
  have hoverrides : settings.Overrides := .inl (by decide)
  have hreached : ¬ settings.PortBehindSocket := fun h => h.1 rfl
  have hdials := connect_dials ClientScript.client desk none start huser hplain
  obtain ⟨o, hcontrol, -, hown⟩ := hdials .control
  obtain ⟨hname, hword, haddress, -⟩ := hown rfl
  obtain ⟨p, hlogin, huse, -⟩ := hdials .user
  exact ⟨⟨huser, hplain, hoverrides, hreached⟩,
    ⟨o, hcontrol, hname, hword, (haddress hoverrides).mpr hreached⟩, p, hlogin, huse (by decide)⟩

/-- A port of its own does not take the control connection away from the socket. -/
theorem control_port_ignored :
    let settings : ServerSettings :=
      { socket := some "/run/mysqld/mysqld.sock", controlUser := "pma",
        controlPass := ⟨"secret"⟩, controlPort := some 3307 }
    let desk : Desk (Connector ClientScript) :=
      { driver := Connector.driver ClientScript.client, clock := fun _ => .int 0, scope := "",
        settings := { server := settings } }
    let start : DeskState (Connector ClientScript) :=
      ⟨desk.newMemory, { journal := { state := { client := {} } } }⟩
    (settings.hasControlUser = true ∧ settings.Plain ∧ settings.Overrides) ∧
      settings.controlAddress = .tcp "localhost" 3307 ∧
      (dialled (desk.connect .control none start).2).map ClientOptions.address =
        [.socket "/run/mysqld/mysqld.sock"] := by
  intro settings desk start
  have hplain : settings.Plain := ServerSettings.plain_of_notMem (by decide)
  exact ⟨⟨by decide, hplain, .inr (by decide)⟩, rfl, by decide +kernel⟩

end Desk

end SqlDesk
