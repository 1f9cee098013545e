import SqlDesk.Proofs.Desk.Request

/-!
# What connecting does

A desk connects as its control user only if one is configured. Otherwise it asks its driver for a
connection, once. If the driver gives none, nothing but a report comes of it; if it does, the link
is used for the role from then on, and a link of the user is set up by statements.
-/

namespace SqlDesk

variable {σ : Type}

/-- The state with further reports. -/
def DeskState.reporting (s : DeskState σ) (events : List Log.Event) : DeskState σ :=
  s.logging s.memory.log (s.world.journal.events ++ events)

theorem DeskState.reporting_nil (s : DeskState σ) : s.reporting [] = s := by
  unfold reporting
  rw [List.append_nil]
  rfl

theorem DeskState.reporting_append (s : DeskState σ) (events events' : List Log.Event) :
    s.reporting (events ++ events') = (s.reporting events).reporting events' := by
  unfold reporting
  rw [← List.append_assoc]
  rfl

namespace Desk

open Act

variable (desk : Desk σ)

/-- The parameters with which a role connects. -/
def paramsOf (role : Role) (server : Option ServerSettings) : ConnectionParams :=
  (server.getD desk.settings.server).connectionParams desk.env role

/-- The role is that of a control user who is not configured. -/
def Unconfigured (role : Role) (server : Option ServerSettings) : Prop :=
  role = .control ∧ !(server.getD desk.settings.server).hasControlUser

instance (role : Role) (server : Option ServerSettings) :
    Decidable (desk.Unconfigured role server) := inferInstanceAs (Decidable (_ ∧ _))

/-- What the driver answers to a connection attempt of a role. -/
def answerTo (role : Role) (server : Option ServerSettings) (s : DeskState σ) :
    Except Error (Option Link) :=
  (desk.driver.connect (desk.paramsOf role server) s.world.journal).1

/-- The state after a connection attempt of a role. -/
def attempted (role : Role) (server : Option ServerSettings) (s : DeskState σ) : DeskState σ :=
  { s with world := { s.world with
    journal := (desk.driver.connect (desk.paramsOf role server) s.world.journal).2
    calls := s.world.calls ++ [.connect (desk.paramsOf role server)] } }

/-- The state once a link is used for a role. -/
def linked (role : Role) (link : Link) (s : DeskState σ) : DeskState σ :=
  { s with memory := { s.memory with links := Assoc.put s.memory.links role (some link) } }

variable {role : Role} {server : Option ServerSettings} {s : DeskState σ}

/-- What comes of an attempt that gives no link. -/
def giveUp (role : Role) (server : Option ServerSettings) : Act σ (Option Link) := do
  let e := desk.driver.lastError (← get).world.journal.state none
  let params := desk.paramsOf role server
  if role = .user then throw (.refused (connectionFailed e params role))
  report .warning "Connection failed" (failureFacts e params role)
  return none

/-- What follows once a link is used for a role. -/
def setUp (role : Role) (server : ServerSettings) (link : Link) : Act σ (Option Link) := do
  if role = .user then desk.postConnect server
  return some link

/-- The report of a connection. -/
def greeting (role : Role) (server : Option ServerSettings) : Log.Event :=
  let params := desk.paramsOf role server
  .of .info "Connected"
    [("role", .text role.label), ("host", .text params.host), ("port", .int params.port)]

theorem run_connect (role : Role) (server : Option ServerSettings) (s : DeskState σ) :
    desk.connect role server s =
      if desk.Unconfigured role server then
        (.ok none, s.reporting [.of .debug "No control user configured" []])
      else match desk.answerTo role server s with
        | .error e => (.error e, desk.attempted role server s)
        | .ok none => desk.giveUp role server (desk.attempted role server s)
        | .ok (some link) => desk.setUp role (server.getD desk.settings.server) link
            ((linked role link (desk.attempted role server s)).reporting
              [desk.greeting role server]) := by
  unfold connect answerTo attempted paramsOf
  dsimp only
  by_cases h : role = .control ∧ !(server.getD desk.settings.server).hasControlUser
  · have hunconfigured : desk.Unconfigured role server := h
    rw [if_pos h, if_pos hunconfigured]
    rfl
  · have hconfigured : ¬ desk.Unconfigured role server := h
    rw [if_neg h, if_neg hconfigured, run_bind, run_request]
    rcases desk.driver.connect _ s.world.journal with ⟨e | _ | link, j⟩ <;> rfl

theorem connect_of_unconfigured (h : desk.Unconfigured role server) :
    ∃ e, desk.connect role server s = (.ok none, s.reporting [e]) := by
  rw [run_connect, if_pos h]
  exact ⟨_, rfl⟩

theorem giveUp_reports (role : Role) (server : Option ServerSettings) (s : DeskState σ) :
    ∃ r events, desk.giveUp role server s = (r, s.reporting events) := by
  unfold giveUp
  rw [run_bind, run_get]
  dsimp only
  by_cases hrole : role = .user
  · rw [if_pos hrole]
    exact ⟨.error _, [], by rw [DeskState.reporting_nil]; rfl⟩
  · rw [if_neg hrole]
    exact ⟨.ok none, [_], rfl⟩

theorem connect_of_unreachable (hconfigured : ¬ desk.Unconfigured role server)
    (h : ∀ link, desk.answerTo role server s ≠ .ok (some link)) :
    ∃ r events, desk.connect role server s =
      (r, (desk.attempted role server s).reporting events) := by
  rw [run_connect, if_neg hconfigured]
  rcases hanswer : desk.answerTo role server s with e | _ | link
  · exact ⟨.error e, [], by rw [DeskState.reporting_nil]⟩
  · exact desk.giveUp_reports role server _
  · exact absurd hanswer (h link)

/-- The link that the driver gives is used from then on, and that of the user is set up. -/
theorem connect_of_reachable (hconfigured : ¬ desk.Unconfigured role server) {link : Link}
    (h : desk.answerTo role server s = .ok (some link)) :
    desk.connect role server s = desk.setUp role (server.getD desk.settings.server) link
      ((linked role link (desk.attempted role server s)).reporting
        [desk.greeting role server]) := by
  rw [run_connect, if_neg hconfigured, h]

/-- A link is set up by statements of the user, from which the version and the character set are
learnt. -/
theorem setUp_routine {l : Licence} (hask : ∀ sql, Sql.SetsUp sql → l.asks sql .user)
    (hversion : l.changes .version) (hcollation : l.changes .collation)
    (hdatabases : l.changes .databases) (role : Role) (server : ServerSettings) (link : Link) :
    Routine desk l (desk.setUp role server link) := by
  unfold setUp
  dsimp only
  split
  · exact (postConnect_routine hask hversion hcollation hdatabases _).andThen fun _ => .pure _
  · exact .pure _

/-- The state once a role has no connection any more. -/
def unlinked (role : Role) (s : DeskState σ) : DeskState σ :=
  { s with memory := { s.memory with links := Assoc.erase s.memory.links role } }

/-- The state after the driver was asked to close a connection. -/
def released (link : Link) (s : DeskState σ) : DeskState σ :=
  { s with world := { s.world with
    journal := (desk.driver.close link s.world.journal).2
    calls := s.world.calls ++ [.close link] } }

theorem close_of_linkOf_eq_none (h : s.memory.linkOf role = none) :
    desk.close role s = (.ok (), unlinked role s) := by
  unfold close
  rw [run_bind, run_memory]
  dsimp only
  rw [run_bind, run_remember, h]
  rfl

theorem close_of_linkOf {link : Link} (h : s.memory.linkOf role = some link) :
    ∃ events, desk.close role s = ((desk.driver.close link s.world.journal).1,
      (desk.released link (unlinked role s)).reporting events) := by
  unfold close released unlinked
  rw [run_bind, run_memory]
  dsimp only
  rw [run_bind, run_remember, h]
  dsimp only
  rw [run_bind, run_request]
  dsimp only
  rcases desk.driver.close link s.world.journal with ⟨e | _, j⟩
  · exact ⟨[], by rw [DeskState.reporting_nil]⟩
  · exact ⟨[_], rfl⟩

/-- A row from which no version can be read is reported at most. -/
theorem setVersion_of_unreadable {row : Value}
    (h : ∀ version, ServerVersion.ofRow row ≠ .ok (some version)) (s : DeskState σ) :
    ∃ r events, setVersion row s = (r, s.reporting events) := by
  unfold setVersion
  rw [run_bind, run_ofFault]
  rcases hrow : ServerVersion.ofRow row with f | _ | version
  · exact ⟨.error (.fault f), [], by rw [DeskState.reporting_nil]; rfl⟩
  · exact ⟨.ok (), [_], rfl⟩
  · exact absurd hrow (h version)

end Desk

end SqlDesk
