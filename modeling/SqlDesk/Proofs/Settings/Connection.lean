import SqlDesk.Driver.Client
import SqlDesk.Proofs.Settings.Environment
import SqlDesk.Settings.Server

/-!
# Where the connection of a role goes

The connections of the user and of the auxiliary role go where the login settings say. The control
connection has credentials of its own and may have a host and a port of its own. Its host takes the
place of the socket; its port alone does not, and is not looked at as long as there is a socket.
-/

namespace SqlDesk

open Settings

/-- No text of connection parameters that is not secret has a reference to the environment. -/
structure ConnectionParams.Plain (p : ConnectionParams) : Prop where
  host : ¬ HasReference p.host.toList
  socket : ∀ path, p.socket = some path → ¬ HasReference path.toList
  user : ¬ HasReference p.user.toList
  charset : ¬ HasReference p.charset.toList

theorem ConnectionParams.Plain.expand_eq {p : ConnectionParams} (h : p.Plain) (env : Environment) :
    p.expand env = p := by
  have hsocket : p.socket.map env.expand = p.socket := by
    cases hpath : p.socket with
    | none => rfl
    | some path =>
      exact congrArg some (env.expand_of_not_hasReference (h.socket path hpath))
  unfold expand
  rw [env.expand_of_not_hasReference h.host, env.expand_of_not_hasReference h.user,
    env.expand_of_not_hasReference h.charset, hsocket]

/-- Where a socket, a host and a port lead to: to the socket, if one is named. -/
def Address.reached (socket : Option String) (host : String) (port : Int) : Address :=
  match socket with
  | some path => if path.isEmpty then .tcp host port else .socket path
  | none => .tcp host port

theorem Address.reached_eq_tcp_iff {socket : Option String} {host : String} {port : Int} :
    Address.reached socket host port = .tcp host port ↔ ¬ ∃ path, socket = some path ∧ path ≠ "" := by
  rcases socket with _ | path
  · simp [reached]
  · by_cases hpath : path = "" <;> simp [reached, hpath]

theorem ConnectionParams.clientOptions_address (p : ConnectionParams) :
    p.clientOptions.address = .reached p.socket p.host p.port := by
  unfold clientOptions Address.reached
  cases p.socket <;> rfl

namespace ServerSettings

variable (s : ServerSettings)

/-- No text of the settings that says who connects and where has a reference to the environment. -/
structure Plain : Prop where
  host : ¬ HasReference s.host.toList
  socket : ∀ path, s.socket = some path → ¬ HasReference path.toList
  user : ¬ HasReference s.user.toList
  controlUser : ¬ HasReference s.controlUser.toList
  controlHost : ¬ HasReference s.controlHost.toList

/-- The address of the login: a socket, if one is named, else host and port. -/
def loginAddress : Address := .reached s.socket s.host s.port

/-- The settings give the control connection a host or a port of its own. -/
def Overrides : Prop := s.controlHost ≠ "" ∨ s.controlPort ≠ none

/-- The host and port of the control connection, those of the login standing in for what is not
overridden. -/
def controlAddress : Address :=
  .tcp (if s.controlHost = "" then s.host else s.controlHost) (s.controlPort.getD s.port)

/-- The control connection has a port of its own, but no host, and the login has a socket. -/
def PortBehindSocket : Prop :=
  s.controlPort ≠ none ∧ s.controlHost = "" ∧ ∃ path, s.socket = some path ∧ path ≠ ""

/-- The parameters of the login. -/
def login : ConnectionParams where
  host := s.host
  port := s.port
  socket := s.socket
  user := s.user
  password := s.password
  connectTimeout := s.connectTimeout

/-- The parameters of the control connection. -/
def control : ConnectionParams where
  host := if s.controlHost = "" then s.host else s.controlHost
  port := s.controlPort.getD s.port
  socket := if s.controlHost = "" then s.socket else none
  user := s.controlUser
  password := s.controlPass
  connectTimeout := s.connectTimeout

variable {s}

theorem Plain.login (h : s.Plain) : s.login.Plain where
  host := h.host
  socket := h.socket
  user := h.user
  charset := not_hasReference_of_notMem (show '$' ∉ "utf8mb4".toList by decide)

theorem plain_of_notMem
    (h : '$' ∉ (s.host ++ s.socket.getD "" ++ s.user ++ s.controlUser ++ s.controlHost).toList) :
    s.Plain := by
  simp only [String.toList_append, List.mem_append, not_or] at h
  obtain ⟨⟨⟨⟨hhost, hsocket⟩, huser⟩, hcontrolUser⟩, hcontrolHost⟩ := h
  refine ⟨?_, fun path hpath => ?_, ?_, ?_, ?_⟩
  · exact not_hasReference_of_notMem hhost
  · rw [hpath] at hsocket
    exact not_hasReference_of_notMem hsocket
  · exact not_hasReference_of_notMem huser
  · exact not_hasReference_of_notMem hcontrolUser
  · exact not_hasReference_of_notMem hcontrolHost

/-- A step to the parameters of the control connection brings no reference in. -/
theorem Plain.controlStep (h : s.Plain) {step : ConnectionParams → ConnectionParams}
    (hstep : step ∈ s.controlSteps) {p : ConnectionParams} (hp : p.Plain) : (step p).Plain := by
  unfold controlSteps at hstep
  simp only [List.mem_append, List.mem_cons, List.not_mem_nil, or_false] at hstep
  obtain ((rfl | rfl) | hhost) | hport := hstep
  · exact { hp with user := h.controlUser }
  · exact { hp with }
  · split at hhost
    · cases hhost
    · obtain rfl | rfl : _ ∨ _ := by simpa using hhost
      · exact { hp with host := h.controlHost }
      · exact { hp with socket := nofun }
  · split at hport
    · cases hport
    · obtain rfl := List.mem_singleton.mp hport
      exact { hp with }

theorem foldl_expand_of_plain {steps : List (ConnectionParams → ConnectionParams)}
    (hsteps : ∀ step ∈ steps, ∀ p : ConnectionParams, p.Plain → (step p).Plain)
    {p : ConnectionParams} (hp : p.Plain) (env : Environment) :
    steps.foldl (fun p step => step (p.expand env)) p = steps.foldl (fun p step => step p) p := by
  induction steps generalizing p with
  | nil => rfl
  | cons step steps ih =>
    rw [List.foldl_cons, List.foldl_cons, hp.expand_eq env]
    exact ih (fun step h => hsteps step (List.mem_cons_of_mem _ h))
      (hsteps step List.mem_cons_self p hp)

theorem foldl_controlSteps (s : ServerSettings) :
    s.controlSteps.foldl (fun p step => step p) s.login = s.control := by
  unfold controlSteps control
  by_cases hhost : s.controlHost = "" <;> cases s.controlPort <;> simp [hhost, ServerSettings.login]

/-- Where nothing refers to the environment, the parameters of a role are those of the settings. -/
theorem connectionParams_of_plain (h : s.Plain) (env : Environment) (role : Role) :
    s.connectionParams env role = if role = .control then s.control else s.login := by
  have hlogin : s.loginParams env = s.login := h.login.expand_eq env
  unfold connectionParams
  rw [hlogin]
  cases role with
  | control =>
    have hsteps := foldl_expand_of_plain (fun _ hstep _ => h.controlStep hstep) h.login env
    exact hsteps.trans (foldl_controlSteps s)
  | user | auxiliary => rfl

/-! ## Addresses -/

theorem address_login (s : ServerSettings) : s.login.clientOptions.address = s.loginAddress :=
  ConnectionParams.clientOptions_address _

/-- Without a host of its own the control connection uses the socket of the login. -/
theorem address_control (s : ServerSettings) :
    s.control.clientOptions.address =
      if s.controlHost = "" then .reached s.socket s.host (s.controlPort.getD s.port)
      else s.controlAddress := by
  rw [ConnectionParams.clientOptions_address]
  unfold control controlAddress
  split
  · rfl
  · rfl

/-- What is overridden takes effect unless a socket hides the port. -/
theorem address_control_eq_iff (h : s.Overrides) :
    s.control.clientOptions.address = s.controlAddress ↔ ¬ s.PortBehindSocket := by
  rw [address_control]
  by_cases hhost : s.controlHost = ""
  · have hport : s.controlPort ≠ none := h.resolve_left (not_not_intro hhost)
    have hhidden : s.PortBehindSocket ↔ ∃ path, s.socket = some path ∧ path ≠ "" :=
      ⟨fun h => h.2.2, fun h => ⟨hport, hhost, h⟩⟩
    rw [if_pos hhost, hhidden, ← Address.reached_eq_tcp_iff]
    unfold controlAddress
    rw [if_pos hhost]
  · rw [if_neg hhost]
    exact ⟨fun _ hhidden => hhost hhidden.2.1, fun _ => rfl⟩

/-- Without an override that takes effect, the control connection goes where the login goes. -/
theorem address_control_of_hidden (h : ¬ s.Overrides ∨ s.PortBehindSocket) :
    s.control.clientOptions.address = s.loginAddress := by
  rw [address_control]
  unfold loginAddress
  rcases h with hnone | ⟨-, hhost, path, hsocket, hpath⟩
  · obtain ⟨hhost, hport⟩ := not_or.mp hnone
    rw [if_pos (not_not.mp hhost), not_not.mp hport]
    rfl
  · rw [if_pos hhost, hsocket]
    simp [Address.reached, hpath]

end ServerSettings

end SqlDesk
